import HeaderAudit.CommandLine.Ending

/-!
# Command lines

The words behind a command, read and checked: an option that only shows something ends the program, then
each value must be what it has to be, in the order in which the options were given, and then each
argument. Too many arguments are found last.
-/

namespace HeaderAudit.CommandLine

structure Ended where
  output : Text
  ending : Ending

def versionText : Text := "header-doctor, version 0.3.0\n"

def inputBytes (disk : Disk) (input : List UInt8) (path : Text) : Except DiskError (List UInt8) :=
  if path = ['-'] then .ok input else disk.readSpelled path

def valueFault (disk : Disk) (value : Text) : ValueKind → Option ValueFault
  | .any => none
  | .directory =>
    match disk.findSpelled value with
    | .ok (.file _) => some (.isFile value)
    | .ok .directory => if disk.isClosedSpelled value then some (.closedDirectory value) else none
    | .error _ => none
  | .file =>
    match disk.findSpelled value with
    | .ok .directory => some (.isDirectory value)
    | .ok (.file _) => if disk.isClosedSpelled value then some (.closedFile value) else none
    | .error _ => none
  | .choice names => if names.contains value then none else some (.notAmong value names)

/-- The kind of rule that a word names, in any letter case. -/
def ruleKind? (word : Text) : Option RuleKind := RuleKind.ofName? (Text.fold word)

def argumentFault (disk : Disk) (input : List UInt8) (word : Text) :
    ArgumentKind → Option ValueFault
  | .any => none
  | .readable =>
    match inputBytes disk input word with
    | .ok _ => none
    | .error e => some (.unreadable word e)
  | .ruleKind =>
    match ruleKind? word with
    | some _ => none
    | none => some (.notAmong word ruleKindNames)

namespace Words

/-- The first option given that only shows something. -/
def notice? (w : Words) : Option OptionSpec := w.options.find? (·.kind = .notice)

def optionMisuse? (disk : Disk) (w : Words) (o : OptionSpec) : Option Misuse :=
  match o.kind, w.value? o with
  | .value kind, some value => (valueFault disk value kind).map (.invalidOption o.names)
  | _, _ => none

def argumentMisuse? (disk : Disk) (input : List UInt8) :
    List ArgumentSpec → List Text → Option Misuse
  | [], _ => none
  | argument :: _, [] => some (.missingArgument argument)
  | argument :: more, word :: rest =>
    match argumentFault disk input word argument.kind with
    | some fault => some (.invalidArgument argument.label fault)
    | none => argumentMisuse? disk input more rest

def misuse? (disk : Disk) (input : List UInt8) (c : Command) (w : Words) : Option Misuse :=
  (w.options.findSome? (w.optionMisuse? disk)).or (argumentMisuse? disk input c.arguments w.rest)

def extra (c : Command) (w : Words) : List Text := w.rest.drop c.arguments.length

def extraMisuse? (c : Command) (w : Words) : Option Misuse :=
  if (w.extra c).isEmpty then none else some (.unexpectedArguments (w.extra c))

def argument (n : Nat) (w : Words) : Text := w.rest.getD n []

end Words

def ofOptionError (c : Command) : OptionError → Ending
  | .unknown name similar => .misuse c (.unknownOption name similar)
  | e => .bareOption e

def showNotice (c : Command) (o : OptionSpec) : Ended :=
  if o = versionOption then ⟨versionText, .exit 0⟩ else ⟨Ending.usageLine c, .exit 0⟩

def refuse {α : Type} (c : Command) (misuse : Misuse) : Except Ended α :=
  .error ⟨[], .misuse c misuse⟩

/-- The words behind a command whose values are right; there may still be too many. -/
def readValues (disk : Disk) (input : List UInt8) (c : Command) (words : List Text) :
    Except Ended Words :=
  match Words.read c.options (!c.isGroup) words with
  | .error e => .error ⟨[], ofOptionError c e⟩
  | .ok w =>
    match w.notice?, w.misuse? disk input c with
    | some o, _ => .error (showNotice c o)
    | none, some misuse => refuse c misuse
    | none, none => .ok w

def readLine (disk : Disk) (input : List UInt8) (c : Command) (words : List Text) :
    Except Ended Words := do
  let w ← readValues disk input c words
  match w.extraMisuse? c with
  | some misuse => refuse c misuse
  | none => .ok w

structure Choice where
  before : Words
  command : Command
  behind : List Text

def choose (disk : Disk) (group : Command) (words : List Text) : Except Ended Choice := do
  if words.isEmpty then .error ⟨[], .needsHelp group⟩
  else
    let w ← readValues disk [] group words
    match w.rest with
    | [] => refuse group .missingCommand
    | name :: behind =>
      match group.members.lookup name with
      | some command => .ok ⟨w, command, behind⟩
      | none => do
        if Words.isOption name then
          let _ ← readValues disk [] group w.rest
        refuse group (.unknownCommand name)

end HeaderAudit.CommandLine
