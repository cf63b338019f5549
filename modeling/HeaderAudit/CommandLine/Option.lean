import HeaderAudit.Text.Similar

/-!
# Options

Words of a command line that begin with a dash. A long option has two dashes and may carry its value
behind an equals sign. Short options have one letter each, can be joined, and the last of them may carry
its value. A value that is not carried is the next word, whatever it looks like. Two dashes alone end the
options. The words that are left are the arguments.
-/

namespace HeaderAudit.CommandLine

inductive ValueKind where
  | any
  /-- No file may be at the path. -/
  | directory
  /-- No directory may be at the path. -/
  | file
  | choice (names : List Text)
  deriving DecidableEq, Repr, Inhabited

inductive OptionKind where
  | value (kind : ValueKind)
  | flag
  /-- The option shows something and ends the program. -/
  | notice
  deriving DecidableEq, Repr, Inhabited

structure OptionSpec where
  long : Text
  short : Option Char
  kind : OptionKind
  deriving DecidableEq, Repr, Inhabited

inductive OptionError where
  | unknown (name : Text) (similar : List Text)
  | requiresValue (name : Text)
  | takesNoValue (name : Text)
  deriving DecidableEq, Repr

namespace OptionSpec

def takesValue (o : OptionSpec) : Bool :=
  match o.kind with
  | .value _ => true
  | _ => false

def names (o : OptionSpec) : List Text := o.long :: (o.short.map fun c => ['-', c]).toList

end OptionSpec

structure Words where
  given : List (OptionSpec × Text)
  rest : List Text
  deriving DecidableEq, Repr, Inhabited

namespace Words

def addOptions (given : List (OptionSpec × Text)) (w : Words) : Words :=
  { w with given := given ++ w.given }

def addWord (word : Text) (w : Words) : Words := { w with rest := word :: w.rest }

/-- What one word gives: options with their values, and perhaps an option, with its spelling, whose value
is yet to come. -/
structure Reading where
  given : List (OptionSpec × Text)
  waiting : Option (OptionSpec × Text)
  deriving DecidableEq, Repr, Inhabited

def isOption (word : Text) : Bool :=
  match word with
  | '-' :: _ :: _ => true
  | _ => false

def isLong (word : Text) : Bool := ("--" : Text).isPrefixOf word

def readShort (options : List OptionSpec) : Text → Except OptionError Reading
  | [] => .ok ⟨[], none⟩
  | letter :: rest =>
    match options.find? (·.short = some letter) with
    | none => .error (.unknown ['-', letter] [])
    | some o =>
      if o.takesValue then
        .ok (if rest.isEmpty then ⟨[], some (o, ['-', letter])⟩ else ⟨[(o, rest)], none⟩)
      else (readShort options rest).map fun r => { r with given := (o, []) :: r.given }

def readOption (options : List OptionSpec) (word : Text) : Except OptionError Reading :=
  let (name, carried) := Text.cut '=' word
  match options.find? (·.long = name) with
  | some o =>
    match o.takesValue, carried with
    | true, some value => .ok ⟨[(o, value)], none⟩
    | true, none => .ok ⟨[], some (o, name)⟩
    | false, some _ => .error (.takesNoValue name)
    | false, none => .ok ⟨[(o, [])], none⟩
  | none =>
    if isLong word then .error (.unknown name (Text.similar name (options.map (·.long))))
    else readShort options word.tail

/-- Reads the words behind an option that waits for its value, or behind none. -/
def readAfter (options : List OptionSpec) (among : Bool) :
    Option (OptionSpec × Text) → List Text → Except OptionError Words
  | none, [] => .ok ⟨[], []⟩
  | some (_, name), [] => .error (.requiresValue name)
  | some (o, _), value :: rest => (readAfter options among none rest).map (addOptions [(o, value)])
  | none, word :: rest =>
    if word = ['-', '-'] then .ok ⟨[], rest⟩
    else if isOption word then do
      let reading ← readOption options word
      (readAfter options among reading.waiting rest).map (addOptions reading.given)
    else if among then (readAfter options among none rest).map (addWord word)
    else .ok ⟨[], word :: rest⟩

/-- Reads the words of a command line. When options may not stand among arguments, the first argument
ends them. -/
def read (options : List OptionSpec) (among : Bool) (words : List Text) : Except OptionError Words :=
  readAfter options among none words

def valuesOf (o : OptionSpec) (w : Words) : List Text :=
  (w.given.filter (·.1 = o)).map (·.2)

/-- The value that counts is the last one. -/
def value? (o : OptionSpec) (w : Words) : Option Text := (w.valuesOf o).getLast?

def has (o : OptionSpec) (w : Words) : Bool := w.given.any (·.1 = o)

/-- The options given, each once, in the order in which they were first given. -/
def options (w : Words) : List OptionSpec := (w.given.map (·.1)).eraseDups

end Words

end HeaderAudit.CommandLine
