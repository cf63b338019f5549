import HeaderAudit.RuleFile.Entry
import HeaderAudit.World
import HeaderAudit.Yaml.Reader
import HeaderAudit.Yaml.Writer

/-!
# The rule file

Rules are kept in a YAML file, as a list under one key or as a bare list. Reading a file that is not
there gives no rules, and neither does a file that cannot be read or is no YAML, which is noted. An
entry with faults is left out and noted. Writing makes the directories on the way, and a new file is
the owner's alone.
-/

namespace HeaderAudit

inductive RuleFileError where
  /-- The path begins in a home directory that is not known. -/
  | noHome
  | disk (cause : DiskError)
  | notUtf8 (cause : Text.Utf8Error)
  | value (cause : Yaml.ScalarError)

namespace RuleFile

open Yaml (Value Tree)

def entriesKey : Text := "exclusions"

/-- The entries of a document, as the list under the key or as a bare list. -/
def entriesOf : Value → List Value
  | .map pairs =>
    match Value.pairValue? entriesKey pairs with
    | some (.list items) => items
    | _ => []
  | .list items => items
  | _ => []

/-- The rule of an entry; an id is made up for one that has none. -/
def ruleOf (env : Environment) (entry : Entry) (w : World) : Rule × World :=
  match entry.ownId? with
  | some id => (⟨entry.kind, entry.pattern, id⟩, w)
  | none =>
    let (id, w) := w.freshId env
    (⟨entry.kind, entry.pattern, id⟩, w)

/-- The rules of the entries. What is no mapping is left out, and so is a mapping with faults, which is
noted. -/
def rulesOf (env : Environment) : List Value → World → World × Except RuleFileError (List Rule)
  | [], w => (w, .ok [])
  | .map pairs :: rest, w =>
    match Entry.ofPairs pairs with
    | .ok entry =>
      let (rule, w) := ruleOf env entry w
      let (w, rules) := rulesOf env rest w
      (w, rules.map (rule :: ·))
    | .error faults =>
      if Entry.pairsShowable pairs then rulesOf env rest (w.note (.invalidRule faults.length))
      else (w, .error (.value .tooManyDigitsToShow))
  | _ :: rest, w => rulesOf env rest w

/-- The text with every line ended by a line feed alone. -/
def unifyLineEnds : Text → Text
  | [] => []
  | '\r' :: '\n' :: rest => '\n' :: unifyLineEnds rest
  | '\r' :: rest => '\n' :: unifyLineEnds rest
  | c :: rest => c :: unifyLineEnds rest

def rulesOfBytes (env : Environment) (name : Text) (bytes : List UInt8) (w : World) :
    World × Except RuleFileError (List Rule) :=
  match Text.decodeUtf8 bytes with
  | .error e => (w, .error (.notUtf8 e))
  | .ok t =>
    match Yaml.read (unifyLineEnds t) with
    | .error (.malformed _) => (w.note (.rulesUnreadable name), .ok [])
    | .error (.scalar cause) => (w, .error (.value cause))
    | .ok document => rulesOf env (entriesOf document) w

def load (env : Environment) (path : Path) (w : World) :
    World × Except RuleFileError (List Rule) :=
  match path.expandHome env.home with
  | none => (w, .error .noHome)
  | some path =>
    match w.disk.find path with
    | .error e => (w, if e.meansAbsent then .ok [] else .error (.disk e))
    | .ok _ =>
      match w.disk.read path with
      | .error _ => (w.note (.rulesUnreadable path.toText), .ok [])
      | .ok bytes => rulesOfBytes env path.toText bytes w

/-- The rules at a path that may be missing or empty; then there are none. -/
def loadGiven (env : Environment) (path : Option Text) (w : World) :
    World × Except RuleFileError (List Rule) :=
  match path with
  | none | some [] => (w, .ok [])
  | some t => load env (Path.ofText t) w

def treeOf (rule : Rule) : Tree :=
  .map [(EntryField.id.name, .text rule.id), (EntryField.kind.name, .text rule.kind.name),
    (EntryField.pattern.name, .text rule.pattern)]

def document (rules : List Rule) : List (Text × Tree) := [(entriesKey, .list (rules.map treeOf))]

def write (rules : List Rule) : Text := Yaml.write (document rules)

/-- Writes the rules to the file at a path. What was made before a failure stays. -/
def save (env : Environment) (path : Path) (rules : List Rule) (disk : Disk) :
    Disk × Except RuleFileError Unit :=
  match path.expandHome env.home with
  | none => (disk, .error .noHome)
  | some path =>
    match disk.ensureDirectories path.root path.parent.names.reverse with
    | .error e => (disk, .error (.disk e))
    | .ok disk =>
      match disk.touch Disk.ownerOnly path with
      | .error e => (disk, .error (.disk e))
      | .ok disk =>
        match disk.write path (Text.encodeUtf8 (write rules)) with
        | .error e => (disk, .error (.disk e))
        | .ok disk => (disk, .ok ())

end RuleFile

end HeaderAudit
