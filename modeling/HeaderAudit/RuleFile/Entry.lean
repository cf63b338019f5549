import HeaderAudit.Rule.Basic
import HeaderAudit.Text.Blank
import HeaderAudit.Text.Utf8
import HeaderAudit.Yaml.Error
import HeaderAudit.Yaml.Value

/-!
# Entries of a rule file

An entry is a mapping with the kind and the pattern of a rule and perhaps its id. Each field is judged
on its own, so that an entry has a fault for each field that is wrong. Other fields do not matter.
-/

namespace HeaderAudit

structure Entry where
  id : Option Text
  kind : RuleKind
  pattern : Text
  deriving DecidableEq, Repr, Inhabited

inductive EntryField where
  | id
  | kind
  | pattern
  deriving DecidableEq, Repr

def EntryField.name : EntryField → Text
  | id => "id"
  | kind => "type"
  | pattern => "pattern"

inductive EntryFault where
  | notAMapping
  | missing (field : EntryField)
  | notAText (field : EntryField)
  /-- The field is a text with units that are no characters. -/
  | brokenText (field : EntryField)
  /-- The field is a number too long to be written out. -/
  | tooManyDigits (field : EntryField)
  | unknownKind
  | emptyPattern
  deriving DecidableEq, Repr

namespace Entry

open Yaml (Value)

def canShow (i : Int) : Bool := i.natAbs < Nat.pow 10 Yaml.digitLimit

/-- A field that is a text. Bytes are one when they spell one. -/
def readText (field : EntryField) : Value → Except EntryFault Text
  | .text t => .ok t
  | .bytes bs => (Text.decodeUtf8 bs).mapError fun _ => .brokenText field
  | .brokenText _ => .error (.brokenText field)
  | _ => .error (.notAText field)

/-- An id may be left out, and a number is one. -/
def readId : Option Value → Except EntryFault (Option Text)
  | none | some .null => .ok none
  | some (.int i) => if canShow i then .ok (some (Text.ofInt i)) else .error (.tooManyDigits .id)
  | some (.float x) => .ok (some x.toText)
  | some (.madeNan _) => .ok (some Binary64.nan.toText)
  | some v => (readText .id v).map some

/-- A kind may be written in any letter case and with white space around it. -/
def readKind : Option Value → Except EntryFault RuleKind
  | none => .error (.missing .kind)
  | some (.text t) =>
    match RuleKind.ofName? (Text.lower (Text.strip t)) with
    | some kind => .ok kind
    | none => .error .unknownKind
  | some _ => .error .unknownKind

def readPattern : Option Value → Except EntryFault Text
  | none => .error (.missing .pattern)
  | some v => do
    let t ← readText .pattern v
    if t.isEmpty then .error .emptyPattern else .ok t

def faultOf {α : Type} : Except EntryFault α → List EntryFault
  | .ok _ => []
  | .error fault => [fault]

/-- The entry that the pairs of a mapping make, or the faults of its fields in turn. -/
def ofPairs (pairs : List (Value × Value)) : Except (List EntryFault) Entry :=
  let id := readId (Value.pairValue? EntryField.id.name pairs)
  let kind := readKind (Value.pairValue? EntryField.kind.name pairs)
  let pattern := readPattern (Value.pairValue? EntryField.pattern.name pairs)
  match id, kind, pattern with
  | .ok id, .ok kind, .ok pattern => .ok ⟨id, kind, pattern⟩
  | _, _, _ => .error (faultOf id ++ faultOf kind ++ faultOf pattern)

def ofValue : Value → Except (List EntryFault) Entry
  | .map pairs => ofPairs pairs
  | _ => .error [.notAMapping]

/-- The id of an entry; an empty one counts as none. -/
def ownId? (entry : Entry) : Option Text := entry.id.filter fun id => !id.isEmpty

def toRule (otherId : Text) (entry : Entry) : Rule :=
  ⟨entry.kind, entry.pattern, entry.ownId?.getD otherId⟩

mutual

/-- The value can be written out for a message: it has no number that is too long. -/
def isShowable : Value → Bool
  | .int i => canShow i
  | .list items => allShowable items
  | .map pairs => pairsShowable pairs
  | .pair key value => isShowable key && isShowable value
  | .set pairs => keysShowable pairs
  | _ => true

def allShowable : List Value → Bool
  | [] => true
  | item :: rest => isShowable item && allShowable rest

/-- A value does not matter if a later pair has the same key. -/
def pairsShowable : List (Value × Value) → Bool
  | [] => true
  | (key, value) :: rest =>
    isShowable key && (rest.any (·.1.sameKey key) || isShowable value) && pairsShowable rest

def keysShowable : List (Value × Value) → Bool
  | [] => true
  | (key, _) :: rest => isShowable key && keysShowable rest

end

end Entry

end HeaderAudit
