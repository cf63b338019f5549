import HeaderAudit.Number.Shortest
import HeaderAudit.Text.Quoted

/-!
# JSON values

Values of a data document in JSON. An object keeps its fields in order and each name once.
-/

namespace HeaderAudit

inductive Json where
  | null
  | bool (b : Bool)
  | int (i : Int)
  | float (x : Binary64)
  | text (t : Text)
  | list (items : List Json)
  | object (fields : List (Text × Json))
  deriving Repr, Inhabited

namespace Json

/-- Sets a field: in its place when the name is there, else at the end. -/
def setField (name : Text) (value : Json) : List (Text × Json) → List (Text × Json)
  | [] => [(name, value)]
  | field :: rest =>
    if field.1 = name then (name, value) :: rest else field :: setField name value rest

def mergeFields (fields later : List (Text × Json)) : List (Text × Json) :=
  later.foldl (fun acc field => setField field.1 field.2 acc) fields

def field? (name : Text) : Json → Option Json
  | object fields => (fields.find? (·.1 = name)).map (·.2)
  | _ => none

def text? : Json → Option Text
  | text t => some t
  | _ => none

mutual

def shown : Json → Text
  | null => "None"
  | bool true => "True"
  | bool false => "False"
  | int i => Text.ofInt i
  | float x => x.toText
  | text t => Text.quoted t
  | list items => "[" ++ Text.join ", " (shownItems items) ++ "]"
  | object fields => "\x7b" ++ Text.join ", " (shownFields fields) ++ "\x7d"

def shownItems : List Json → List Text
  | [] => []
  | item :: rest => shown item :: shownItems rest

def shownFields : List (Text × Json) → List Text
  | [] => []
  | (name, value) :: rest => (Text.quoted name ++ ": " ++ shown value) :: shownFields rest

end

def plain : Json → Text
  | text t => t
  | value => shown value

end Json

end HeaderAudit
