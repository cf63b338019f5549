import HeaderAudit.Text.Blank
import HeaderAudit.Text.LetterCase

/-!
# Response headers

The lines of a response head in the order of arrival. Reading is line by line and refuses nothing: a
line without a colon is left out, and the first empty line after the beginning ends the head.
-/

namespace HeaderAudit

structure Headers where
  lines : List Text
  statusLine : Option Text
  deriving DecidableEq, Repr, Inhabited

namespace Headers

def trimReturns (line : Text) : Text := Text.dropRightWhile (· = '\r') line

/-- The header lines among the lines of a text. An empty line ends them once something has begun. -/
def collectLines : Bool → List Text → List Text
  | _, [] => []
  | begun, raw :: rest =>
    let line := trimReturns raw
    if Text.blank line then if begun then [] else collectLines begun rest
    else if line.contains ':' then line :: collectLines true rest
    else collectLines begun rest

def ofText (t : Text) : Headers :=
  match Text.fields '\n' t with
  | [] => ⟨[], none⟩
  | first :: rest =>
    let line := trimReturns first
    if ("HTTP/" : Text).isPrefixOf line then ⟨collectLines true rest, some line⟩
    else ⟨collectLines false (first :: rest), none⟩

def defaultStatusLine : Text := "HTTP/1.1 200 OK"

def ofPairs (pairs : List (Text × Text)) (statusLine : Option Text) : Headers :=
  ⟨pairs.map fun (name, value) => name ++ ": " ++ value, statusLine⟩

def parseLine (line : Text) : Text × Text :=
  let (name, value) := Text.cut ':' line
  (Text.strip name, Text.strip (value.getD []))

def items (h : Headers) : List (Text × Text) := h.lines.map parseLine

def getAll (name : Text) (h : Headers) : List Text :=
  let wanted := Text.lower (Text.strip name)
  (h.items.filter fun item => Text.lower item.1 = wanted).map (·.2)

def get? (name : Text) (h : Headers) : Option Text := (h.getAll name).head?

def has (name : Text) (h : Headers) : Bool := !(h.getAll name).isEmpty

end Headers

end HeaderAudit
