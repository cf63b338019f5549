import HeaderAudit.Json.Basic

/-!
# Writing JSON

One field or item a line, two blanks deeper than what holds it, in ASCII: every other character is
escaped, outside the basic plane as a surrogate pair.
-/

namespace HeaderAudit.Json

def escapeUnit (unit : Nat) : Text := '\\' :: 'u' :: Text.hex 4 unit

def escapeChar (c : Char) : Text :=
  if c = '"' then "\\\""
  else if c = '\\' then "\\\\"
  else if c = '\n' then "\\n"
  else if c = '\r' then "\\r"
  else if c = '\t' then "\\t"
  else if c = '\x08' then "\\b"
  else if c = '\x0c' then "\\f"
  else if 0x20 ≤ c.toNat ∧ c.toNat < 0x7F then [c]
  else if c.toNat < 0x10000 then escapeUnit c.toNat
  else
    let v := c.toNat - 0x10000
    escapeUnit (0xD800 + v / 0x400) ++ escapeUnit (0xDC00 + v % 0x400)

def writeText (t : Text) : Text := '"' :: t.flatMap escapeChar ++ ['"']

def writeFloat : Binary64 → Text
  | .nan => "NaN"
  | .infinite negative => if negative then "-Infinity" else "Infinity"
  | x => x.toText

def newLine (depth : Nat) : Text := '\n' :: List.replicate (2 * depth) ' '

mutual

def writeAt (depth : Nat) : Json → Text
  | null => "null"
  | bool true => "true"
  | bool false => "false"
  | int i => Text.ofInt i
  | float x => writeFloat x
  | text t => writeText t
  | list [] => "[]"
  | list (item :: rest) =>
    '[' :: newLine (depth + 1) ++ writeAt (depth + 1) item ++ writeItems (depth + 1) rest
      ++ newLine depth ++ [']']
  | object [] => "\x7b\x7d"
  | object ((name, value) :: rest) =>
    '\x7b' :: newLine (depth + 1) ++ writeText name ++ ": " ++ writeAt (depth + 1) value
      ++ writeFields (depth + 1) rest ++ newLine depth ++ ['\x7d']

def writeItems (depth : Nat) : List Json → Text
  | [] => []
  | item :: rest => ',' :: newLine depth ++ writeAt depth item ++ writeItems depth rest

def writeFields (depth : Nat) : List (Text × Json) → Text
  | [] => []
  | (name, value) :: rest =>
    ',' :: newLine depth ++ writeText name ++ ": " ++ writeAt depth value ++ writeFields depth rest

end

def write (value : Json) : Text := writeAt 0 value

end HeaderAudit.Json
