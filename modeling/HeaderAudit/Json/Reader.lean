import HeaderAudit.Json.Basic

/-!
# Reading JSON

A recursive reader on the list of characters. Each step gives back the rest of the text, and reading
ends with the number of steps that the length of the text allows.
-/

namespace HeaderAudit.Json

def isSpace (c : Char) : Bool := c = ' ' || c = '\t' || c = '\n' || c = '\r'

def skipSpace (t : Text) : Text := t.dropWhile isSpace

def readUnit? : Text → Option (Nat × Text)
  | a :: b :: c :: d :: rest => (Text.readDigits? 16 [a, b, c, d]).map (·, rest)
  | _ => none

def simpleEscape? : Char → Option Char
  | '"' => some '"'
  | '\\' => some '\\'
  | '/' => some '/'
  | 'b' => some '\x08'
  | 'f' => some '\x0c'
  | 'n' => some '\n'
  | 'r' => some '\r'
  | 't' => some '\t'
  | _ => none

/-- An escaped code unit, joined with the low surrogate behind it where it is a high one. -/
def readEscapedUnit? (t : Text) : Option (Char × Text) := do
  let (high, rest) ← readUnit? t
  if 0xD800 ≤ high ∧ high < 0xDC00 then
    match rest with
    | '\\' :: 'u' :: more =>
      let (low, rest) ← readUnit? more
      if 0xDC00 ≤ low ∧ low < 0xE000 then
        some (Char.ofNat (0x10000 + (high - 0xD800) * 0x400 + (low - 0xDC00)), rest)
      else none
    | _ => none
  else some (Char.ofNat high, rest)

def readChars? : Nat → Text → Option (Text × Text)
  | 0, _ => none
  | _, [] => none
  | _, '"' :: rest => some ([], rest)
  | steps + 1, '\\' :: 'u' :: rest => do
    let (c, rest) ← readEscapedUnit? rest
    let (t, rest) ← readChars? steps rest
    some (c :: t, rest)
  | steps + 1, '\\' :: e :: rest => do
    let c ← simpleEscape? e
    let (t, rest) ← readChars? steps rest
    some (c :: t, rest)
  | steps + 1, c :: rest =>
    if c = '\\' ∨ c.toNat < 0x20 then none
    else do
      let (t, rest) ← readChars? steps rest
      some (c :: t, rest)

def isDigit (c : Char) : Bool := '0' ≤ c && c ≤ '9'

/-- A number: whole without a point and an exponent, else a double-precision number. -/
def readNumber? (t : Text) : Option (Json × Text) := do
  let (negative, t) := match t with
    | '-' :: rest => (true, rest)
    | t => (false, t)
  let whole := t.takeWhile isDigit
  let t := t.dropWhile isDigit
  if whole.isEmpty ∨ (whole.length > 1 ∧ whole.head? = some '0') then none
  let (places, t) := match t with
    | '.' :: c :: rest =>
      if isDigit c then ((c :: rest).takeWhile isDigit, (c :: rest).dropWhile isDigit) else ([], t)
    | t => ([], t)
  let (exponent, t) := match t with
    | e :: rest =>
      if e = 'e' ∨ e = 'E' then
        let (minus, rest') := match rest with
          | '-' :: rest => (true, rest)
          | '+' :: rest => (false, rest)
          | rest => (false, rest)
        let digits := rest'.takeWhile isDigit
        match Text.readDigits? 10 digits with
        | some n => (some (if minus then -(n : Int) else (n : Int)), rest'.dropWhile isDigit)
        | none => (none, t)
      else (none, t)
    | [] => (none, t)
  let digits ← Text.readDigits? 10 (whole ++ places)
  match places, exponent with
  | [], none => some (int (if negative then -(digits : Int) else (digits : Int)), t)
  | _, _ =>
    some (float (Binary64.ofDecimal negative digits (exponent.getD 0 - places.length)), t)

def readWord? (t : Text) : Option (Json × Text) :=
  let words : List (Text × Json) := [("null", null), ("true", bool true), ("false", bool false),
    ("NaN", float .nan), ("Infinity", float (.infinite false)),
    ("-Infinity", float (.infinite true))]
  words.findSome? fun (word, value) => (Text.afterPrefix? word t).map (value, ·)

mutual

def readValue? : Nat → Text → Option (Json × Text)
  | 0, _ => none
  | steps + 1, t =>
    match skipSpace t with
    | '"' :: rest => do
      let (s, rest) ← readChars? (rest.length + 1) rest
      some (text s, rest)
    | '[' :: rest =>
      match skipSpace rest with
      | ']' :: rest => some (list [], rest)
      | rest => do
        let (items, rest) ← readItems? steps rest
        some (list items, rest)
    | '\x7b' :: rest =>
      match skipSpace rest with
      | '\x7d' :: rest => some (object [], rest)
      | rest => do
        let (fields, rest) ← readFields? steps rest
        some (object (mergeFields [] fields), rest)
    | t => (readWord? t).orElse fun _ => readNumber? t

def readItems? : Nat → Text → Option (List Json × Text)
  | 0, _ => none
  | steps + 1, t => do
    let (item, rest) ← readValue? steps t
    match skipSpace rest with
    | ',' :: rest =>
      let (items, rest) ← readItems? steps rest
      some (item :: items, rest)
    | ']' :: rest => some ([item], rest)
    | _ => none

def readFields? : Nat → Text → Option (List (Text × Json) × Text)
  | 0, _ => none
  | steps + 1, t =>
    match skipSpace t with
    | '"' :: rest => do
      let (name, rest) ← readChars? (rest.length + 1) rest
      match skipSpace rest with
      | ':' :: rest =>
        let (value, rest) ← readValue? steps rest
        match skipSpace rest with
        | ',' :: rest =>
          let (fields, rest) ← readFields? steps rest
          some ((name, value) :: fields, rest)
        | '\x7d' :: rest => some ([(name, value)], rest)
        | _ => none
      | _ => none
    | _ => none

end

def read? (t : Text) : Option Json :=
  match readValue? (2 * t.length + 2) t with
  | some (value, rest) => if (skipSpace rest).isEmpty then some value else none
  | none => none

end HeaderAudit.Json
