import HeaderAudit.Text.Blank
import HeaderAudit.Text.Digit
import HeaderAudit.Text.Quoted

/-!
# Reading whole numbers

The text of a whole number in a base. A text that is not all in ASCII may have digits and blanks of
any script. A decimal number cannot have more than 4300 digits.
-/

namespace HeaderAudit

inductive IntegerError where
  | notAnInteger (base : Nat) (text : Text)
  | tooManyDigits (count : Nat)
  deriving DecidableEq, Repr

namespace Integer

def digitLimit : Nat := 4300

/-- A message shows no more than this of the text. -/
def shownLength : Nat := 200

end Integer

def IntegerError.message : IntegerError → Text
  | notAnInteger base text =>
    "invalid literal for int() with base " ++ Text.ofNat base ++ ": "
      ++ (Text.quoted text).take Integer.shownLength
  | tooManyDigits count =>
    "Exceeds the limit (" ++ Text.ofNat Integer.digitLimit
      ++ " digits) for integer string conversion: value has " ++ Text.ofNat count
      ++ " digits; use sys.set_int_max_str_digits() to increase the limit"

namespace Text

def isAscii (c : Char) : Bool := c.toNat < 0x80

def isAsciiBlank (c : Char) : Bool := c = ' ' || (0x9 ≤ c.toNat && c.toNat ≤ 0xD)

/-- A character as it counts in a number: digits and blanks of every script are those of ASCII. -/
def asciiInNumber (c : Char) : Char :=
  if isAscii c then c
  else if isBlank c then ' '
  else ((decimalValue? c).map Nat.digitChar).getD '?'

/-- The characters of a number, without the blanks around it. -/
def numeral (t : Text) : Text := trimWhile isAsciiBlank (t.map asciiInNumber)

def dropSign : Text → Text
  | '-' :: rest => rest
  | '+' :: rest => rest
  | t => t

end Text

namespace Integer

/-- What may stand before the digits to say what their base is. -/
def baseMark (base : Nat) : Text :=
  if base = 2 then "0b" else if base = 8 then "0o" else if base = 16 then "0x" else []

/-- Reads a whole number that has no low lines between its digits. -/
def read (base : Nat) (t : Text) : Except IntegerError Int :=
  let body := Text.numeral t
  let unsigned := Text.dropSign body
  let mark := baseMark base
  let digits :=
    if !mark.isEmpty ∧ mark.isPrefixOf (unsigned.map Char.toLower) then unsigned.drop mark.length
    else unsigned
  let run := (digits.takeWhile Char.isDigit).length
  if base = 10 ∧ digitLimit < run then .error (.tooManyDigits run)
  else
    match Text.readDigits? base digits with
    | none => .error (.notAnInteger base t)
    | some n => .ok (if body.head? = some '-' then -(n : Int) else n)

end Integer

end HeaderAudit
