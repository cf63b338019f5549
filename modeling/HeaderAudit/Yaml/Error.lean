import HeaderAudit.Number.Integer

/-!
# Faults of YAML texts

A text is either no YAML, or it is YAML and a scalar in it names no value: a date that no calendar
has, a number too long to convert.
-/

namespace HeaderAudit.Yaml

inductive ScalarError where
  | yearOutOfRange (year : Nat)
  | monthOutOfRange
  | dayOutOfRange
  | hourOutOfRange
  | minuteOutOfRange
  | secondOutOfRange
  /-- The distance from universal time is a day or more. -/
  | offsetOutOfRange (days seconds : Int)
  | integer (cause : IntegerError)
  | tooManyDigitsToShow
  | notAFloat (text : Text)
  | emptyNumber
  /-- A base of a number of sixtieths beyond all floating-point numbers. -/
  | baseTooLarge
  | notABoolean (text : Text)
  | notATimestamp
  /-- A mapping that has a text is no timestamp all the same. -/
  | mappingAsTimestamp
  | noSuchCodePoint
  /-- An escape for a number beyond machine words. -/
  | codePointOverflow
  deriving DecidableEq, Repr

def digitLimit : Nat := Integer.digitLimit

def ScalarError.message : ScalarError → Text
  | yearOutOfRange year => "year " ++ Text.ofNat year ++ " is out of range"
  | monthOutOfRange => "month must be in 1..12"
  | dayOutOfRange => "day is out of range for month"
  | hourOutOfRange => "hour must be in 0..23"
  | minuteOutOfRange => "minute must be in 0..59"
  | secondOutOfRange => "second must be in 0..59"
  | offsetOutOfRange days seconds =>
    "offset must be a timedelta strictly between -timedelta(hours=24) and timedelta(hours=24), not datetime.timedelta(days="
      ++ Text.ofInt days
      ++ (if seconds = 0 then [] else (", seconds=" : Text) ++ Text.ofInt seconds) ++ ")."
  | integer cause => cause.message
  | tooManyDigitsToShow =>
    "Exceeds the limit (" ++ Text.ofNat digitLimit
      ++ " digits) for integer string conversion; use sys.set_int_max_str_digits() to increase the limit"
  | notAFloat text => "could not convert string to float: " ++ Text.quoted text
  | emptyNumber => "string index out of range"
  | baseTooLarge => "int too large to convert to float"
  | notABoolean text => Text.quoted text
  | notATimestamp => "'NoneType' object has no attribute 'groupdict'"
  | mappingAsTimestamp => "expected string or bytes-like object, got 'list'"
  | noSuchCodePoint => "chr() arg not in range(0x110000)"
  | codePointOverflow => "Python int too large to convert to C int"

inductive Error where
  | malformed (problem : Text)
  | scalar (cause : ScalarError)
  deriving DecidableEq, Repr

end HeaderAudit.Yaml
