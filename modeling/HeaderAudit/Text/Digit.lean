import HeaderAudit.Text.Basic
import HeaderAudit.Text.DigitTable

/-!
# Decimal digits of every script
-/

namespace HeaderAudit.Text

def decimalValue? (c : Char) : Option Nat :=
  if '0' ≤ c ∧ c ≤ '9' then some (c.toNat - '0'.toNat)
  else (digitZeros.find? fun z => z ≤ c.toNat && c.toNat < z + 10).map (c.toNat - ·)

def isDecimalDigit (c : Char) : Bool := (decimalValue? c).isSome

end HeaderAudit.Text
