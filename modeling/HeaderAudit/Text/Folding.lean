import HeaderAudit.Text.LetterCase
import HeaderAudit.Text.FoldTable

/-!
# Comparison of letters without their case

One character is compared with one character: two characters are the same letter when their
lower-case letters agree or share a capital. A letter never equals a group of letters, so `ß` is not
`ss`.
-/

namespace HeaderAudit.Text

/-- The code point that stands for a letter in all its cases. -/
def foldKey (c : Char) : Nat :=
  if c.toNat < 0x80 then c.toLower.toNat
  else
    let low := if c.toNat = 0x130 then 0x69 else ShiftRun.apply lowerRuns c.toNat
    match sharedCapitals.find? (·.contains low) with
    | some (representative :: _) => representative
    | _ => low

def sameLetter (a b : Char) : Bool := foldKey a == foldKey b

def beginsWithLetters : Text → Text → Bool
  | [], _ => true
  | _ :: _, [] => false
  | p :: pattern, c :: t => sameLetter c p && beginsWithLetters pattern t

end HeaderAudit.Text
