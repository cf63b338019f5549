import HeaderAudit.Headers
import HeaderAudit.Highlight
import HeaderAudit.Verdict

/-!
# Checks

A check judges the headers of one kind. It may leave notes in a context that the checks of one pass
share. A check gives a verdict or fails; a failed check is left out of the result.
-/

namespace HeaderAudit

/-- What the checks of a pass note down, by name. -/
abbrev Context := List (Text × Json)

inductive CheckError where
  /-- A number with more digits than are converted. -/
  | tooManyDigits (count : Nat)
  | badVerdict (cause : VerdictError)
  | failed (reason : Text)
  | noVerdict

def Check.digitLimit : Nat := 4300

def CheckError.message : CheckError → Text
  | tooManyDigits count =>
    "Exceeds the limit (" ++ Text.ofNat Check.digitLimit
      ++ " digits) for integer string conversion: value has " ++ Text.ofNat count
      ++ " digits; use sys.set_int_max_str_digits() to increase the limit"
  | badVerdict cause => cause.message
  | failed reason => reason
  | noVerdict => "no verdict"

structure Check where
  /-- The name of the kind of check, for messages about the check itself. -/
  className : Text
  name : Text
  column : Text
  /-- What a finding says. -/
  missing : Text
  header : Text
  /-- The verdict counts for the overall status. -/
  affects : Bool
  patterns : Patterns
  judge : Headers → Context → Context × Except CheckError Verdict

namespace Check

def owns (check : Check) (line : Text) : Bool :=
  !line.isEmpty && (Text.lower check.header ++ [':']).isPrefixOf (Text.lower line)

def tintOf : Status → Tint
  | .ok => .green
  | .warn => .yellow
  | .fail => .red

def lineTint (check : Check) (line : Text) (verdict : Option Verdict) : Tint :=
  match verdict with
  | none => .none
  | some v => if check.owns line then tintOf v.status else .none

def segments (check : Check) (line : Text) : List Segment :=
  Highlight.segments check.patterns (check.owns line) line

def toText (check : Check) : Text :=
  '<' :: check.className ++ ' ' :: Text.quoted check.name ++ ['>']

end Check

end HeaderAudit
