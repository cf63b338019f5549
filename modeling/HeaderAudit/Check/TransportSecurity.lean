import HeaderAudit.Check.Basic
import HeaderAudit.Text.Digit

/-!
# Strict-Transport-Security

The header has to be there with a positive maximal age. The leftmost age that can be read decides.
-/

namespace HeaderAudit.TransportSecurity

/-- The digits of an age at the beginning of a text: `max-age`, an equals sign with white space around
it, perhaps a quote, and digits of any script. -/
def ageDigits? (t : Text) : Option Text :=
  let name : Text := "max-age"
  if Text.beginsWithLetters name t then
    match (t.drop name.length).dropWhile Text.isBlank with
    | '=' :: rest =>
      let value := match rest.dropWhile Text.isBlank with
        | '"' :: rest => rest
        | rest => rest
      match value.takeWhile Text.isDecimalDigit with
      | [] => none
      | digits => some digits
    | _ => none
  else none

def findAge? : Text → Option Text
  | [] => none
  | c :: rest => (ageDigits? (c :: rest)).orElse fun _ => findAge? rest

/-- The number that digits of any script write. -/
def ageOf (digits : Text) : Nat :=
  digits.foldl (fun n c => n * 10 + (Text.decimalValue? c).getD 0) 0

def verdict (value : Option Text) : Except CheckError Verdict :=
  let given := value.getD []
  if Text.blank given then .ok (.fail "Missing" given)
  else
    match findAge? given with
    | none => .ok (.warn "No max-age" given)
    | some digits =>
      if digits.length > Check.digitLimit then .error (.tooManyDigits digits.length)
      else if ageOf digits = 0 then .ok (.warn "max-age=0 disables HSTS" given)
      else .ok (.ok given given)

def check : Check where
  className := "HstsCheck"
  name := "Strict-Transport-Security"
  column := "HSTS"
  missing := "Strict-Transport-Security is not set"
  header := "Strict-Transport-Security"
  affects := true
  patterns := ⟨["max-age=0"], [], ["includesubdomains", "preload"]⟩
  judge headers context := (context, verdict (headers.get? "Strict-Transport-Security"))

end HeaderAudit.TransportSecurity
