import HeaderAudit.Json.Basic

/-!
# Verdicts

The result of one check on one response: fine, worth a look, or insecure. A verdict never changes.
-/

namespace HeaderAudit

inductive Status where
  | ok
  | warn
  | fail
  deriving DecidableEq, Repr, Inhabited

namespace Status

def name : Status → Text
  | ok => "OK"
  | warn => "WARN"
  | fail => "FAIL"

def label (s : Status) : Text := '[' :: s.name ++ [']']

def ofName? (t : Text) : Option Status := [ok, warn, fail].find? (·.name = t)

end Status

structure Verdict where
  status : Status
  /-- The short text for the reader of a report. -/
  display : Text
  /-- The header value that the verdict rests on. -/
  raw : Text
  deriving DecidableEq, Repr, Inhabited

inductive VerdictError where
  | notAStatus (given : Json)
  | immutable (field : Text)

def VerdictError.message : VerdictError → Text
  | notAStatus given => "Verdict status must be a VerdictStatus, got " ++ given.shown
  | immutable field => "cannot assign to field '" ++ field ++ "'"

namespace Verdict

/-- A verdict shows its status where it has nothing else to show. -/
def ofParts (status : Status) (display raw : Option Text) : Verdict :=
  ⟨status, display.getD status.name, raw.getD []⟩

def ok (display raw : Text) : Verdict := ⟨.ok, display, raw⟩

def warn (display raw : Text) : Verdict := ⟨.warn, display, raw⟩

def fail (display raw : Text) : Verdict := ⟨.fail, display, raw⟩

def readStatus (given : Json) : Except VerdictError Status :=
  match given.text?.bind Status.ofName? with
  | some status => .ok status
  | none => .error (.notAStatus given)

def read (status : Json) (display raw : Option Text) : Except VerdictError Verdict := do
  .ok (ofParts (← readStatus status) display raw)

/-- No field of a verdict can be set. -/
def setField (field : Text) (_ : Verdict) : Except VerdictError Verdict := .error (.immutable field)

def isOk (v : Verdict) : Bool := v.status = .ok

def isWarn (v : Verdict) : Bool := v.status = .warn

def isFail (v : Verdict) : Bool := v.status = .fail

def toText (v : Verdict) : Text := v.status.label ++ ' ' :: v.display

end Verdict

end HeaderAudit
