import HeaderAudit.Text.Basic
import HeaderAudit.Registry.Basic

/-!
# The log

What is worth telling though it stops nothing: each entry is a cause, and its wording is here.
-/

namespace HeaderAudit

inductive Level where
  | debug
  | warning
  deriving DecidableEq, Repr

def Level.name : Level → Text
  | debug => "DEBUG"
  | warning => "WARNING"

inductive LogEntry where
  | rulesUnreadable (path : Text)
  /-- An entry of a rule file has so many faults. -/
  | invalidRule (faults : Nat)
  | rulesSaved (count : Nat) (path : Text)
  | listenerFailed (listener : Listener) (reason : Option Text)
  | checkFailed (className reason : Text)
  deriving DecidableEq, Repr

namespace LogEntry

def level : LogEntry → Level
  | rulesSaved .. => .debug
  | _ => .warning

def listenerName : Listener → Text
  | .store => "<store>"
  | .named name => "<listener " ++ name ++ ['>']

def message : LogEntry → Text
  | rulesUnreadable path => "Could not read exclusion rules from " ++ path
  | invalidRule faults => "Skipping invalid exclusion rule: " ++ Text.ofNat faults ++ " error(s)"
  | rulesSaved count path =>
    "Saved " ++ Text.ofNat count ++ " exclusion rule(s) to " ++ path
  | listenerFailed listener reason =>
    "Exclusion rule listener " ++ listenerName listener ++ " failed"
      ++ (match reason with
        | some t => ": " ++ t
        | none => [])
  | checkFailed className reason => "Check " ++ className ++ " failed: " ++ reason

end LogEntry

end HeaderAudit
