import HeaderAudit.Check.Catalogue
import HeaderAudit.Registry.Basic

/-!
# Analysis

One pass of checks over the headers of one response. The checks share the notes of the pass, and a
check that fails is left out. A report tells the verdicts, the status of the response as a whole and
the header lines in colour. A request that is excluded keeps its verdicts but has no findings.
-/

namespace HeaderAudit

structure Outcome where
  check : Check
  verdict : Verdict

/-- A header line, and how the check that owns it colours it. -/
structure ColouredLine where
  text : Text
  tint : Tint
  segments : List Segment
  check : Option Text
  deriving DecidableEq, Repr, Inhabited

structure Report where
  headers : Headers
  outcomes : List Outcome
  context : Context
  failures : List (Check × CheckError)
  method : Option Text
  url : Option Text
  excluded : Bool

namespace Analysis

structure Pass where
  outcomes : List Outcome
  failures : List (Check × CheckError)
  context : Context

def Pass.add (headers : Headers) (pass : Pass) (check : Check) : Pass :=
  match check.judge headers pass.context with
  | (context, .ok verdict) => ⟨pass.outcomes ++ [⟨check, verdict⟩], pass.failures, context⟩
  | (context, .error e) => ⟨pass.outcomes, pass.failures ++ [(check, e)], context⟩

def run (headers : Headers) (checks : List Check) : Pass :=
  checks.foldl (Pass.add headers) ⟨[], [], []⟩

/-- A request is excluded when there are rules, its method and its URL are there and not empty, and
some rule fits. -/
def isExcluded (registry : Option Registry) (method url : Option Text) : Bool :=
  match registry, method, url with
  | some registry, some method, some url =>
    !method.isEmpty && !url.isEmpty && registry.excludes method url
  | _, _, _ => false

def analyze (headers : Headers) (checks : List Check) (method url : Option Text)
    (registry : Option Registry) : Report :=
  let pass := run headers checks
  ⟨headers, pass.outcomes, pass.context, pass.failures, method, url, isExcluded registry method url⟩

end Analysis

namespace Report

def counted (report : Report) : List Verdict :=
  (report.outcomes.filter (·.check.affects)).map (·.verdict)

/-- The worst status among the verdicts that count. -/
def overall (report : Report) : Status :=
  if report.counted.any Verdict.isFail then .fail
  else if report.counted.any Verdict.isWarn then .warn
  else .ok

/-- What is amiss; nothing is in an excluded request. -/
def findings (report : Report) : List Outcome :=
  if report.excluded then [] else report.outcomes.filter fun o => !o.verdict.isOk

def verdictFor (name : Text) (report : Report) : Option Verdict :=
  (report.outcomes.find? (·.check.name = name)).map (·.verdict)

/-- The line in the colours of the first check that owns it. -/
def colour (outcomes : List Outcome) (line : Text) : ColouredLine :=
  match outcomes.find? (·.check.owns line) with
  | none => ⟨line, .none, [], none⟩
  | some o => ⟨line, o.check.lineTint line (some o.verdict), o.check.segments line, some o.check.name⟩

def lines (report : Report) : List ColouredLine :=
  report.headers.lines.map (colour report.outcomes)

def exitCode (report : Report) : Nat :=
  if report.excluded then 0 else if report.overall = .fail then 1 else 0

end Report

end HeaderAudit
