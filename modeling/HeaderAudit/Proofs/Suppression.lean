import HeaderAudit.CommandLine.Run
import HeaderAudit.Proofs.LineOwners
import HeaderAudit.Proofs.ShownReports

/-!
# What an exclusion suppresses

A request that is excluded is judged like any other: the verdicts, the notes, the overall status and
the coloured lines are the same with the rules and without them.  What the rules take away are the
findings and the exit code of failure.  Otherwise the findings are the verdicts that are not fine,
the overall status is the worst among the checks that count, and the exit code is 1 exactly if one
of these has failed, which is then a finding.
-/

namespace HeaderAudit

/-! ## The worst status -/

def Status.severity : Status → Nat
  | ok => 0
  | warn => 1
  | fail => 2

/-- Of the outcomes that count none has a worse status, and one of them has this one unless it is
fine. -/
structure Status.IsWorstAmong (worst : Status) (outcomes : List Outcome) : Prop where
  none_worse : ∀ o ∈ outcomes, o.check.affects = true →
    o.verdict.status.severity ≤ worst.severity
  ok_or_reached : worst = .ok ∨
    ∃ o ∈ outcomes, o.check.affects = true ∧ o.verdict.status = worst

theorem Status.IsWorstAmong.severity_le {worst other : Status} {outcomes : List Outcome}
    (hworst : worst.IsWorstAmong outcomes) (hother : other.IsWorstAmong outcomes) :
    worst.severity ≤ other.severity := by
  rcases hworst.ok_or_reached with rfl | ⟨o, ho, hcounts, rfl⟩
  · exact Nat.zero_le _
  · exact hother.none_worse o ho hcounts

theorem Status.IsWorstAmong.unique {worst other : Status} {outcomes : List Outcome}
    (hworst : worst.IsWorstAmong outcomes) (hother : other.IsWorstAmong outcomes) :
    worst = other := by
  have hsame := Nat.le_antisymm (hworst.severity_le hother) (hother.severity_le hworst)
  revert hsame
  cases worst <;> cases other <;> decide

namespace Report

variable {report : Report}

theorem any_counted_iff {p : Verdict → Bool} :
    report.counted.any p = true ↔
      ∃ o ∈ report.outcomes, o.check.affects = true ∧ p o.verdict = true := by
  simp [counted]

/-- A check that counts has failed. -/
def HasFailure (report : Report) : Prop :=
  ∃ o ∈ report.outcomes, o.check.affects = true ∧ o.verdict.status = .fail

theorem any_isFail_iff : report.counted.any Verdict.isFail = true ↔ report.HasFailure := by
  rw [any_counted_iff, HasFailure]
  simp [Verdict.isFail]

theorem any_isWarn_iff :
    report.counted.any Verdict.isWarn = true ↔
      ∃ o ∈ report.outcomes, o.check.affects = true ∧ o.verdict.status = .warn := by
  rw [any_counted_iff]
  simp [Verdict.isWarn]

theorem overall_eq_fail_iff : report.overall = .fail ↔ report.HasFailure := by
  rw [overall, ← any_isFail_iff]
  by_cases hfail : report.counted.any Verdict.isFail
  · simp [hfail]
  · by_cases hwarn : report.counted.any Verdict.isWarn <;> simp [hfail, hwarn]

theorem overall_isWorstAmong (report : Report) : report.overall.IsWorstAmong report.outcomes := by
  rw [overall]
  by_cases hfail : report.counted.any Verdict.isFail
  · rw [if_pos hfail]
    refine ⟨?_, .inr (any_isFail_iff.mp hfail)⟩
    intro o _ _
    cases o.verdict.status <;> decide
  · rw [if_neg hfail]
    have hnone : ∀ o ∈ report.outcomes, o.check.affects = true → o.verdict.status ≠ .fail :=
      fun o ho hcounts hstatus => hfail (any_isFail_iff.mpr ⟨o, ho, hcounts, hstatus⟩)
    by_cases hwarn : report.counted.any Verdict.isWarn
    · rw [if_pos hwarn]
      refine ⟨?_, .inr (any_isWarn_iff.mp hwarn)⟩
      intro o ho hcounts
      have hstatus := hnone o ho hcounts
      revert hstatus
      cases o.verdict.status <;> decide
    · rw [if_neg hwarn]
      refine ⟨?_, .inl rfl⟩
      intro o ho hcounts
      have hstatus := hnone o ho hcounts
      have hstatus' : o.verdict.status ≠ .warn :=
        fun h => hwarn (any_isWarn_iff.mpr ⟨o, ho, hcounts, h⟩)
      revert hstatus hstatus'
      cases o.verdict.status <;> decide

/-- The overall status, and no other, is the worst among the checks that count. -/
theorem isWorstAmong_iff {worst : Status} :
    worst.IsWorstAmong report.outcomes ↔ worst = report.overall := by
  constructor
  · exact fun hworst => hworst.unique report.overall_isWorstAmong
  · rintro rfl
    exact report.overall_isWorstAmong

/-! ## Findings and exit codes -/

theorem findings_of_excluded (hexcluded : report.excluded = true) : report.findings = [] := by
  rw [findings, if_pos hexcluded]

theorem findings_of_not_excluded (hexcluded : report.excluded = false) :
    report.findings = report.outcomes.filter fun o => o.verdict.status ≠ .ok := by
  rw [findings, if_neg (by simp [hexcluded])]
  simp [Verdict.isOk]

theorem mem_outcomes_of_mem_findings {o : Outcome} (ho : o ∈ report.findings) :
    o ∈ report.outcomes := by
  rw [findings] at ho
  split at ho
  · cases ho
  · exact List.mem_of_mem_filter ho

theorem exitCode_eq_one_iff :
    report.exitCode = 1 ↔ report.excluded = false ∧ report.HasFailure := by
  rw [exitCode, ← overall_eq_fail_iff]
  cases report.excluded <;> simp

theorem exitCode_eq_zero_or_one (report : Report) : report.exitCode = 0 ∨ report.exitCode = 1 := by
  rw [exitCode]
  cases report.excluded <;> by_cases hfail : report.overall = .fail <;> simp [hfail]

theorem mem_findings_of_fail (hexcluded : report.excluded = false) {o : Outcome}
    (ho : o ∈ report.outcomes) (hstatus : o.verdict.status = .fail) : o ∈ report.findings := by
  rw [findings_of_not_excluded hexcluded, List.mem_filter]
  exact ⟨ho, by simp [hstatus]⟩

/-- The reports agree in all that they say but for the exclusion. -/
structure Agrees (report other : Report) : Prop where
  outcomes_eq : report.outcomes = other.outcomes
  failures_eq : report.failures = other.failures
  context_eq : report.context = other.context
  overall_eq : report.overall = other.overall
  lines_eq : report.lines = other.lines

end Report

namespace Analysis

open Check (builtins)
open CommandLine (Setting Words printReport formatOption)
open Console (Library)

variable {registry : Option Registry} {method url : Option Text}

/-- There are rules, a method and a URL, neither of them empty, and some rule fits. -/
def ExcludedBy (registry : Option Registry) (method url : Option Text) : Prop :=
  ∃ r m u, registry = some r ∧ method = some m ∧ m ≠ [] ∧ url = some u ∧ u ≠ [] ∧
    ∃ rule ∈ r.rules, rule.excludes m u = true

theorem isExcluded_iff :
    isExcluded registry method url = true ↔ ExcludedBy registry method url := by
  unfold isExcluded ExcludedBy
  cases registry <;> cases method <;> cases url <;>
    simp [Registry.excludes, List.any_eq_true, and_assoc]

theorem render_column_of_builtin {library : Library} {check : Check} (hcheck : check ∈ builtins) :
    Console.Markup.render library check.column = .ok (.plain check.column) := by
  obtain h | h | h | h | h := Check.mem_builtins_cases hcheck <;> rw [h] <;> rfl

theorem liveTags_findingNotice {o : Outcome} (hcheck : o.check ∈ builtins) :
    Console.Markup.liveTags (Report.findingNotice o) = [o.verdict.status.colour, ['/']] := by
  rw [Report.findingNotice]
  obtain h | h | h | h | h := Check.mem_builtins_cases hcheck <;> rw [h] <;>
    cases o.verdict.status <;> decide

theorem showable_of_builtins {headers : Headers} {checks : List Check}
    (hchecks : ∀ check ∈ checks, check ∈ builtins) (method url : Option Text)
    (registry : Option Registry) (library : Library) (room : Nat) :
    (analyze headers checks method url registry).Showable library room := by
  have hbuiltin : ∀ o ∈ (analyze headers checks method url registry).outcomes,
      o.check ∈ builtins := fun o ho => hchecks _ (Check.check_mem_of_outcomes ho)
  refine Report.showable_of_canShow ?_ ?_ room
  · intro o ho
    exact ⟨_, render_column_of_builtin (hbuiltin o ho), fun _ hspan => absurd hspan List.not_mem_nil⟩
  · intro o ho
    exact Console.Markup.canShow_of_styled o.verdict.status.isStyle_colour
      (liveTags_findingNotice (hbuiltin o (Report.mem_outcomes_of_mem_findings ho)))

/-- A report returns its exit code whenever it can be shown, and as a document always. -/
theorem printReport_ending_iff (s : Setting) (line : Words) (report : Report) (code : Nat) :
    (printReport s line report).ending = .exit code ↔
      code = report.exitCode ∧
        (line.value? formatOption = some "json".toList ∨ report.Showable s.library s.room) := by
  rw [printReport, ← @Report.exists_printTerminal_iff s.library s.room report]
  by_cases hdocument : line.value? formatOption = some "json".toList
  · simp [hdocument, @eq_comm _ code]
  · rw [if_neg hdocument, or_iff_right hdocument]
    cases report.printTerminal s.library s.room <;> simp [@eq_comm _ code]

/-- With and without rules a response is judged alike.  A request is excluded exactly if there are
rules, a method and a URL and some rule fits; then there are no findings.  Otherwise the findings
are the verdicts that are not fine, in the order of the checks.  The overall status is the worst
among the checks that count, in whatever order they are, and the exit code, which a document returns
always and a report on the terminal if it can be shown, is 1 exactly if the request is not excluded
and one of these checks has failed; what has failed is then a finding. -/
theorem exclusion_only_suppresses (headers : Headers) (checks : List Check)
    (method url : Option Text) (registry : Option Registry) :
    let report := analyze headers checks method url registry
    report.Agrees (analyze headers checks method url none) ∧
    (report.excluded = true ↔ ExcludedBy registry method url) ∧
    report.outcomes = (answers headers [] checks).filterMap outcome? ∧
    (report.excluded = true → report.findings = []) ∧
    (report.excluded = false →
      report.findings = report.outcomes.filter fun o => o.verdict.status ≠ .ok) ∧
    (∀ worst : Status, worst.IsWorstAmong report.outcomes ↔ worst = report.overall) ∧
    (∀ order, order.Perm report.outcomes →
      ({ report with outcomes := order } : Report).overall = report.overall) ∧
    (∀ s line code, (printReport s line report).ending = .exit code ↔
      code = report.exitCode ∧
        (line.value? formatOption = some "json".toList ∨ report.Showable s.library s.room)) ∧
    ((∀ check ∈ checks, check ∈ builtins) → ∀ library room, report.Showable library room) ∧
    (report.exitCode = 0 ∨ report.exitCode = 1) ∧
    (report.exitCode = 1 ↔ report.excluded = false ∧ report.HasFailure) ∧
    (report.excluded = false →
      ∀ o ∈ report.outcomes, o.verdict.status = .fail → o ∈ report.findings) := by
  intro report
  have hagrees : report.Agrees (analyze headers checks method url none) :=
    ⟨rfl, rfl, rfl, rfl, rfl⟩
  have houtcomes : report.outcomes = (answers headers [] checks).filterMap outcome? := by
    simp only [report, analyze, run_eq]
  refine ⟨hagrees, isExcluded_iff, houtcomes, Report.findings_of_excluded,
    Report.findings_of_not_excluded, fun _ => Report.isWorstAmong_iff, ?_,
    fun s line code => printReport_ending_iff s line report code,
    fun hchecks => showable_of_builtins hchecks method url registry,
    report.exitCode_eq_zero_or_one, Report.exitCode_eq_one_iff, ?_⟩
  · intro order hperm
    exact Report.overall_eq_of_perm hperm
  · intro hexcluded o ho hstatus
    exact Report.mem_findings_of_fail hexcluded ho hstatus

end Analysis

end HeaderAudit
