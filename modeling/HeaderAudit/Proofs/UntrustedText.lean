import HeaderAudit.Proofs.Suppression

/-!
# Texts that a response brings along

A report on the terminal is put together from markups, and the values of the headers, the method and
the URL are whatever was received.  The values and the header lines are never read as markups, and
the request is escaped, so that no tag comes about inside it or across its ends.  The tags of a
report on the checks of the program are then its own, and it can be shown.
-/

namespace HeaderAudit

open Console (Cell Library)
open Console.Markup (liveTags render shown)

namespace Analysis

open Check (builtins)
open CommandLine (Setting Words printReport)

/-- Whatever the headers, the method, the URL and the rules are, the report on the checks of the
program is printed and returns its exit code.  The tags that count are those of the report: one
style around the notice of an excluded request, whatever the request is, one around each finding and
each status in the table, and two in the overall status.  The table shows the names of the checks
and the values as they are. -/
theorem untrusted_text_cannot_break_report (headers : Headers) (method url : Option Text)
    (registry : Option Registry) :
    let report := analyze headers builtins method url registry
    (∀ library room, ∃ t, report.printTerminal library room = .ok t) ∧
      (∀ s line, (printReport s line report).ending = .exit report.exitCode) ∧
      liveTags report.exclusionNotice = ["dim".toList, ['/']] ∧
      liveTags report.overallNotice =
        [report.overall.colour, "bold".toList, ['/'], ['/']] ∧
      (∀ o ∈ report.findings,
        liveTags (Report.findingNotice o) = [o.verdict.status.colour, ['/']]) ∧
      report.verdictTable.rows = report.outcomes.map (fun o =>
        [.markup o.check.column, .markup (o.verdict.status.painted o.verdict.status.name),
          .text o.verdict.display, .markup (affectsNotice o.check.affects)]) ∧
      ∀ o ∈ report.outcomes, ∀ library,
        render library o.check.column = .ok (.plain o.check.column) ∧
        liveTags (o.verdict.status.painted o.verdict.status.name) =
          [o.verdict.status.colour, ['/']] ∧
        (Cell.text o.verdict.display).render library = .ok (.plain (shown o.verdict.display)) := by
  intro report
  have hshowable : ∀ library room, report.Showable library room :=
    showable_of_builtins (fun _ hcheck => hcheck) method url registry
  have hbuiltin : ∀ o ∈ report.outcomes, o.check ∈ builtins :=
    fun o ho => Check.check_mem_of_outcomes ho
  refine ⟨fun library room => Report.exists_printTerminal_iff.mpr (hshowable library room), ?_,
    report.liveTags_exclusionNotice, report.liveTags_overallNotice, ?_, rfl, ?_⟩
  · intro s line
    rw [printReport_ending_iff]
    exact ⟨rfl, .inr (hshowable s.library s.room)⟩
  · intro o ho
    exact liveTags_findingNotice (hbuiltin o (Report.mem_outcomes_of_mem_findings ho))
  · intro o ho library
    exact ⟨render_column_of_builtin (hbuiltin o ho), o.verdict.status.liveTags_painted_name, rfl⟩

end Analysis

end HeaderAudit
