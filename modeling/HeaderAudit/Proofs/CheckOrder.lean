import HeaderAudit.Proofs.Passes
import Mathlib.Data.List.Nodup

/-!
# The order of the checks

A built-in check answers as if it were alone, whatever checks stand around it and whatever notes
they leave.  The built-in checks themselves may stand in any order: a header line has no more than
one owner among them, and only one of them leaves notes, so that what a report says does not
depend on the order.
-/

namespace HeaderAudit

/-! ## Owners of a line -/

namespace Check

variable {check other : Check} {line : Text}

/-- A check owns the lines whose name, in small letters, is its own. -/
theorem cut_of_owns (hname : ':' ∉ Text.lower check.header) (howns : check.owns line = true) :
    (Text.cut ':' (Text.lower line)).1 = Text.lower check.header := by
  rw [owns, Bool.and_eq_true, List.isPrefixOf_iff_prefix] at howns
  obtain ⟨rest, hline⟩ := howns.2
  rw [← hline, List.append_assoc, List.singleton_append, Text.cut_append hname]

theorem colon_not_mem_header (hcheck : check ∈ builtins) : ':' ∉ Text.lower check.header := by
  obtain rfl | rfl | rfl | rfl | rfl := mem_builtins_cases hcheck <;> decide

theorem eq_of_header_eq (hcheck : check ∈ builtins) (hother : other ∈ builtins)
    (hheader : Text.lower check.header = Text.lower other.header) : check = other := by
  have hdistinct : (builtins.map fun check => Text.lower check.header).Nodup := by decide
  exact List.inj_on_of_nodup_map hdistinct hcheck hother hheader

theorem eq_of_owns (hcheck : check ∈ builtins) (hother : other ∈ builtins)
    (howns : check.owns line = true) (howns' : other.owns line = true) : check = other := by
  apply eq_of_header_eq hcheck hother
  rw [← cut_of_owns (colon_not_mem_header hcheck) howns,
    cut_of_owns (colon_not_mem_header hother) howns']

/-! ## Notes -/

theorem leaves_no_notes_of_ne (hcheck : check ∈ builtins) (hother : check ≠ Cookie.check)
    (headers : Headers) (context : Context) : (check.judge headers context).1 = context := by
  obtain rfl | rfl | rfl | rfl | rfl := mem_builtins_cases hcheck
  case inr.inr.inl => exact absurd rfl hother
  all_goals rfl

theorem judge_notes_comm (hcheck : check ∈ builtins) (hother : other ∈ builtins)
    (headers : Headers) (context : Context) :
    (other.judge headers (check.judge headers context).1).1 =
      (check.judge headers (other.judge headers context).1).1 := by
  -- Of two different checks one leaves the notes alone.
  by_cases hcookie : check = Cookie.check
  · by_cases hcookie' : other = Cookie.check
    · rw [hcookie, hcookie']
    · rw [leaves_no_notes_of_ne hother hcookie', leaves_no_notes_of_ne hother hcookie']
  · rw [leaves_no_notes_of_ne hcheck hcookie, leaves_no_notes_of_ne hcheck hcookie]

end Check

/-! ## Reports with the same outcomes in another order -/

theorem find?_eq_of_perm {α : Type} {p : α → Bool} {l others : List α} (hperm : l.Perm others)
    (hunique : ∀ a ∈ l, ∀ b ∈ l, p a = true → p b = true → a = b) : l.find? p = others.find? p := by
  cases hfound : l.find? p with
  | none =>
      rw [List.find?_eq_none] at hfound
      rw [eq_comm, List.find?_eq_none]
      intro a ha
      exact hfound a (hperm.mem_iff.mpr ha)
  | some a =>
      have ha := List.mem_of_find?_eq_some hfound
      have hpa := List.find?_some hfound
      obtain ⟨b, hb⟩ : ∃ b, others.find? p = some b := by
        rw [← Option.isSome_iff_exists, List.find?_isSome]
        exact ⟨a, hperm.mem_iff.mp ha, hpa⟩
      have hmem := hperm.mem_iff.mpr (List.mem_of_find?_eq_some hb)
      rw [hb, hunique a ha b hmem hpa (List.find?_some hb)]

namespace Report

variable {report other : Report}

theorem overall_eq_of_perm (hperm : report.outcomes.Perm other.outcomes) :
    report.overall = other.overall := by
  have hcounted : report.counted.Perm other.counted := (hperm.filter _).map _
  rw [overall, overall, hcounted.any_eq, hcounted.any_eq]

theorem findings_perm (hperm : report.outcomes.Perm other.outcomes)
    (hexcluded : report.excluded = other.excluded) : report.findings.Perm other.findings := by
  rw [findings, findings, hexcluded]
  split
  · exact List.Perm.refl []
  · exact hperm.filter _

theorem colour_eq_of_perm {outcomes others : List Outcome} (hperm : outcomes.Perm others)
    {line : Text} (hunique : ∀ o ∈ outcomes, ∀ o' ∈ outcomes,
      o.check.owns line = true → o'.check.owns line = true → o = o') :
    colour outcomes line = colour others line := by
  rw [colour, colour, find?_eq_of_perm hperm hunique]

end Report

namespace Analysis

open Check (builtins)

variable {headers : Headers} {order : List Check}

theorem outcomes_of_ignoresNotes (hblind : ∀ check ∈ order, check.IgnoresNotes) :
    (run headers order).outcomes =
      order.filterMap fun check => outcome? (check, (check.judge headers []).2) := by
  rw [run_eq]
  dsimp only
  rw [answers_of_ignoresNotes hblind, List.filterMap_map]
  rfl

theorem run_outcomes_perm (hperm : order.Perm builtins) :
    (run headers order).outcomes.Perm (run headers builtins).outcomes := by
  have hblind : ∀ check ∈ builtins, check.IgnoresNotes :=
    fun _ hcheck => Check.ignoresNotes_of_mem_builtins hcheck
  rw [outcomes_of_ignoresNotes hblind,
    outcomes_of_ignoresNotes fun check hcheck => hblind check (hperm.mem_iff.mp hcheck)]
  exact hperm.filterMap _

theorem run_context_eq (hperm : order.Perm builtins) :
    (run headers order).context = (run headers builtins).context := by
  rw [run_eq, run_eq]
  apply hperm.foldl_eq'
  intro check hcheck other hother context
  exact Check.judge_notes_comm (hperm.mem_iff.mp hcheck) (hperm.mem_iff.mp hother) headers context

/-- The outcome of a check tells which check it is, and the check tells the verdict. -/
theorem check_of_outcome?_eq_some {check : Check} {o : Outcome}
    (ho : outcome? (check, (check.judge headers []).2) = some o) :
    o.check = check ∧ (check.judge headers []).2 = .ok o.verdict := by
  cases hanswer : (check.judge headers []).2 with
  | error e => simp [hanswer] at ho
  | ok verdict =>
      rw [hanswer, outcome?_ok, Option.some.injEq] at ho
      simp [← ho]

theorem outcome_eq_of_owns (hbuiltin : ∀ check ∈ order, check ∈ builtins) {line : Text}
    {o o' : Outcome} (ho : o ∈ (run headers order).outcomes)
    (ho' : o' ∈ (run headers order).outcomes) (howns : o.check.owns line = true)
    (howns' : o'.check.owns line = true) : o = o' := by
  rw [outcomes_of_ignoresNotes fun check hcheck =>
    Check.ignoresNotes_of_mem_builtins (hbuiltin check hcheck)] at ho ho'
  obtain ⟨check, hcheck, ho⟩ := List.mem_filterMap.mp ho
  obtain ⟨other, hother, ho'⟩ := List.mem_filterMap.mp ho'
  have hsame : check = other := by
    apply Check.eq_of_owns (hbuiltin check hcheck) (hbuiltin other hother)
    · rwa [(check_of_outcome?_eq_some ho).1] at howns
    · rwa [(check_of_outcome?_eq_some ho').1] at howns'
  rw [hsame, ho'] at ho
  exact (Option.some.inj ho).symm

/-- A built-in check comes to the same in every pass as in a pass of its own, be it a verdict or a
failure.  Among themselves the built-in checks may change places: the status, the findings, the
notes, the coloured lines and the exit code stay. -/
theorem builtins_are_independent (headers : Headers) :
    (∀ checks method url registry,
      (analyze headers checks method url registry).outcomes =
          (answers headers [] checks).filterMap outcome? ∧
        (analyze headers checks method url registry).failures =
          (answers headers [] checks).filterMap failure?) ∧
    (∀ (checks : List Check) (i : Nat) (check : Check),
      checks[i]? = some check → check ∈ builtins →
        (answers headers [] checks)[i]? = (answers headers [] [check])[0]?) ∧
    ∀ order : List Check, order.Perm builtins → ∀ method url registry,
      let report := analyze headers order method url registry
      let usual := analyze headers builtins method url registry
      report.overall = usual.overall ∧ report.findings.Perm usual.findings ∧
        report.context = usual.context ∧ report.lines = usual.lines ∧
        report.exitCode = usual.exitCode := by
  refine ⟨?_, ?_, ?_⟩
  · intro checks method url registry
    simp only [analyze, run_eq, and_self]
  · intro checks i check hcheck hbuiltin
    rw [answers_getElem?_of_ignoresNotes hcheck (Check.ignoresNotes_of_mem_builtins hbuiltin)]
    rfl
  · intro order hperm method url registry report usual
    have houtcomes : report.outcomes.Perm usual.outcomes := run_outcomes_perm hperm
    have hoverall : report.overall = usual.overall := Report.overall_eq_of_perm houtcomes
    have hlines : report.lines = usual.lines := by
      apply List.map_congr_left
      intro line _
      apply Report.colour_eq_of_perm houtcomes
      intro o ho o' ho'
      exact outcome_eq_of_owns (fun check hcheck => hperm.mem_iff.mp hcheck) ho ho'
    have hexcluded : report.excluded = usual.excluded := rfl
    have hexit : report.exitCode = usual.exitCode := by
      rw [Report.exitCode, Report.exitCode, hoverall, hexcluded]
    exact ⟨hoverall, Report.findings_perm houtcomes hexcluded, run_context_eq hperm, hlines, hexit⟩

/-! ## A check that meddles -/

namespace Meddler

/-- Overwrites the note on the cookies, claims their lines, and fails. -/
def meddler : Check where
  className := "Meddler"
  name := "Meddler"
  column := "Meddler"
  missing := []
  header := "Set-Cookie"
  affects := true
  patterns := ⟨[], [], []⟩
  judge _ context := (Json.setField Cookie.contextKey .null context, .error (.failed "meddled"))

def response : Headers :=
  ⟨["Set-Cookie: a=1".toList, "Strict-Transport-Security: max-age=0".toList], none⟩

def checks : List Check := [meddler, Cookie.check, meddler]

theorem cookies_are_judged_all_the_same :
    checks[1]? = some Cookie.check ∧ Cookie.check ∈ builtins ∧
      builtins.reverse.Perm builtins ∧
      (answers response [] checks)[1]? = (answers response [] [Cookie.check])[0]? ∧
      (analyze response builtins.reverse none none none).lines =
        (analyze response builtins none none none).lines := by
  have hcheck : checks[1]? = some Cookie.check := rfl
  have hmem : Cookie.check ∈ builtins := by simp [builtins]
  have hperm : builtins.reverse.Perm builtins := List.reverse_perm builtins
  obtain ⟨-, halone, horder⟩ := builtins_are_independent response
  obtain ⟨-, -, -, hlines, -⟩ := horder builtins.reverse hperm none none none
  exact ⟨hcheck, hmem, hperm, halone checks 1 Cookie.check hcheck hmem, hlines⟩

end Meddler

end Analysis

end HeaderAudit
