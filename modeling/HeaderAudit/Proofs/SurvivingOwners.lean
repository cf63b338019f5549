import HeaderAudit.Proofs.Passes
import Mathlib.Data.List.Forall2

/-!
# The owners of the lines

A header line takes the colours of one check: of those that have come to a verdict and own the line,
the first in the pass.  A check that fails owns nothing, so that the line goes to the next one, and
a failing check that leaves no notes might as well not be there.
-/

namespace HeaderAudit

/-- The colour that stands for a status. -/
inductive Status.ShownIn : Tint → Status → Prop where
  | green : ShownIn .green .ok
  | yellow : ShownIn .yellow .warn
  | red : ShownIn .red .fail

theorem Status.shownIn_iff {tint : Tint} {status : Status} :
    status.ShownIn tint ↔ tint = Check.tintOf status := by
  constructor
  · rintro ⟨⟩ <;> rfl
  · rintro rfl
    cases status <;> constructor

theorem Check.lineTint_of_owns {check : Check} {line : Text} (howns : check.owns line = true)
    (verdict : Verdict) : check.lineTint line (some verdict) = tintOf verdict.status := if_pos howns

namespace Analysis

/-- The answer of the check at a place of the pass, given on the notes of the checks before it. -/
structure AnswersAt (headers : Headers) (checks : List Check) (place : Nat) (check : Check)
    (answer : Except CheckError Verdict) : Prop where
  stands : checks[place]? = some check
  answers : (check.judge headers (notes headers [] (checks.take place))).2 = answer

/-- The first check of the pass that comes to a verdict and owns the line. -/
structure FirstOwner (headers : Headers) (checks : List Check) (line : Text) (place : Nat)
    (check : Check) (verdict : Verdict) : Prop where
  survives : AnswersAt headers checks place check (.ok verdict)
  owns : check.owns line = true
  first : ∀ earlier < place, ∀ other v,
    AnswersAt headers checks earlier other (.ok v) → other.owns line = false

/-- What is shown for a line. -/
inductive Coloured (headers : Headers) (checks : List Check) (line : Text) :
    ColouredLine → Prop where
  | owned {place : Nat} {check : Check} {verdict : Verdict} {tint : Tint} :
      FirstOwner headers checks line place check verdict → verdict.status.ShownIn tint →
      Coloured headers checks line ⟨line, tint, check.segments line, some check.name⟩
  | unowned :
      (∀ place check verdict, AnswersAt headers checks place check (.ok verdict) →
        check.owns line = false) →
      Coloured headers checks line ⟨line, .none, [], none⟩

variable {headers : Headers} {checks : List Check} {line : Text} {check : Check}
  {verdict : Verdict}

/-! ## Owners among the outcomes -/

theorem answersAt_iff {place : Nat} {answer : Except CheckError Verdict} :
    AnswersAt headers checks place check answer ↔
      (answers headers [] checks)[place]? = some (check, answer) := by
  rw [answers_getElem?, Option.map_eq_some_iff]
  constructor
  · rintro ⟨hstands, hanswers⟩
    exact ⟨check, hstands, by rw [hanswers]⟩
  · rintro ⟨other, hstands, hpair⟩
    obtain ⟨rfl, hanswers⟩ := Prod.mk.inj hpair
    exact ⟨hstands, hanswers⟩

theorem AnswersAt.unique {place : Nat} {other : Check}
    {answer answer' : Except CheckError Verdict} (h : AnswersAt headers checks place check answer)
    (h' : AnswersAt headers checks place other answer') : answer = answer' := by
  obtain rfl := Option.some.inj (h.stands.symm.trans h'.stands)
  rw [← h.answers, h'.answers]

/-- The check that has answered owns the line, and its answer is a verdict. -/
def takes (line : Text) (a : Answered) : Bool := (outcome? a).any (·.check.owns line)

theorem find?_outcomes (headers : Headers) (checks : List Check) (line : Text) :
    (run headers checks).outcomes.find? (·.check.owns line) =
      ((answers headers [] checks).find? (takes line)).bind outcome? := by
  rw [run_eq]
  exact List.find?_filterMap

/-- The line passes by a place of the pass if no check comes to a verdict there and owns it. -/
theorem takes_eq_false_iff {place : Nat} (hplace : place < (answers headers [] checks).length) :
    takes line (answers headers [] checks)[place] = false ↔
      ∀ check v, AnswersAt headers checks place check (.ok v) → check.owns line = false := by
  simp only [answersAt_iff, List.getElem?_eq_getElem hplace, Option.some.injEq]
  constructor
  · intro hnot check v hanswer
    rw [hanswer] at hnot
    simpa [takes] using hnot
  · intro hunowned
    cases hat : (answers headers [] checks)[place] with
    | mk check answer =>
        cases answer with
        | error e => rfl
        | ok v => exact hunowned check v hat

/-- The first outcome whose check owns the line is that of the first owner. -/
theorem find?_outcomes_eq_some_iff :
    (run headers checks).outcomes.find? (·.check.owns line) = some ⟨check, verdict⟩ ↔
      ∃ place, FirstOwner headers checks line place check verdict := by
  rw [find?_outcomes, Option.bind_eq_some_iff]
  constructor
  · rintro ⟨⟨other, answer⟩, hfound, houtcome⟩
    obtain ⟨htakes, place, hplace, hat, hfirst⟩ := List.find?_eq_some_iff_getElem.mp hfound
    cases answer with
    | error e => simp at houtcome
    | ok v =>
        obtain ⟨rfl, rfl⟩ : other = check ∧ v = verdict := by simpa using houtcome
        refine ⟨place, ?_, by simpa [takes] using htakes, ?_⟩
        · exact answersAt_iff.mpr (List.getElem?_eq_some_iff.mpr ⟨hplace, hat⟩)
        · intro earlier hearlier
          exact (takes_eq_false_iff (by omega)).mp (by simpa using hfirst earlier hearlier)
  · rintro ⟨place, hsurvives, howns, hfirst⟩
    obtain ⟨hplace, hat⟩ := List.getElem?_eq_some_iff.mp (answersAt_iff.mp hsurvives)
    refine ⟨(check, .ok verdict), List.find?_eq_some_iff_getElem.mpr ⟨?_, place, hplace, hat, ?_⟩,
      rfl⟩
    · simpa [takes] using howns
    · intro earlier hearlier
      rw [(takes_eq_false_iff (by omega)).mpr (hfirst earlier hearlier)]
      rfl

theorem mem_outcomes_of_answersAt {place : Nat}
    (hanswer : AnswersAt headers checks place check (.ok verdict)) :
    ⟨check, verdict⟩ ∈ (run headers checks).outcomes := by
  rw [run_eq]
  exact List.mem_filterMap.mpr ⟨_, List.mem_of_getElem? (answersAt_iff.mp hanswer), rfl⟩

theorem find?_outcomes_eq_none_iff :
    (run headers checks).outcomes.find? (·.check.owns line) = none ↔
      ∀ place check verdict, AnswersAt headers checks place check (.ok verdict) →
        check.owns line = false := by
  constructor
  · intro hnone place check verdict hanswer
    have hnot := List.find?_eq_none.mp hnone _ (mem_outcomes_of_answersAt hanswer)
    simpa using hnot
  · intro hunowned
    cases hfound : (run headers checks).outcomes.find? (·.check.owns line) with
    | none => rfl
    | some o =>
        obtain ⟨place, howner⟩ := find?_outcomes_eq_some_iff.mp hfound
        have hnot := hunowned place o.check o.verdict howner.survives
        rw [howner.owns] at hnot
        cases hnot

/-! ## The lines of a report -/

theorem coloured_iff {shown : ColouredLine} :
    Coloured headers checks line shown ↔
      Report.colour (run headers checks).outcomes line = shown := by
  rw [Report.colour]
  constructor
  · rintro (⟨howner, htint⟩ | hunowned)
    · rw [find?_outcomes_eq_some_iff.mpr ⟨_, howner⟩, Status.shownIn_iff.mp htint]
      simp only [Check.lineTint_of_owns howner.owns]
    · rw [find?_outcomes_eq_none_iff.mpr hunowned]
  · rintro rfl
    cases hfound : (run headers checks).outcomes.find? (·.check.owns line) with
    | none => exact .unowned (find?_outcomes_eq_none_iff.mp hfound)
    | some o =>
        obtain ⟨place, howner⟩ := find?_outcomes_eq_some_iff.mp hfound
        have htint := Check.lineTint_of_owns howner.owns o.verdict
        exact .owned howner (Status.shownIn_iff.mpr htint)

theorem lines_eq_iff (headers : Headers) (checks : List Check) (method url : Option Text)
    (registry : Option Registry) (shown : List ColouredLine) :
    (analyze headers checks method url registry).lines = shown ↔
      List.Forall₂ (Coloured headers checks) headers.lines shown := by
  have hcoloured : Coloured headers checks =
      fun line => Eq (Report.colour (run headers checks).outcomes line) := by
    funext line shown
    exact propext coloured_iff
  rw [hcoloured, ← List.forall₂_map_left_iff, List.forall₂_eq_eq_eq]
  rfl

theorem lines_getElem?_of_firstOwner {place i : Nat}
    (howner : FirstOwner headers checks line place check verdict)
    (hline : headers.lines[i]? = some line) (method url : Option Text)
    (registry : Option Registry) :
    ∃ tint, verdict.status.ShownIn tint ∧
      (analyze headers checks method url registry).lines[i]? =
        some ⟨line, tint, check.segments line, some check.name⟩ := by
  have htint : verdict.status.ShownIn (Check.tintOf verdict.status) := Status.shownIn_iff.mpr rfl
  refine ⟨_, htint, ?_⟩
  rw [Report.lines, List.getElem?_map, ← coloured_iff.mp (.owned howner htint)]
  exact congrArg (Option.map _) hline

/-- A failing check that leaves the notes alone leaves the outcomes alone. -/
theorem outcomes_insert {before after : List Check} {failing : Check} {e : CheckError}
    (hfails : failing.judge headers (notes headers [] before) =
      (notes headers [] before, .error e)) :
    (run headers (before ++ failing :: after)).outcomes =
      (run headers (before ++ after)).outcomes := by
  rw [run_eq, run_eq]
  simp [answers_append, answers, hfails, List.filterMap_cons]

/-- A report shows every line once, in the order of arrival, in the colour and with the segments of
the first check that has come to a verdict and owns it, or plainly if there is none.  A check that
fails hides no line from a check behind it, and one that leaves no notes either may be put in
anywhere. -/
theorem lines_show_first_surviving_owner (headers : Headers) (method url : Option Text)
    (registry : Option Registry) :
    (∀ checks shown, (analyze headers checks method url registry).lines = shown ↔
      List.Forall₂ (Coloured headers checks) headers.lines shown) ∧
    (∀ checks place failing e, AnswersAt headers checks place failing (.error e) →
      ∀ line later check verdict, AnswersAt headers checks later check (.ok verdict) →
        check.owns line = true →
        (∀ earlier < later, earlier ≠ place → ∀ other v,
          AnswersAt headers checks earlier other (.ok v) → other.owns line = false) →
        ∀ i : Nat, headers.lines[i]? = some line → ∃ tint, verdict.status.ShownIn tint ∧
          (analyze headers checks method url registry).lines[i]? =
            some ⟨line, tint, check.segments line, some check.name⟩) ∧
    ∀ before after failing e,
      failing.judge headers (notes headers [] before) = (notes headers [] before, .error e) →
      (analyze headers (before ++ failing :: after) method url registry).lines =
        (analyze headers (before ++ after) method url registry).lines := by
  refine ⟨fun checks => lines_eq_iff headers checks method url registry, ?_, ?_⟩
  · intro checks place failing e hfails line later check verdict hsurvives howns hothers i hline
    have howner : FirstOwner headers checks line later check verdict := by
      refine ⟨hsurvives, howns, ?_⟩
      intro earlier hearlier other v hanswer
      by_cases hsame : earlier = place
      -- Where a check fails there is no verdict.
      · subst hsame
        cases hfails.unique hanswer
      · exact hothers earlier hearlier hsame other v hanswer
    exact lines_getElem?_of_firstOwner howner hline method url registry
  · intro before after failing e hfails
    exact congrArg (fun outcomes => headers.lines.map (Report.colour outcomes))
      (outcomes_insert hfails)

/-! ## A check that fails in front of others of its header -/

namespace Stumble

/-- A check of the cookies that comes to nothing. -/
def stumbler : Check where
  className := "Stumbler"
  name := "Stumbler"
  column := "Stumbler"
  missing := []
  header := "set-cookie"
  affects := true
  patterns := ⟨["set-cookie"], [], []⟩
  judge _ context := (context, .error (.failed "stumbled"))

/-- A check of the cookies that is never content. -/
def grumbler : Check :=
  { stumbler with
    name := "Grumbler"
    judge := fun _ context => (context, .ok (.warn [] [])) }

def cookieLine : Text := "Set-Cookie: a=1; Secure"

def response : Headers := ⟨["Server: x".toList, cookieLine], none⟩

def cookieChecks : List Check := [stumbler, Cookie.check, grumbler]

theorem line_goes_to_next_owner :
    AnswersAt response cookieChecks 0 stumbler (.error (.failed "stumbled")) ∧
      stumbler.owns cookieLine = true ∧
      AnswersAt response cookieChecks 1 Cookie.check
        (.ok (Cookie.verdict ["a=1; Secure".toList])) ∧
      (analyze response cookieChecks none none none).lines[1]? =
        some ⟨cookieLine, .green, [⟨17, 23, .green⟩], some "Cookies".toList⟩ ∧
      (analyze response cookieChecks none none none).lines =
        (analyze response [Cookie.check, grumbler] none none none).lines := by
  have hfails : AnswersAt response cookieChecks 0 stumbler (.error (.failed "stumbled")) :=
    ⟨rfl, rfl⟩
  have hvalues : response.getAll "Set-Cookie" = ["a=1; Secure".toList] := by decide
  have hsurvives : AnswersAt response cookieChecks 1 Cookie.check
      (.ok (Cookie.verdict ["a=1; Secure".toList])) := by
    refine ⟨rfl, ?_⟩
    rw [← hvalues]
    rfl
  have hothers : ∀ earlier < 1, earlier ≠ 0 → ∀ other v,
      AnswersAt response cookieChecks earlier other (.ok v) → other.owns cookieLine = false := by
    omega
  obtain ⟨-, hpasses, hinsert⟩ := lines_show_first_surviving_owner response none none none
  obtain ⟨tint, htint, hshown⟩ := hpasses cookieChecks 0 stumbler _ hfails cookieLine 1
    Cookie.check _ hsurvives (by decide) hothers 1 rfl
  have hok : (Cookie.verdict ["a=1; Secure".toList]).status = .ok := by decide
  have hsegments : Cookie.check.segments cookieLine = [⟨17, 23, .green⟩] := by decide
  rw [hok] at htint
  cases htint
  rw [hsegments] at hshown
  exact ⟨hfails, by decide, hsurvives, hshown, hinsert [] [Cookie.check, grumbler] stumbler _ rfl⟩

end Stumble

end Analysis

end HeaderAudit
