import HeaderAudit.Analysis
import HeaderAudit.Proofs.LeftmostAge
import Mathlib.Data.List.DropRight

/-!
# What the checks of a pass come to

Every check of a pass is asked once, in turn, and answers with a verdict or fails.  A report has
the verdicts, and the failures besides.  The built-in checks answer as if they were alone, because
none of them looks at the notes, and only one of them ever fails: an age of too many digits ends
the check of the transport security.
-/

namespace HeaderAudit

namespace Check

/-- The notes of the pass do not matter for the answer. -/
def IgnoresNotes (check : Check) : Prop :=
  ∀ headers context, (check.judge headers context).2 = (check.judge headers []).2

theorem mem_builtins_cases {check : Check} (hcheck : check ∈ builtins) :
    check = CacheControl.check ∨ check = ContentType.check ∨ check = Cookie.check ∨
      check = TransportSecurity.check ∨ check = ContentTypeOptions.check := by
  simpa [builtins] using hcheck

theorem ignoresNotes_of_mem_builtins {check : Check} (hcheck : check ∈ builtins) :
    check.IgnoresNotes := by
  intro headers context
  obtain rfl | rfl | rfl | rfl | rfl := mem_builtins_cases hcheck <;> rfl

end Check

namespace Analysis

/-- A check that has been asked, and its answer. -/
abbrev Answered := Check × Except CheckError Verdict

/-- The answers of the checks one after another.  Each check sees the notes of those before it. -/
def answers (headers : Headers) : Context → List Check → List Answered
  | _, [] => []
  | context, check :: rest =>
    (check, (check.judge headers context).2) ::
      answers headers (check.judge headers context).1 rest

/-- The notes after all the checks. -/
def notes (headers : Headers) (context : Context) (checks : List Check) : Context :=
  checks.foldl (fun context check => (check.judge headers context).1) context

def outcome? : Answered → Option Outcome
  | (check, .ok verdict) => some ⟨check, verdict⟩
  | (_, .error _) => none

def failure? : Answered → Option (Check × CheckError)
  | (_, .ok _) => none
  | (check, .error e) => some (check, e)

variable {headers : Headers} {checks : List Check} {check : Check}

@[simp] theorem outcome?_ok (check : Check) (verdict : Verdict) :
    outcome? (check, .ok verdict) = some ⟨check, verdict⟩ := rfl

@[simp] theorem outcome?_error (check : Check) (e : CheckError) :
    outcome? (check, .error e) = none := rfl

@[simp] theorem failure?_ok (check : Check) (verdict : Verdict) :
    failure? (check, .ok verdict) = none := rfl

@[simp] theorem failure?_error (check : Check) (e : CheckError) :
    failure? (check, .error e) = some (check, e) := rfl

theorem foldl_add (checks : List Check) (pass : Pass) :
    checks.foldl (Pass.add headers) pass =
      ⟨pass.outcomes ++ (answers headers pass.context checks).filterMap outcome?,
        pass.failures ++ (answers headers pass.context checks).filterMap failure?,
        notes headers pass.context checks⟩ := by
  induction checks generalizing pass with
  | nil => simp [answers, notes]
  | cons check rest ih =>
      rw [List.foldl_cons, ih]
      unfold Pass.add
      cases hjudge : check.judge headers pass.context with
      | mk context answer =>
          cases answer <;> simp [answers, notes, hjudge, List.filterMap_cons]

/-- A pass is what the answers of its checks make of it. -/
theorem run_eq (headers : Headers) (checks : List Check) :
    run headers checks =
      ⟨(answers headers [] checks).filterMap outcome?,
        (answers headers [] checks).filterMap failure?, notes headers [] checks⟩ := by
  simp [run, foldl_add]

/-- A check is asked with the notes that the checks before it leave. -/
theorem answers_getElem? (headers : Headers) (context : Context) (checks : List Check)
    (place : Nat) :
    (answers headers context checks)[place]? = checks[place]?.map fun check =>
      (check, (check.judge headers (notes headers context (checks.take place))).2) := by
  induction checks generalizing context place with
  | nil => simp [answers]
  | cons first rest ih =>
      cases place with
      | zero => simp [answers, notes]
      | succ place => exact ih (first.judge headers context).1 place

theorem answers_append (context : Context) (before after : List Check) :
    answers headers context (before ++ after) =
      answers headers context before ++ answers headers (notes headers context before) after := by
  induction before generalizing context with
  | nil => rfl
  | cons check before ih =>
      rw [List.cons_append, answers, ih, answers, List.cons_append]
      rfl

theorem answers_getElem?_of_ignoresNotes {i : Nat} (hcheck : checks[i]? = some check)
    (hblind : check.IgnoresNotes) (context : Context) :
    (answers headers context checks)[i]? = some (check, (check.judge headers []).2) := by
  rw [answers_getElem?, hcheck, Option.map_some, hblind]

theorem answers_of_ignoresNotes (hblind : ∀ check ∈ checks, check.IgnoresNotes)
    (context : Context) :
    answers headers context checks =
      checks.map fun check => (check, (check.judge headers []).2) := by
  induction checks generalizing context with
  | nil => rfl
  | cons check rest ih =>
      rw [List.forall_mem_cons] at hblind
      rw [answers, ih hblind.2, hblind.1 headers context, List.map_cons]

/-- If every check gives a verdict, the report has one for each of them, in their order. -/
theorem checks_of_answers {answered : List Answered}
    (hall : ∀ a ∈ answered, ∃ verdict, a.2 = .ok verdict) :
    (answered.filterMap outcome?).map (·.check) = answered.map (·.1) ∧
      answered.filterMap failure? = [] := by
  induction answered with
  | nil => exact ⟨rfl, rfl⟩
  | cons a rest ih =>
      obtain ⟨check, answer⟩ := a
      rw [List.forall_mem_cons] at hall
      obtain ⟨⟨verdict, rfl⟩, hrest⟩ := hall
      simp [List.filterMap_cons, ih hrest]

end Analysis

namespace Check

open Analysis (analyze answers)
open TransportSecurity (OverlongAge)

/-- The value that the check of the transport security looks at. -/
def transportSecurityOf (headers : Headers) : Option Text :=
  headers.get? "Strict-Transport-Security"

theorem judge_transportSecurity (headers : Headers) (context : Context) :
    (TransportSecurity.check.judge headers context).2 =
      TransportSecurity.verdict (transportSecurityOf headers) := rfl

theorem exists_verdict_of_ne {check : Check} (hcheck : check ∈ builtins)
    (hother : check ≠ TransportSecurity.check) (headers : Headers) (context : Context) :
    ∃ verdict, (check.judge headers context).2 = .ok verdict := by
  obtain rfl | rfl | rfl | rfl | rfl := mem_builtins_cases hcheck
  case inr.inr.inr.inl => exact absurd rfl hother
  all_goals exact ⟨_, rfl⟩

theorem exists_verdict_iff {check : Check} (hcheck : check ∈ builtins) (headers : Headers)
    (context : Context) :
    (∃ verdict, (check.judge headers context).2 = .ok verdict) ↔
      (check = TransportSecurity.check →
        ∀ count, ¬ OverlongAge (transportSecurityOf headers) count) := by
  by_cases hsame : check = TransportSecurity.check
  · simp only [hsame, true_implies, judge_transportSecurity, TransportSecurity.verdict_ok_iff]
  · simp [hsame, exists_verdict_of_ne hcheck hsame headers context]

theorem answers_builtins (headers : Headers) (context : Context) :
    answers headers context builtins =
      builtins.map fun check => (check, (check.judge headers []).2) :=
  Analysis.answers_of_ignoresNotes (fun _ hcheck => ignoresNotes_of_mem_builtins hcheck) context

theorem analyze_builtins {headers : Headers}
    (hshort : ∀ count, ¬ OverlongAge (transportSecurityOf headers) count) (method url : Option Text)
    (registry : Option Registry) :
    (analyze headers builtins method url registry).outcomes.map (·.check) = builtins ∧
      (analyze headers builtins method url registry).failures = [] := by
  have hall : ∀ a ∈ answers headers [] builtins, ∃ verdict, a.2 = .ok verdict := by
    intro a ha
    rw [answers_builtins] at ha
    obtain ⟨check, hcheck, rfl⟩ := List.mem_map.mp ha
    exact (exists_verdict_iff hcheck headers []).mpr fun _ => hshort
  obtain ⟨houtcomes, hfailures⟩ := Analysis.checks_of_answers hall
  simp only [analyze, Analysis.run_eq]
  refine ⟨?_, hfailures⟩
  rw [houtcomes, answers_builtins, List.map_map]
  exact List.map_id builtins

theorem analyze_builtins_of_overlongAge {headers : Headers} {count : Nat}
    (hage : OverlongAge (transportSecurityOf headers) count) (method url : Option Text)
    (registry : Option Registry) :
    (analyze headers builtins method url registry).outcomes.map (·.check) =
        [CacheControl.check, ContentType.check, Cookie.check, ContentTypeOptions.check] ∧
      (analyze headers builtins method url registry).failures =
        [(TransportSecurity.check, .tooManyDigits count)] := by
  have hfails : (TransportSecurity.check.judge headers []).2 = .error (.tooManyDigits count) :=
    (TransportSecurity.verdict_error_iff _ _).mpr ⟨count, hage, rfl⟩
  simp only [analyze, Analysis.run_eq, answers_builtins]
  simp only [builtins, List.map_cons, List.map_nil, hfails]
  exact ⟨rfl, rfl⟩

/-- A built-in check gives a verdict whatever the headers and the notes are, except that the check
of the transport security fails on an age of too many digits.  Without such an age the report has
the verdicts of all five in the order of the catalogue and no failure; with one, that check is
missing. -/
theorem builtins_judge_unless_overlongAge (headers : Headers) :
    (∀ check ∈ builtins, ∀ context,
      (∃ verdict, (check.judge headers context).2 = .ok verdict) ↔
        (check = TransportSecurity.check →
          ∀ count, ¬ OverlongAge (transportSecurityOf headers) count)) ∧
    ∀ method url registry,
      ((∀ count, ¬ OverlongAge (transportSecurityOf headers) count) →
        (analyze headers builtins method url registry).outcomes.map (·.check) = builtins ∧
          (analyze headers builtins method url registry).failures = []) ∧
      ∀ count, OverlongAge (transportSecurityOf headers) count →
        (analyze headers builtins method url registry).outcomes.map (·.check) =
            [CacheControl.check, ContentType.check, Cookie.check, ContentTypeOptions.check] ∧
          (analyze headers builtins method url registry).failures =
            [(TransportSecurity.check, .tooManyDigits count)] := by
  refine ⟨fun check hcheck context => exists_verdict_iff hcheck headers context, ?_⟩
  intro method url registry
  exact ⟨fun hshort => analyze_builtins hshort method url registry,
    fun count hage => analyze_builtins_of_overlongAge hage method url registry⟩

/-! ## Ages of as many digits as one likes -/

namespace Flood

def age (count : Nat) : Text := "max-age=".toList ++ List.replicate count '1'

def headers (count : Nat) : Headers :=
  ⟨["Strict-Transport-Security".toList ++ ':' :: ' ' :: age count], none⟩

theorem age_succ (count : Nat) : age (count + 1) = age count ++ ['1'] := by
  unfold age
  rw [List.append_assoc]
  congr 1
  exact List.replicate_succ'

theorem strip_age (count : Nat) : Text.strip (' ' :: age (count + 1)) = age (count + 1) := by
  have hblank : (' ' :: age (count + 1)).dropWhile Text.isBlank = age (count + 1) := rfl
  rw [Text.strip, Text.trimWhile, hblank, age_succ]
  exact List.rdropWhile_concat_neg Text.isBlank (age count) '1' (by decide)

theorem transportSecurityOf_headers (count : Nat) :
    transportSecurityOf (headers (count + 1)) = some (age (count + 1)) := by
  have hcut : Text.cut ':' ("Strict-Transport-Security".toList ++ ':' :: ' ' :: age (count + 1)) =
      ("Strict-Transport-Security".toList, some (' ' :: age (count + 1))) :=
    Text.cut_append (by decide) _
  have hstrip : Text.strip "Strict-Transport-Security".toList =
      "Strict-Transport-Security".toList := by decide
  have hline : Headers.parseLine
      ("Strict-Transport-Security".toList ++ ':' :: ' ' :: age (count + 1)) =
      ("Strict-Transport-Security".toList, age (count + 1)) := by
    rw [Headers.parseLine, hcut]
    simp only [Option.getD_some, strip_age, hstrip]
  unfold transportSecurityOf headers Headers.get? Headers.getAll Headers.items
  simp only [List.map_singleton, hline, hstrip]
  simp

theorem leftmostAge_age (count : Nat) :
    TransportSecurity.LeftmostAge (age (count + 1)) (List.replicate (count + 1) '1') := by
  have hname : Text.beginsWithLetters TransportSecurity.ageName (age (count + 1)) = true := rfl
  have hdigits : (List.replicate (count + 1) '1').all Text.isDecimalDigit = true := by
    rw [List.all_replicate]
    rfl
  refine ⟨0, ⟨(Highlight.beginsWithLetters_iff _ _).mp hname, [], [], [], [], ?_, rfl, rfl,
    .inl rfl, by simp, hdigits, by simp⟩, by omega⟩
  rw [List.append_nil]
  rfl

theorem overlongAge_iff (count digits : Nat) :
    OverlongAge (transportSecurityOf (headers (count + 1))) digits ↔
      digits = count + 1 ∧ digitLimit < digits := by
  have hage := leftmostAge_age count
  rw [transportSecurityOf_headers]
  constructor
  · rintro ⟨given, found, hgiven, hfound, rfl, hlimit⟩
    obtain rfl := Option.some.inj hgiven
    rw [← TransportSecurity.findAge?_eq_some_iff] at hage hfound
    obtain rfl := Option.some.inj (hage.symm.trans hfound)
    exact ⟨List.length_replicate, hlimit⟩
  · rintro ⟨rfl, hlimit⟩
    exact ⟨_, _, rfl, hage, List.length_replicate, hlimit⟩

theorem longest_age_is_judged :
    TransportSecurity.check ∈ builtins ∧
      (∀ count, ¬ OverlongAge (transportSecurityOf (headers 4300)) count) ∧
      (∃ verdict, (TransportSecurity.check.judge (headers 4300) []).2 = .ok verdict) ∧
      (analyze (headers 4300) builtins none none none).failures = [] := by
  have hmem : TransportSecurity.check ∈ builtins := by simp [builtins]
  have hshort : ∀ count, ¬ OverlongAge (transportSecurityOf (headers 4300)) count := by
    intro count hage
    obtain ⟨rfl, hlimit⟩ := (overlongAge_iff 4299 count).mp hage
    exact absurd hlimit (by decide)
  obtain ⟨hjudges, hreport⟩ := builtins_judge_unless_overlongAge (headers 4300)
  exact ⟨hmem, hshort, (hjudges _ hmem []).mpr fun _ => hshort,
    ((hreport none none none).1 hshort).2⟩

/-- One digit more, and the check is lost. -/
theorem longer_age_is_not_judged :
    TransportSecurity.check ∈ builtins ∧
      (¬ ∃ verdict, (TransportSecurity.check.judge (headers 4301) []).2 = .ok verdict) ∧
      (analyze (headers 4301) builtins none none none).outcomes.map (·.check) =
        [CacheControl.check, ContentType.check, Cookie.check, ContentTypeOptions.check] ∧
      (analyze (headers 4301) builtins none none none).failures =
        [(TransportSecurity.check, .tooManyDigits 4301)] := by
  have hmem : TransportSecurity.check ∈ builtins := by simp [builtins]
  have hage : OverlongAge (transportSecurityOf (headers 4301)) 4301 :=
    (overlongAge_iff 4300 4301).mpr ⟨rfl, by decide⟩
  refine ⟨hmem, ?_, analyze_builtins_of_overlongAge hage none none none⟩
  rw [exists_verdict_iff hmem]
  exact fun hshort => hshort rfl 4301 hage

end Flood

end Check

end HeaderAudit
