import HeaderAudit.Proofs.ConsultedHeaders
import Mathlib.Data.Nat.Find

/-!
# The age that decides

A response asks for a secure transport by a maximal age.  Of the first value of the header only the
leftmost age counts: when it is written with digits of value zero alone, or when there is no age,
the verdict is a warning, and otherwise the value is fine whatever else stands in it.
-/

namespace HeaderAudit

namespace TransportSecurity

/-! ## The leftmost age -/

/-- No age is written anywhere. -/
def Ageless (t : Text) : Prop := ∀ start digits, ¬ AgeAt (t.drop start) digits

/-- Where an age is written at all, one is the leftmost. -/
theorem ageless_or_exists_leftmostAge (t : Text) :
    Ageless t ∨ ∃ digits, LeftmostAge t digits := by
  classical
  by_cases hage : ∃ start digits, AgeAt (t.drop start) digits
  · obtain ⟨digits, hdigits⟩ := Nat.find_spec hage
    refine .inr ⟨digits, Nat.find hage, hdigits, ?_⟩
    intro earlier hearlier others hothers
    exact Nat.find_min hage hearlier ⟨others, hothers⟩
  · refine .inl ?_
    intro start digits hdigits
    exact hage ⟨start, digits, hdigits⟩

theorem LeftmostAge.not_ageless {t digits : Text} (hage : LeftmostAge t digits) : ¬ Ageless t := by
  obtain ⟨start, hat, -⟩ := hage
  exact fun hnone => hnone start digits hat

theorem LeftmostAge.unique {t digits others : Text} (hage : LeftmostAge t digits)
    (hothers : LeftmostAge t others) : digits = others := by
  rw [← findAge?_eq_some_iff] at hage hothers
  exact Option.some.inj (hage.symm.trans hothers)

theorem findAge?_of_ageless {t : Text} (hnone : Ageless t) : findAge? t = none := by
  rw [Option.eq_none_iff_forall_not_mem]
  intro digits hdigits
  exact ((findAge?_eq_some_iff t digits).mp hdigits).not_ageless hnone

theorem LeftmostAge.digits_all {t digits : Text} (hage : LeftmostAge t digits) :
    digits.all Text.isDecimalDigit = true := by
  obtain ⟨start, ⟨-, before, after, quote, rest, -, -, -, -, -, hdigits, -⟩, -⟩ := hage
  exact hdigits

theorem LeftmostAge.digits_infix {t digits : Text} (hage : LeftmostAge t digits) :
    digits <:+: t := by
  obtain ⟨start, ⟨-, before, after, quote, rest, ht, -⟩, -⟩ := hage
  have hbehind : digits <:+: (t.drop start).drop ageName.length := by
    rw [ht]
    exact ⟨before ++ '=' :: (after ++ quote), rest, by simp⟩
  exact hbehind.trans ((List.drop_suffix _ _).isInfix.trans (List.drop_suffix _ _).isInfix)

/-! ## The number that the digits write -/

theorem foldl_digits_eq_zero_iff (value : Char → Nat) (digits : Text) (n : Nat) :
    digits.foldl (fun n c => n * 10 + value c) n = 0 ↔ n = 0 ∧ ∀ c ∈ digits, value c = 0 := by
  induction digits generalizing n with
  | nil => simp
  | cons c rest ih =>
      rw [List.foldl_cons, ih, List.forall_mem_cons]
      have hfirst : n * 10 + value c = 0 ↔ n = 0 ∧ value c = 0 := by omega
      rw [hfirst, and_assoc]

theorem ageOf_eq_zero_iff {digits : Text} (hdigits : digits.all Text.isDecimalDigit = true) :
    ageOf digits = 0 ↔ ∀ c ∈ digits, Text.decimalValue? c = some 0 := by
  rw [ageOf, foldl_digits_eq_zero_iff, and_iff_right rfl]
  refine forall₂_congr fun c hc => ?_
  obtain ⟨d, hd⟩ := Option.isSome_iff_exists.mp (List.all_eq_true.mp hdigits c hc)
  simp [hd]

/-! ## Verdicts -/

/-- No run of decimal digits is longer than what is converted to a number. -/
def ShortRuns (t : Text) : Prop :=
  ∀ run, run <:+: t → run.all Text.isDecimalDigit = true → run.length ≤ Check.digitLimit

theorem shortRuns_of_length_le {t : Text} (ht : t.length ≤ Check.digitLimit) : ShortRuns t :=
  fun _ hrun _ => hrun.length_le.trans ht

/-- There is no age, or the leftmost one is written with zeros alone. -/
def Disabled (t : Text) : Prop :=
  Ageless t ∨ ∃ digits, LeftmostAge t digits ∧ ∀ c ∈ digits, Text.decimalValue? c = some 0

/-- The header is not there, or its value is blank. -/
def Missing (value : Option Text) : Prop := ∀ given, value = some given → Text.blank given = true

theorem verdict_of_missing {value : Option Text} (hmissing : Missing value) :
    verdict value = .ok (.fail "Missing" (value.getD [])) := by
  have hblank : Text.blank (value.getD []) = true := by
    cases value with
    | none => rfl
    | some given => exact hmissing given rfl
  rw [verdict, if_pos hblank]

theorem verdict_of_ageless {given : Text} (hblank : Text.blank given = false)
    (hnone : Ageless given) : verdict (some given) = .ok (.warn "No max-age" given) := by
  simp [verdict, hblank, findAge?_of_ageless hnone]

theorem verdict_of_leftmostAge {given digits : Text} (hblank : Text.blank given = false)
    (hshort : ShortRuns given) (hage : LeftmostAge given digits) :
    verdict (some given) =
      if ageOf digits = 0 then .ok (.warn "max-age=0 disables HSTS" given)
      else .ok (.ok given given) := by
  have hfound := (findAge?_eq_some_iff given digits).mpr hage
  have hlength := hshort digits hage.digits_infix hage.digits_all
  have hlimit : ¬ digits.length > Check.digitLimit := Nat.not_lt_of_le hlength
  simp only [verdict, Option.getD_some, hblank, Bool.false_eq_true, if_false, hfound, hlimit]

theorem disabled_iff {given digits : Text} (hage : LeftmostAge given digits) :
    Disabled given ↔ ageOf digits = 0 := by
  rw [ageOf_eq_zero_iff hage.digits_all]
  constructor
  · rintro (hnone | ⟨others, hothers, hzero⟩)
    · exact absurd hnone hage.not_ageless
    · rwa [hage.unique hothers]
  · exact fun hzero => .inr ⟨digits, hage, hzero⟩

/-- With a value that is not blank the verdict is a warning or fine, as the leftmost age has it. -/
theorem verdict_of_some {given : Text} (hblank : Text.blank given = false)
    (hshort : ShortRuns given) :
    ∃ v, verdict (some given) = .ok v ∧ (v.status = .warn ↔ Disabled given) ∧
      (v = .ok given given ↔ ¬ Disabled given) := by
  rcases ageless_or_exists_leftmostAge given with hnone | ⟨digits, hage⟩
  · have hdisabled : Disabled given := .inl hnone
    exact ⟨_, verdict_of_ageless hblank hnone, by simp [Verdict.warn, hdisabled],
      by simp [Verdict.warn, Verdict.ok, hdisabled]⟩
  · rw [verdict_of_leftmostAge hblank hshort hage]
    have hdisabled := disabled_iff hage
    by_cases hzero : ageOf digits = 0
    · rw [if_pos hzero]
      exact ⟨_, rfl, by simp [Verdict.warn, hdisabled, hzero],
        by simp [Verdict.warn, Verdict.ok, hdisabled, hzero]⟩
    · rw [if_neg hzero]
      exact ⟨_, rfl, by simp [Verdict.ok, hdisabled, hzero], by simp [hdisabled, hzero]⟩

end TransportSecurity

namespace Check

open TransportSecurity (Missing Disabled ShortRuns)

/-- The check of the transport security gives a verdict unless digits run on for too long.  It fails
a response exactly if the header is missing or its first value is blank.  Otherwise it warns exactly
if no age can be read in that value or the leftmost one is zero, and else shows the value as it
is. -/
theorem leftmost_age_decides {headers : Headers}
    (hshort : ∀ given, transportSecurityOf headers = some given → ShortRuns given) :
    ∃ v, (∀ context, TransportSecurity.check.judge headers context = (context, .ok v)) ∧
      (v.status = .fail ↔ Missing (transportSecurityOf headers)) ∧
      ∀ given, transportSecurityOf headers = some given → Text.blank given = false →
        (v.status = .warn ↔ Disabled given) ∧ (v = .ok given given ↔ ¬ Disabled given) := by
  by_cases hmissing : Missing (transportSecurityOf headers)
  · refine ⟨.fail "Missing" ((transportSecurityOf headers).getD []), ?_, ?_, ?_⟩
    · intro context
      rw [judge_age, TransportSecurity.verdict_of_missing hmissing]
    · exact iff_of_true rfl hmissing
    · intro given hgiven hblank
      rw [hmissing given hgiven] at hblank
      cases hblank
  · obtain ⟨given, hgiven, hblank⟩ : ∃ given, transportSecurityOf headers = some given ∧
        Text.blank given = false := by
      simpa [Missing] using hmissing
    obtain ⟨v, hverdict, hwarn, hok⟩ :=
      TransportSecurity.verdict_of_some hblank (hshort given hgiven)
    refine ⟨v, ?_, ?_, ?_⟩
    · intro context
      rw [judge_age, hgiven, hverdict]
    · refine iff_of_false ?_ hmissing
      intro hfail
      by_cases hdisabled : Disabled given
      · rw [hwarn.mpr hdisabled] at hfail
        cases hfail
      · rw [hok.mpr hdisabled] at hfail
        cases hfail
    · intro other hother _
      rw [hgiven, Option.some.injEq] at hother
      subst hother
      exact ⟨hwarn, hok⟩

/-! ## Several ages in one value -/

namespace Ages

/-- Not a number, then zeros of two scripts, then a year. -/
def response : Headers :=
  ⟨["Strict-Transport-Security: max-age=x; MAX-Age = \"٠0\"; max-age=31536000".toList], none⟩

def value : Text := "max-age=x; MAX-Age = \"٠0\"; max-age=31536000".toList

theorem transportSecurityOf_response : transportSecurityOf response = some value := by decide

theorem zeros_outweigh_year :
    (∀ given, transportSecurityOf response = some given → ShortRuns given) ∧
      Text.blank value = false ∧
      ∃ v, (∀ context, TransportSecurity.check.judge response context = (context, .ok v)) ∧
        v.status = .warn := by
  have hshort : ∀ given, transportSecurityOf response = some given → ShortRuns given := by
    intro given hgiven
    rw [transportSecurityOf_response, Option.some.injEq] at hgiven
    subst hgiven
    exact TransportSecurity.shortRuns_of_length_le (by decide)
  have hage : TransportSecurity.LeftmostAge value "٠0".toList :=
    (TransportSecurity.findAge?_eq_some_iff _ _).mp (by decide)
  have hdisabled : Disabled value := .inr ⟨_, hage, by simp; decide⟩
  have hblank : Text.blank value = false := by decide
  obtain ⟨v, hjudge, -, hstatus⟩ := leftmost_age_decides hshort
  exact ⟨hshort, hblank, v, hjudge,
    (hstatus value transportSecurityOf_response hblank).1.mpr hdisabled⟩

end Ages

end Check

end HeaderAudit
