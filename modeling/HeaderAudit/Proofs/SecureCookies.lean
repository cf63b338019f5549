import HeaderAudit.Proofs.ConsultedHeaders

/-!
# Secure cookies

All cookies of a response have to be secure.  The verdict fails exactly if one of them is not, and
shows the first such one; it is fine otherwise and shows them all.  The order of the cookies does
not matter, and more cookies never make it better.
-/

namespace HeaderAudit

namespace Json

theorem field?_object_cons (name : Text) (field : Text × Json) (rest : List (Text × Json)) :
    field? name (.object (field :: rest)) =
      if field.1 = name then some field.2 else field? name (.object rest) := by
  by_cases hname : field.1 = name <;> simp [field?, hname]

theorem field?_setField_self (name : Text) (value : Json) (fields : List (Text × Json)) :
    field? name (.object (setField name value fields)) = some value := by
  induction fields with
  | nil => simp [setField, field?]
  | cons field rest ih =>
      rw [setField]
      split
      · rw [field?_object_cons, if_pos rfl]
      · next hname => rw [field?_object_cons, if_neg hname, ih]

theorem field?_setField_of_ne {name other : Text} (hother : other ≠ name) (value : Json)
    (fields : List (Text × Json)) :
    field? other (.object (setField name value fields)) = field? other (.object fields) := by
  induction fields with
  | nil => simp [setField, field?, Ne.symm hother]
  | cons field rest ih =>
      rw [setField]
      split
      · next hname =>
        rw [field?_object_cons, field?_object_cons, hname, if_neg (Ne.symm hother),
          if_neg (Ne.symm hother)]
      · rw [field?_object_cons, field?_object_cons, ih]

end Json

namespace Cookie

/-- In small letters, the attribute does not stand anywhere behind a blank. -/
def Insecure (cookie : Text) : Prop := ¬ " secure".toList <:+: Text.lower cookie

theorem hasSecureFlag_eq_false_iff (cookie : Text) :
    hasSecureFlag cookie = false ↔ Insecure cookie := by
  rw [Insecure, ← Text.includes_iff_infix, Bool.not_eq_true]
  rfl

instance (cookie : Text) : Decidable (Insecure cookie) :=
  decidable_of_iff _ (hasSecureFlag_eq_false_iff cookie)

/-- The cookie is not secure, and those in front of it are. -/
def FirstInsecure (cookies : List Text) (cookie : Text) : Prop :=
  Insecure cookie ∧
    ∃ before after, cookies = before ++ cookie :: after ∧ ∀ other ∈ before, ¬ Insecure other

theorem find?_eq_some_iff (cookies : List Text) (cookie : Text) :
    cookies.find? (!hasSecureFlag ·) = some cookie ↔ FirstInsecure cookies cookie := by
  simp only [List.find?_eq_some_iff_append, FirstInsecure, ← hasSecureFlag_eq_false_iff,
    Bool.not_eq_true', Bool.not_not, Bool.not_eq_false]

theorem find?_eq_none_iff (cookies : List Text) :
    cookies.find? (!hasSecureFlag ·) = none ↔ ∀ cookie ∈ cookies, ¬ Insecure cookie := by
  simp [← hasSecureFlag_eq_false_iff]

/-! ## The verdict on the cookies -/

/-- The text as far as it is shown. -/
def shortened (value : Text) : Text :=
  if value.length ≤ 100 then value else value.take 100 ++ "..."

theorem truncate_displayLimit (value : Text) : truncate displayLimit value = shortened value := by
  have hlimit : (value.length : Int) ≤ (displayLimit : Nat) ↔ value.length ≤ 100 := by
    rw [displayLimit]
    omega
  rw [truncate, shortened]
  by_cases hlength : value.length ≤ 100
  · rw [if_pos hlength, if_pos (hlimit.mpr hlength)]
  · rw [if_neg hlength, if_neg (mt hlimit.mp hlength)]
    rfl

/-- What a verdict says of the cookies. -/
structure Judges (cookies : List Text) (v : Verdict) : Prop where
  fail_iff : v.status = .fail ↔ ∃ cookie ∈ cookies, Insecure cookie
  ok_iff : v.status = .ok ↔ ∀ cookie ∈ cookies, ¬ Insecure cookie
  shows_first : ∀ cookie, FirstInsecure cookies cookie → v.display = shortened cookie
  shows_none : cookies = [] → v.display = "No cookies".toList
  shows_all : cookies ≠ [] → (∀ cookie ∈ cookies, ¬ Insecure cookie) →
    v.display = shortened (Text.join " | " cookies)
  raw_eq : v.raw = Text.join ['\n'] cookies

theorem judges_of_insecure {cookies : List Text} {cookie : Text}
    (hfirst : FirstInsecure cookies cookie) :
    Judges cookies (.fail (shortened cookie) (Text.join ['\n'] cookies)) := by
  have hinsecure : ∃ cookie ∈ cookies, Insecure cookie := by
    obtain ⟨hcookie, before, after, rfl, -⟩ := hfirst
    exact ⟨cookie, by simp, hcookie⟩
  have hnot : ¬ ∀ cookie ∈ cookies, ¬ Insecure cookie := by
    obtain ⟨cookie, hmem, hcookie⟩ := hinsecure
    exact fun hall => hall cookie hmem hcookie
  refine ⟨iff_of_true rfl hinsecure, iff_of_false (by simp [Verdict.fail]) hnot, ?_, ?_, ?_, rfl⟩
  · intro other hother
    rw [← find?_eq_some_iff] at hfirst hother
    rw [Option.some.inj (hother.symm.trans hfirst)]
    rfl
  · rintro rfl
    simp at hinsecure
  · exact fun _ hall => absurd hall hnot

theorem judges_of_secure {cookies : List Text} (hall : ∀ cookie ∈ cookies, ¬ Insecure cookie)
    {display : Text} (hnone : cookies = [] → display = "No cookies".toList)
    (hsome : cookies ≠ [] → display = shortened (Text.join " | " cookies)) :
    Judges cookies (.ok display (Text.join ['\n'] cookies)) := by
  have hnot : ¬ ∃ cookie ∈ cookies, Insecure cookie := by
    rintro ⟨cookie, hmem, hcookie⟩
    exact hall cookie hmem hcookie
  refine ⟨iff_of_false (by simp [Verdict.ok]) hnot, iff_of_true rfl hall, ?_, hnone,
    fun hne _ => hsome hne, rfl⟩
  rintro cookie ⟨hcookie, before, after, rfl, -⟩
  exact absurd hcookie (hall cookie (by simp))

theorem Judges.status_eq {cookies others : List Text} {v w : Verdict} (hv : Judges cookies v)
    (hw : Judges others w) (hsame : ∀ cookie, cookie ∈ cookies ↔ cookie ∈ others) :
    v.status = w.status := by
  by_cases hinsecure : ∃ cookie ∈ cookies, Insecure cookie
  · have hinsecure' : ∃ cookie ∈ others, Insecure cookie := by
      obtain ⟨cookie, hmem, hcookie⟩ := hinsecure
      exact ⟨cookie, (hsame cookie).mp hmem, hcookie⟩
    rw [hv.fail_iff.mpr hinsecure, hw.fail_iff.mpr hinsecure']
  · have hsecure : ∀ cookie ∈ cookies, ¬ Insecure cookie :=
      fun cookie hmem hcookie => hinsecure ⟨cookie, hmem, hcookie⟩
    have hsecure' : ∀ cookie ∈ others, ¬ Insecure cookie :=
      fun cookie hmem => hsecure cookie ((hsame cookie).mpr hmem)
    rw [hv.ok_iff.mpr hsecure, hw.ok_iff.mpr hsecure']

theorem verdict_judges (cookies : List Text) : Judges cookies (verdict cookies) := by
  cases cookies with
  | nil => exact judges_of_secure (by simp) (fun _ => rfl) (by simp)
  | cons cookie rest =>
      cases hfound : (cookie :: rest).find? (!hasSecureFlag ·) with
      | none =>
          simp only [verdict, hfound, truncate_displayLimit]
          exact judges_of_secure ((find?_eq_none_iff _).mp hfound) (by simp) (fun _ => rfl)
      | some insecure =>
          simp only [verdict, hfound, truncate_displayLimit]
          exact judges_of_insecure ((find?_eq_some_iff _ _).mp hfound)

/-! ## The verdict on a response -/

/-- The values of the cookies, in the order of the lines. -/
def cookiesOf (h : Headers) : List Text := Headers.valuesUnder "Set-Cookie" h.lines

def verdictOn (h : Headers) : Verdict := verdict (cookiesOf h)

theorem judge_eq (h : Headers) (context : Context) :
    check.judge h context =
      (Json.setField contextKey (.list ((cookiesOf h).map .text)) context,
        .ok (verdictOn h)) := by
  rw [Check.judge_cookie, Headers.getAll_eq_valuesUnder]
  rfl

theorem status_eq_of_perm {h h' : Headers}
    (hperm : (h.named "Set-Cookie").Perm (h'.named "Set-Cookie")) :
    (verdictOn h).status = (verdictOn h').status := by
  have hcookies : (cookiesOf h).Perm (cookiesOf h') := hperm.map _
  exact (verdict_judges _).status_eq (verdict_judges _) fun cookie => hcookies.mem_iff

theorem fails_iff_of_append {h h' joined : Headers} (hjoined : joined.lines = h.lines ++ h'.lines) :
    (verdictOn joined).status = .fail ↔
      (verdictOn h).status = .fail ∨ (verdictOn h').status = .fail := by
  have hcookies : cookiesOf joined = cookiesOf h ++ cookiesOf h' := by
    rw [cookiesOf, hjoined, Headers.valuesUnder_append]
    rfl
  simp only [verdictOn, (verdict_judges _).fail_iff, hcookies, List.mem_append, or_and_right,
    exists_or]

theorem fails_of_insert {h h' : Headers} {above below : List Text} {line : Text}
    (hlines : h.lines = above ++ below) (hlines' : h'.lines = above ++ line :: below)
    (hfails : (verdictOn h).status = .fail) : (verdictOn h').status = .fail := by
  rw [verdictOn, (verdict_judges _).fail_iff] at hfails ⊢
  obtain ⟨cookie, hmem, hcookie⟩ := hfails
  refine ⟨cookie, ?_, hcookie⟩
  rw [cookiesOf, hlines, Headers.valuesUnder_append, List.mem_append] at hmem
  rw [cookiesOf, hlines', Headers.valuesUnder_append, Headers.valuesUnder_cons, List.mem_append,
    List.mem_append]
  exact hmem.imp_right .inr

/-- The check of the cookies notes all of them in the order of the lines and touches no other note.
Its verdict fails exactly if some cookie is not secure and shows the first such one; otherwise it
is fine.  So its status does not depend on the order of the cookies, another line never mends a
failure, and of two responses put together it fails exactly if it fails for one of them. -/
theorem one_insecure_cookie_fails :
    (∀ (h : Headers) (context : Context), ∃ notes,
      check.judge h context = (notes, .ok (verdictOn h)) ∧
      Json.field? contextKey (.object notes) = some (.list ((cookiesOf h).map .text)) ∧
      (∀ name, name ≠ contextKey →
        Json.field? name (.object notes) = Json.field? name (.object context)) ∧
      Judges (cookiesOf h) (verdictOn h)) ∧
    (∀ h h' : Headers, (h.named "Set-Cookie").Perm (h'.named "Set-Cookie") →
      (verdictOn h).status = (verdictOn h').status) ∧
    (∀ (h h' : Headers) above line below, h.lines = above ++ below →
      h'.lines = above ++ line :: below →
        (verdictOn h).status = .fail → (verdictOn h').status = .fail) ∧
    ∀ h h' joined : Headers, joined.lines = h.lines ++ h'.lines →
      ((verdictOn joined).status = .fail ↔
        (verdictOn h).status = .fail ∨ (verdictOn h').status = .fail) := by
  refine ⟨?_, fun h h' => status_eq_of_perm, ?_, fun h h' joined => fails_iff_of_append⟩
  · intro h context
    refine ⟨_, judge_eq h context, Json.field?_setField_self _ _ _, ?_, verdict_judges _⟩
    intro name hname
    exact Json.field?_setField_of_ne hname _ _
  · intro h h' above line below hlines hlines' hfails
    exact fails_of_insert hlines hlines' hfails

/-! ## A cookie whose attribute comes first -/

namespace Jar

def response : Headers :=
  ⟨["Set-Cookie: a=1; SECURE".toList, "Server: x".toList, "set-cookie : Secure; b=2".toList], none⟩

def reordered : Headers :=
  ⟨["set-cookie : Secure; b=2".toList, "Set-Cookie: a=1; SECURE".toList], none⟩

theorem attribute_in_front_is_missed :
    (response.named "Set-Cookie").Perm (reordered.named "Set-Cookie") ∧
      FirstInsecure (cookiesOf response) "Secure; b=2".toList ∧
      (verdictOn response).display = "Secure; b=2".toList ∧
      (verdictOn reordered).status = .fail := by
  have hperm : (response.named "Set-Cookie").Perm (reordered.named "Set-Cookie") := by decide
  have hfirst : FirstInsecure (cookiesOf response) "Secure; b=2".toList :=
    (find?_eq_some_iff _ _).mp (by decide)
  obtain ⟨hjudge, horder, -⟩ := one_insecure_cookie_fails
  obtain ⟨notes, -, -, -, hjudges⟩ := hjudge response []
  have hfails : (verdictOn response).status = .fail :=
    hjudges.fail_iff.mpr ⟨_, by decide, hfirst.1⟩
  exact ⟨hperm, hfirst, hjudges.shows_first _ hfirst, (horder _ _ hperm).symm.trans hfails⟩

end Jar

end Cookie

end HeaderAudit
