import HeaderAudit.Check.TransportSecurity
import HeaderAudit.Proofs.Colouring

/-!
# The leftmost age

Which digits the search for an age finds, said without the search: they belong to an age that is
written at some offset, and no age is written further to the left.
-/

namespace HeaderAudit

namespace Text

theorem not_isBlank_of_isDecimalDigit {c : Char} (hc : isDecimalDigit c = true) :
    isBlank c = false := by
  have hascii : ∀ code < 58, 48 ≤ code → isBlank (Char.ofNat code) = false := by decide
  have hothers : ∀ first ∈ digitZeros, ∀ d < 10, isBlank (Char.ofNat (first + d)) = false := by
    decide +kernel
  rw [← Char.ofNat_toNat c]
  unfold isDecimalDigit decimalValue? at hc
  split at hc
  · next hrange =>
    have hbounds : 48 ≤ c.toNat ∧ c.toNat ≤ 57 := by
      simpa [Char.le_def, UInt32.le_iff_toNat_le] using hrange
    exact hascii c.toNat (by omega) hbounds.1
  · obtain ⟨first, hfirst⟩ := Option.isSome_iff_exists.mp (Option.isSome_map ▸ hc)
    have hmem := List.mem_of_find?_eq_some hfirst
    have hrange := List.find?_some hfirst
    simp only [Bool.and_eq_true, decide_eq_true_eq] at hrange
    have hsum : first + (c.toNat - first) = c.toNat := by omega
    rw [← hsum]
    exact hothers first hmem (c.toNat - first) (by omega)

theorem dropWhile_blank_append {before : Text} (hbefore : blank before = true) (rest : Text) :
    (before ++ rest).dropWhile isBlank = rest.dropWhile isBlank :=
  List.dropWhile_append_of_pos (List.all_eq_true.mp hbefore)

end Text

namespace TransportSecurity

open Highlight (OccursAt)

def ageName : Text := "max-age"

/-- An age is written at the beginning of the text: its name in any letter case, an equals sign
with white space around it, perhaps a quotation mark, and these digits, behind which there is no
other. -/
def AgeAt (t digits : Text) : Prop :=
  OccursAt ageName t 0 ∧ ∃ before after quote rest : Text,
    t.drop ageName.length = before ++ '=' :: (after ++ (quote ++ (digits ++ rest))) ∧
      Text.blank before = true ∧ Text.blank after = true ∧ (quote = [] ∨ quote = ['"']) ∧
      digits ≠ [] ∧ digits.all Text.isDecimalDigit = true ∧
      ∀ c, rest.head? = some c → Text.isDecimalDigit c = false

def LeftmostAge (t digits : Text) : Prop :=
  ∃ start, AgeAt (t.drop start) digits ∧
    ∀ earlier < start, ∀ others, ¬ AgeAt (t.drop earlier) others

/-! ## An age at the beginning of a text -/

def skipQuote : Text → Text
  | '"' :: rest => rest
  | rest => rest

def leadingDigits? (t : Text) : Option Text :=
  match t.takeWhile Text.isDecimalDigit with
  | [] => none
  | digits => some digits

theorem ageDigits?_eq (t : Text) :
    ageDigits? t =
      if Text.beginsWithLetters ageName t then
        match (t.drop ageName.length).dropWhile Text.isBlank with
        | '=' :: value => leadingDigits? (skipQuote (value.dropWhile Text.isBlank))
        | _ => none
      else none := rfl

theorem exists_quote (t : Text) :
    ∃ quote, (quote = [] ∨ quote = ['"']) ∧ t = quote ++ skipQuote t := by
  unfold skipQuote
  split
  · exact ⟨['"'], .inr rfl, rfl⟩
  · exact ⟨[], .inl rfl, rfl⟩

theorem skipQuote_append {quote t : Text} (hquote : quote = [] ∨ quote = ['"'])
    (ht : t.head? ≠ some '"') : skipQuote (quote ++ t) = t := by
  rcases hquote with rfl | rfl
  · unfold skipQuote
    split
    · next hmark =>
      rw [List.nil_append] at hmark
      simp [hmark] at ht
    · rfl
  · rfl

theorem leadingDigits?_eq_some_iff (t digits : Text) :
    leadingDigits? t = some digits ↔
      digits ≠ [] ∧ digits.all Text.isDecimalDigit = true ∧
        ∃ rest, t = digits ++ rest ∧ ∀ c, rest.head? = some c → Text.isDecimalDigit c = false := by
  constructor
  · intro h
    unfold leadingDigits? at h
    split at h
    · cases h
    · next hne =>
      obtain rfl := Option.some.inj h
      refine ⟨hne, List.all_takeWhile, t.dropWhile Text.isDecimalDigit,
        List.takeWhile_append_dropWhile.symm, ?_⟩
      intro c hc
      have hnot := List.head?_dropWhile_not Text.isDecimalDigit t
      rw [hc] at hnot
      exact hnot
  · rintro ⟨hne, hdigits, rest, rfl, hrest⟩
    have htake : (digits ++ rest).takeWhile Text.isDecimalDigit = digits := by
      rw [List.takeWhile_append_of_pos (List.all_eq_true.mp hdigits)]
      cases rest with
      | nil => simp
      | cons c rest => simp [hrest c rfl]
    rw [leadingDigits?, htake]
    cases digits with
    | nil => exact absurd rfl hne
    | cons c digits => rfl

theorem ageAt_of_ageDigits? {t digits : Text} (h : ageDigits? t = some digits) :
    AgeAt t digits := by
  rw [ageDigits?_eq] at h
  split at h
  · next hname =>
    split at h
    · next value hequals =>
      obtain ⟨quote, hquote, hnumber⟩ := exists_quote (value.dropWhile Text.isBlank)
      obtain ⟨hne, hdigits, rest, hvalue, hrest⟩ := (leadingDigits?_eq_some_iff _ _).mp h
      refine ⟨(Highlight.beginsWithLetters_iff ageName t).mp hname,
        (t.drop ageName.length).takeWhile Text.isBlank, value.takeWhile Text.isBlank, quote, rest,
        ?_, List.all_takeWhile, List.all_takeWhile, hquote, hne, hdigits, hrest⟩
      rw [← hvalue, ← hnumber, List.takeWhile_append_dropWhile, ← hequals]
      exact List.takeWhile_append_dropWhile.symm
    · cases h
  · cases h

theorem ageDigits?_of_ageAt {t digits : Text} (h : AgeAt t digits) :
    ageDigits? t = some digits := by
  obtain ⟨hname, before, after, quote, rest, ht, hbefore, hafter, hquote, hne, hdigits, hrest⟩ := h
  have hbegins := (Highlight.beginsWithLetters_iff ageName t).mpr hname
  have hequals : (t.drop ageName.length).dropWhile Text.isBlank =
      '=' :: (after ++ (quote ++ (digits ++ rest))) := by
    rw [ht, Text.dropWhile_blank_append hbefore, List.dropWhile_cons_of_neg (by decide)]
  obtain ⟨digit, more, rfl⟩ := List.exists_cons_of_ne_nil hne
  have hdigit : Text.isDecimalDigit digit = true := List.all_eq_true.mp hdigits digit (by simp)
  have hunquoted : (digit :: more ++ rest).head? ≠ some '"' := by
    intro hmark
    obtain rfl : digit = '"' := by simpa using hmark
    exact absurd hdigit (by decide)
  have hvalue : (after ++ (quote ++ (digit :: more ++ rest))).dropWhile Text.isBlank =
      quote ++ (digit :: more ++ rest) := by
    rw [Text.dropWhile_blank_append hafter]
    rcases hquote with rfl | rfl
    · simp [Text.not_isBlank_of_isDecimalDigit hdigit]
    · rw [List.singleton_append, List.dropWhile_cons_of_neg (by decide)]
  rw [ageDigits?_eq, if_pos hbegins, hequals]
  simp only [hvalue, skipQuote_append hquote hunquoted]
  exact (leadingDigits?_eq_some_iff _ _).mpr ⟨hne, hdigits, rest, rfl, hrest⟩

theorem ageDigits?_eq_some_iff (t digits : Text) : ageDigits? t = some digits ↔ AgeAt t digits :=
  ⟨ageAt_of_ageDigits?, ageDigits?_of_ageAt⟩

/-! ## The search -/

theorem leftmostAge_cons (c : Char) (rest digits : Text) :
    LeftmostAge (c :: rest) digits ↔
      AgeAt (c :: rest) digits ∨
        (∀ others, ¬ AgeAt (c :: rest) others) ∧ LeftmostAge rest digits := by
  constructor
  · rintro ⟨start, hage, hearlier⟩
    cases start with
    | zero => exact .inl hage
    | succ start =>
        refine .inr ⟨hearlier 0 (by omega), start, hage, ?_⟩
        intro earlier hlt
        exact hearlier (earlier + 1) (by omega)
  · rintro (hage | ⟨hnone, start, hage, hearlier⟩)
    · exact ⟨0, hage, by omega⟩
    · refine ⟨start + 1, hage, ?_⟩
      intro earlier hlt
      cases earlier with
      | zero => exact hnone
      | succ earlier => exact hearlier earlier (by omega)

theorem findAge?_eq_some_iff (t digits : Text) :
    findAge? t = some digits ↔ LeftmostAge t digits := by
  induction t with
  | nil =>
      have hnone : ∀ start, ¬ AgeAt (([] : Text).drop start) digits := by
        intro start hage
        rw [List.drop_nil, ← ageDigits?_eq_some_iff] at hage
        cases hage
      constructor
      · intro h
        cases h
      · rintro ⟨start, hage, -⟩
        exact absurd hage (hnone start)
  | cons c rest ih =>
      rw [findAge?, leftmostAge_cons, ← ih]
      cases hage : ageDigits? (c :: rest) with
      | none =>
          have hnone : ∀ others, ¬ AgeAt (c :: rest) others := by
            intro others
            simp [← ageDigits?_eq_some_iff, hage]
          simp [hnone]
      | some found =>
          have hfound : AgeAt (c :: rest) found := (ageDigits?_eq_some_iff _ _).mp hage
          have hone : AgeAt (c :: rest) digits ↔ found = digits := by
            rw [← ageDigits?_eq_some_iff, hage, Option.some.injEq]
          have hsome : ¬ ∀ others, ¬ AgeAt (c :: rest) others := fun hnone => hnone found hfound
          simp [hone, hsome]

/-- The equals sign of an age is no white space. -/
theorem blank_eq_false_of_leftmostAge {t digits : Text} (h : LeftmostAge t digits) :
    Text.blank t = false := by
  obtain ⟨start, ⟨-, before, after, quote, rest, ht, -⟩, -⟩ := h
  have hmem : '=' ∈ (t.drop start).drop ageName.length := by
    rw [ht]
    simp
  rw [Text.blank, List.all_eq_false]
  exact ⟨'=', List.mem_of_mem_drop (List.mem_of_mem_drop hmem), by decide⟩

/-- The leftmost age in the value has so many digits, which are too many to be converted. -/
def OverlongAge (value : Option Text) (count : Nat) : Prop :=
  ∃ given digits, value = some given ∧ LeftmostAge given digits ∧ digits.length = count ∧
    Check.digitLimit < count

theorem verdict_error_iff (value : Option Text) (e : CheckError) :
    verdict value = .error e ↔ ∃ count, OverlongAge value count ∧ e = .tooManyDigits count := by
  constructor
  · intro h
    unfold verdict at h
    dsimp only at h
    split at h
    · cases h
    · next hblank =>
      split at h
      · cases h
      · next digits hage =>
        split at h
        · next hlimit =>
          obtain rfl := Except.error.inj h
          obtain ⟨given, rfl⟩ : ∃ given, value = some given := by
            cases value with
            | none => exact absurd rfl hblank
            | some given => exact ⟨given, rfl⟩
          exact ⟨digits.length,
            ⟨given, digits, rfl, (findAge?_eq_some_iff given digits).mp hage, rfl, hlimit⟩, rfl⟩
        · split at h <;> cases h
  · rintro ⟨count, ⟨given, digits, rfl, hage, rfl, hlimit⟩, rfl⟩
    have hfound := (findAge?_eq_some_iff given digits).mpr hage
    simp [verdict, blank_eq_false_of_leftmostAge hage, hfound, hlimit]

theorem verdict_ok_iff (value : Option Text) :
    (∃ v, verdict value = .ok v) ↔ ∀ count, ¬ OverlongAge value count := by
  cases hverdict : verdict value with
  | ok v =>
      have hnone : ∀ count, ¬ OverlongAge value count := by
        intro count hage
        have herror := (verdict_error_iff value _).mpr ⟨count, hage, rfl⟩
        rw [hverdict] at herror
        cases herror
      simp [hnone]
  | error e =>
      obtain ⟨count, hage, -⟩ := (verdict_error_iff value e).mp hverdict
      simp only [reduceCtorEq, exists_false, false_iff]
      exact fun hnone => hnone count hage

end TransportSecurity
end HeaderAudit
