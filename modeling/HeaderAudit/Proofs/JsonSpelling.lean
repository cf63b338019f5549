import HeaderAudit.Json.Reader
import HeaderAudit.Json.Writer
import Mathlib.Algebra.Group.Nat.Defs

/-!
# Texts and numbers read back

A number written in digits is read back from them, in any base up to sixteen.  Every character of a
text is read back from what is written for it, an escape or the character itself, and a number from
its digits when neither a digit nor a point nor an exponent stands behind it.
-/

namespace HeaderAudit

namespace Text

/-! ## Digits -/

/-- The number with one more digit. -/
def addDigit? (base n : Nat) (c : Char) : Option Nat := do
  let d ← digitValue? c
  if d < base then some (n * base + d) else none

theorem readDigits?_eq_foldlM {base : Nat} {digits : Text} (hdigits : digits ≠ []) :
    readDigits? base digits = digits.foldlM (addDigit? base) 0 := by
  cases digits with
  | nil => exact absurd rfl hdigits
  | cons c rest => rfl

theorem addDigit?_digitChar {base d : Nat} (hbase : base ≤ 16) (hd : d < base) (n : Nat) :
    addDigit? base n d.digitChar = some (n * base + d) := by
  have hvalues : ∀ d < 16, digitValue? d.digitChar = some d := by decide
  rw [addDigit?, hvalues d (by omega)]
  exact if_pos hd

theorem foldlM_toDigits {base : Nat} (hone : 1 < base) (hbase : base ≤ 16) (n : Nat) :
    (Nat.toDigits base n).foldlM (addDigit? base) 0 = some n := by
  induction n using Nat.strongRecOn with
  | _ n ih =>
    by_cases hn : n < base
    · rw [Nat.toDigits_of_lt_base hn]
      simp [addDigit?_digitChar hbase hn]
    · have hdiv : n / base < n := Nat.div_lt_self (by omega) hone
      rw [Nat.toDigits_of_base_le hone (by omega), List.foldlM_append, ih _ hdiv]
      simp [addDigit?_digitChar hbase (Nat.mod_lt n (by omega)), Nat.div_add_mod']

theorem readDigits?_toDigits {base : Nat} (hone : 1 < base) (hbase : base ≤ 16) (n : Nat) :
    readDigits? base (Nat.toDigits base n) = some n := by
  rw [readDigits?_eq_foldlM Nat.toDigits_ne_nil, foldlM_toDigits hone hbase]

theorem readDigits?_hex (width n : Nat) : readDigits? 16 (hex width n) = some n := by
  have hzeros : ∀ count, (List.replicate count '0').foldlM (addDigit? 16) 0 = some 0 := by
    intro count
    induction count with
    | zero => rfl
    | succ count ih =>
        rw [List.replicate_succ, List.foldlM_cons]
        exact ih
  rw [hex, readDigits?_eq_foldlM (by simp [Nat.toDigits_ne_nil]), List.foldlM_append, hzeros]
  exact foldlM_toDigits (by decide) (by decide) n

theorem length_hex {width n : Nat} (hwidth : 0 < width) (hn : n < 16 ^ width) :
    (hex width n).length = width := by
  have hlength := (Nat.length_toDigits_le_iff (by decide) hwidth).mpr hn
  rw [hex, List.length_append, List.length_replicate]
  omega

end Text

namespace Json

/-! ## Characters -/

theorem readUnit?_hex {unit : Nat} (hunit : unit < 0x10000) (rest : Text) :
    readUnit? (Text.hex 4 unit ++ rest) = some (unit, rest) := by
  have hlength := Text.length_hex (by decide : 0 < 4) hunit
  have hread := Text.readDigits?_hex 4 unit
  match hdigits : Text.hex 4 unit with
  | [a, b, c, d] =>
      rw [hdigits] at hread
      simp [readUnit?, hread]
  | [] | [_] | [_, _] | [_, _, _] => simp [hdigits] at hlength
  | _ :: _ :: _ :: _ :: _ :: _ => simp [hdigits] at hlength

theorem toNat_not_surrogate (c : Char) : c.toNat < 0xD800 ∨ 0xE000 ≤ c.toNat := by
  have hvalid : c.toNat < 0xD800 ∨ 0xDFFF < c.toNat ∧ c.toNat < 0x110000 := c.valid
  omega

theorem toNat_lt (c : Char) : c.toNat < 0x110000 := by
  have hvalid : c.toNat < 0xD800 ∨ 0xDFFF < c.toNat ∧ c.toNat < 0x110000 := c.valid
  omega

theorem readEscapedUnit?_of_small {c : Char} (hc : c.toNat < 0x10000) (rest : Text) :
    readEscapedUnit? (Text.hex 4 c.toNat ++ rest) = some (c, rest) := by
  have hsurrogate := toNat_not_surrogate c
  rw [readEscapedUnit?, readUnit?_hex hc]
  simp only [Option.bind_eq_bind, Option.bind_some]
  rw [if_neg (by omega), Char.ofNat_toNat]

theorem readEscapedUnit?_pair {high low : Nat} {c : Char} (hhigh : 0xD800 ≤ high ∧ high < 0xDC00)
    (hlow : 0xDC00 ≤ low ∧ low < 0xE000)
    (hc : 0x10000 + (high - 0xD800) * 0x400 + (low - 0xDC00) = c.toNat) (rest : Text) :
    readEscapedUnit? (Text.hex 4 high ++ ('\\' :: 'u' :: Text.hex 4 low ++ rest)) =
      some (c, rest) := by
  rw [readEscapedUnit?, readUnit?_hex (by omega)]
  simp only [Option.bind_eq_bind, Option.bind_some, if_pos hhigh, List.cons_append]
  rw [readUnit?_hex (by omega)]
  simp only [Option.bind_some, if_pos hlow, hc, Char.ofNat_toNat]

theorem readChars?_literal {c : Char} (hquote : c ≠ '"') (hslash : c ≠ '\\')
    (hcontrol : 0x20 ≤ c.toNat) (steps : Nat) (rest : Text) :
    readChars? (steps + 1) (c :: rest) =
      (readChars? steps rest).map fun (t, rest) => (c :: t, rest) := by
  have hplain : ¬ (c = '\\' ∨ c.toNat < 0x20) := by
    rw [not_or]
    exact ⟨hslash, by omega⟩
  rw [readChars?, if_neg hplain]
  · cases readChars? steps rest <;> rfl
  -- The other cases of the reader begin with a quote or a backslash.
  all_goals simp_all

theorem readChars?_unit {t : Text} {c : Char} {rest : Text}
    (hunit : readEscapedUnit? t = some (c, rest)) (steps : Nat) :
    readChars? (steps + 1) ('\\' :: 'u' :: t) =
      (readChars? steps rest).map fun (t, rest) => (c :: t, rest) := by
  rw [readChars?, hunit]
  cases hrest : readChars? steps rest <;> simp [hrest]

theorem readChars?_simple {e c : Char} (he : e ≠ 'u') (hsimple : simpleEscape? e = some c)
    (steps : Nat) (rest : Text) :
    readChars? (steps + 1) ('\\' :: e :: rest) =
      (readChars? steps rest).map fun (t, rest) => (c :: t, rest) := by
  rw [readChars?, hsimple]
  · cases readChars? steps rest <;> simp
  · simpa using he

/-- What may be written for a character: a short escape, the character itself, or one or two escaped
code units. -/
inductive Escapes (c : Char) : Text → Prop where
  | short (e : Char) (he : e ∈ ['"', '\\', 'n', 'r', 't', 'b', 'f'])
      (hsimple : simpleEscape? e = some c) : Escapes c ['\\', e]
  | self (hquote : c ≠ '"') (hslash : c ≠ '\\') (hcontrol : 0x20 ≤ c.toNat) : Escapes c [c]
  | unit (hsmall : c.toNat < 0x10000) : Escapes c (escapeUnit c.toNat)
  | pair (high low : Nat) (hhigh : 0xD800 ≤ high ∧ high < 0xDC00)
      (hlow : 0xDC00 ≤ low ∧ low < 0xE000)
      (hcode : 0x10000 + (high - 0xD800) * 0x400 + (low - 0xDC00) = c.toNat) :
      Escapes c (escapeUnit high ++ escapeUnit low)

theorem escapes_escapeChar (c : Char) : Escapes c (escapeChar c) := by
  have hshort : ∀ e ∈ ['"', '\\', 'n', 'r', 't', 'b', 'f'], ∀ d, simpleEscape? e = some d →
      c = d → Escapes c ['\\', e] := fun e he d hsimple hc => .short e he (hc ▸ hsimple)
  rw [escapeChar]
  split
  · next hc => exact hshort '"' (by decide) _ rfl hc
  split
  · next hc => exact hshort '\\' (by decide) _ rfl hc
  split
  · next hc => exact hshort 'n' (by decide) _ rfl hc
  split
  · next hc => exact hshort 'r' (by decide) _ rfl hc
  split
  · next hc => exact hshort 't' (by decide) _ rfl hc
  split
  · next hc => exact hshort 'b' (by decide) _ rfl hc
  split
  · next hc => exact hshort 'f' (by decide) _ rfl hc
  next hquote hslash _ _ _ _ _ =>
  split
  · next hascii => exact .self hquote hslash hascii.1
  split
  · next hsmall => exact .unit hsmall
  · have hlt := toNat_lt c
    exact .pair _ _ (by omega) (by omega) (by omega)

/-- A character is read back from what is written for it. -/
theorem Escapes.readChars? {c : Char} {written : Text} (hwritten : Escapes c written)
    (steps : Nat) (rest : Text) :
    readChars? (steps + 1) (written ++ rest) =
      (readChars? steps rest).map fun (t, rest) => (c :: t, rest) := by
  cases hwritten with
  | short e he hsimple =>
      have hnot : 'u' ∉ ['"', '\\', 'n', 'r', 't', 'b', 'f'] := by decide
      exact readChars?_simple (ne_of_mem_of_not_mem he hnot) hsimple steps rest
  | self hquote hslash hcontrol => exact readChars?_literal hquote hslash hcontrol steps rest
  | unit hsmall => exact readChars?_unit (readEscapedUnit?_of_small hsmall rest) steps
  | pair high low hhigh hlow hcode =>
      rw [List.append_assoc, escapeUnit, List.cons_append, List.cons_append]
      exact readChars?_unit (readEscapedUnit?_pair hhigh hlow hcode rest) steps

/-- The character itself is written, or signs and digits. -/
theorem Escapes.forall_mem {c : Char} {written : Text} (hwritten : Escapes c written)
    {p : Char → Prop} (hsigns : ∀ d ∈ ['"', '\\', 'n', 'r', 't', 'b', 'f', 'u'], p d)
    (hdigits : ∀ n < 16, p n.digitChar) (hself : 0x20 ≤ c.toNat → p c) : ∀ d ∈ written, p d := by
  have hslash : p '\\' := hsigns '\\' (by decide)
  have hunit : ∀ code, ∀ d ∈ escapeUnit code, p d := by
    intro code
    rw [escapeUnit, List.forall_mem_cons, List.forall_mem_cons]
    refine ⟨hslash, hsigns 'u' (by decide), ?_⟩
    intro d hd
    obtain ⟨n, hn, rfl⟩ := Text.exists_digitChar_of_mem_hex hd
    exact hdigits n hn
  cases hwritten with
  | short e he _ =>
      rw [List.forall_mem_cons, List.forall_mem_singleton]
      exact ⟨hslash, hsigns e (List.mem_append_left ['u'] he)⟩
  | self _ _ hcontrol => exact List.forall_mem_singleton.mpr (hself hcontrol)
  | unit _ => exact hunit _
  | pair high low => exact List.forall_mem_append.mpr ⟨hunit high, hunit low⟩

theorem Escapes.ne_nil {c : Char} {written : Text} (hwritten : Escapes c written) :
    written ≠ [] := by
  cases hwritten <;> exact List.cons_ne_nil _ _

/-! ## Texts -/

/-- What is written is read as a text.  Each character that is read takes one step. -/
structure Spells (written read : Text) : Prop where
  length_le : read.length ≤ written.length
  reads : ∀ steps rest, readChars? (read.length + steps) (written ++ rest) =
    (readChars? steps rest).map fun (t, rest) => (read ++ t, rest)

theorem spells_nil : Spells [] [] where
  length_le := Nat.le_refl 0
  reads steps rest := by simp

theorem Spells.append {written read written' read' : Text} (hfirst : Spells written read)
    (hsecond : Spells written' read') : Spells (written ++ written') (read ++ read') where
  length_le := by
    have hlength := hfirst.length_le
    have hlength' := hsecond.length_le
    rw [List.length_append, List.length_append]
    omega
  reads steps rest := by
    rw [List.length_append, Nat.add_assoc, List.append_assoc, hfirst.reads, hsecond.reads,
      Option.map_map]
    simp [Function.comp_def]

theorem spells_escapeChar (c : Char) : Spells (escapeChar c) [c] where
  length_le := List.length_pos_iff.mpr (escapes_escapeChar c).ne_nil
  reads steps rest := by
    rw [List.length_singleton, Nat.add_comm]
    exact (escapes_escapeChar c).readChars? steps rest

theorem spells_escape (t : Text) : Spells (t.flatMap escapeChar) t := by
  induction t with
  | nil => exact spells_nil
  | cons c rest ih => exact (spells_escapeChar c).append ih

theorem spells_literal {t : Text} (ht : ∀ c ∈ t, c ≠ '"' ∧ c ≠ '\\' ∧ 0x20 ≤ c.toNat) :
    Spells t t := by
  induction t with
  | nil => exact spells_nil
  | cons c rest ih =>
      rw [List.forall_mem_cons] at ht
      obtain ⟨⟨hquote, hslash, hcontrol⟩, hrest⟩ := ht
      have hchar : Spells [c] [c] := by
        refine ⟨Nat.le_refl _, fun steps rest => ?_⟩
        rw [List.length_singleton, Nat.add_comm]
        exact readChars?_literal hquote hslash hcontrol steps rest
      exact hchar.append (ih hrest)

/-- The length of what is left allows for enough steps. -/
theorem Spells.readChars?_quote {written read : Text} (hspells : Spells written read)
    (rest : Text) :
    readChars? ((written ++ '"' :: rest).length + 1) (written ++ '"' :: rest) =
      some (read, rest) := by
  have hlength := hspells.length_le
  obtain ⟨more, hmore⟩ : ∃ more, (written ++ '"' :: rest).length + 1 =
      read.length + (more + 1) := by
    refine ⟨(written ++ '"' :: rest).length - read.length, ?_⟩
    rw [List.length_append, List.length_cons]
    omega
  rw [hmore, hspells.reads]
  simp [readChars?]

/-! ## Numbers -/

theorem head?_toDigits_ne {n : Nat} (hn : n ≠ 0) : (Nat.toDigits 10 n).head? ≠ some '0' := by
  induction n using Nat.strongRecOn with
  | _ n ih =>
    by_cases hsmall : n < 10
    · have hdigits : ∀ d < 10, d ≠ 0 → d.digitChar ≠ '0' := by decide
      rw [Nat.toDigits_of_lt_base hsmall]
      simpa using hdigits n hsmall hn
    · have hdiv : n / 10 < n := Nat.div_lt_self (by omega) (by decide)
      have hhead := ih (n / 10) hdiv (by omega)
      rw [Nat.toDigits_of_base_le (by decide) (by omega), List.head?_append]
      cases hfirst : (Nat.toDigits 10 (n / 10)).head? with
      | none => exact absurd (List.head?_eq_none_iff.mp hfirst) Nat.toDigits_ne_nil
      | some c => rwa [hfirst] at hhead

/-- A whole number is written without a zero in front. -/
theorem toDigits_length_or_head? (n : Nat) :
    (Nat.toDigits 10 n).length = 1 ∨ (Nat.toDigits 10 n).head? ≠ some '0' := by
  by_cases hn : n = 0
  · exact .inl (by rw [hn]; rfl)
  · exact .inr (head?_toDigits_ne hn)

/-- What may stand behind a number in a document. -/
def EndsNumber (rest : Text) : Prop := rest = [] ∨ ∃ more, rest = ',' :: more ∨ rest = '\n' :: more

theorem takeWhile_digits {n : Nat} {rest : Text} (hrest : EndsNumber rest) :
    (Nat.toDigits 10 n ++ rest).takeWhile isDigit = Nat.toDigits 10 n ∧
      (Nat.toDigits 10 n ++ rest).dropWhile isDigit = rest := by
  have hdigits : ∀ c ∈ Nat.toDigits 10 n, isDigit c = true :=
    fun c hc => Nat.isDigit_of_mem_toDigits (by decide) (by decide) hc
  have hnone : rest.takeWhile isDigit = [] ∧ rest.dropWhile isDigit = rest := by
    rcases hrest with rfl | ⟨more, rfl | rfl⟩ <;> exact ⟨rfl, rfl⟩
  rw [List.takeWhile_append_of_pos hdigits, List.dropWhile_append_of_pos hdigits, hnone.1,
    hnone.2, List.append_nil]
  exact ⟨rfl, rfl⟩

theorem exists_digit (n : Nat) :
    ∃ d more, Nat.toDigits 10 n = d :: more ∧ d.isDigit = true := by
  obtain ⟨d, more, hdigits⟩ := List.exists_cons_of_ne_nil (Nat.toDigits_ne_nil (b := 10) (n := n))
  have hmem : d ∈ Nat.toDigits 10 n := by simp [hdigits]
  exact ⟨d, more, hdigits, Nat.isDigit_of_mem_toDigits (by decide) (by decide) hmem⟩

/-- Digits in front of what ends a number are read as a whole number, with or without a sign. -/
theorem readNumber?_digits {n : Nat} {rest : Text} (hrest : EndsNumber rest) :
    readNumber? (Nat.toDigits 10 n ++ rest) = some (int n, rest) ∧
      readNumber? ('-' :: (Nat.toDigits 10 n ++ rest)) = some (int (-n), rest) := by
  obtain ⟨htake, hdrop⟩ := takeWhile_digits (n := n) hrest
  have hread := Text.readDigits?_toDigits (by decide : 1 < 10) (by decide) n
  have hwhole : ¬ ((Nat.toDigits 10 n).isEmpty = true ∨
      (Nat.toDigits 10 n).length > 1 ∧ (Nat.toDigits 10 n).head? = some '0') := by
    rcases toDigits_length_or_head? n with hone | hhead
    · simp [Nat.toDigits_ne_nil, hone]
    · simp [Nat.toDigits_ne_nil, hhead]
  constructor
  · rw [readNumber?]
    · simp only [htake, hdrop, if_neg hwhole]
      rcases hrest with rfl | ⟨more, rfl | rfl⟩ <;> simp [hread]
    · intro more hmore
      obtain ⟨d, others, hdigits, hd⟩ := exists_digit n
      rw [hdigits] at hmore
      obtain rfl : d = '-' := List.head_eq_of_cons_eq hmore
      exact absurd hd (by decide)
  · rw [readNumber?]
    simp only [htake, hdrop, if_neg hwhole]
    rcases hrest with rfl | ⟨more, rfl | rfl⟩ <;> simp [hread]

theorem ofInt_cases (i : Int) :
    ∃ n : Nat, (i = n ∧ Text.ofInt i = Nat.toDigits 10 n) ∨
      (i = -n ∧ Text.ofInt i = '-' :: Nat.toDigits 10 n) := by
  cases i with
  | ofNat n => exact ⟨n, .inl ⟨rfl, rfl⟩⟩
  | negSucc n => exact ⟨n + 1, .inr ⟨rfl, rfl⟩⟩

theorem readNumber?_ofInt (i : Int) {rest : Text} (hrest : EndsNumber rest) :
    readNumber? (Text.ofInt i ++ rest) = some (int i, rest) := by
  obtain ⟨n, ⟨rfl, hwritten⟩ | ⟨rfl, hwritten⟩⟩ := ofInt_cases i
  · rw [hwritten, (readNumber?_digits hrest).1]
  · rw [hwritten, List.cons_append, (readNumber?_digits hrest).2]

/-- No number begins like a word. -/
theorem readWord?_ofInt (i : Int) (rest : Text) : readWord? (Text.ofInt i ++ rest) = none := by
  obtain ⟨n, ⟨-, hwritten⟩ | ⟨-, hwritten⟩⟩ := ofInt_cases i
  all_goals
    obtain ⟨d, more, hdigits, hd⟩ := exists_digit n
    have hletters : ∀ letter ∈ ['n', 't', 'f', 'N', 'I', '-'], letter.isDigit = false := by simp
    have hother : ∀ letter ∈ ['n', 't', 'f', 'N', 'I', '-'], letter ≠ d := by
      rintro letter hletter rfl
      simp [hletters letter hletter] at hd
    simp only [List.forall_mem_cons] at hother
    simp [readWord?, Text.afterPrefix?, hwritten, hdigits, hother]

end Json

end HeaderAudit
