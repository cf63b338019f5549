/-!
# Texts

A text is the list of its code points, so that every length, offset and slice counts code points.
This module has the operations on texts that need no table of characters: splitting, joining,
searching and cutting.
-/

namespace HeaderAudit

abbrev Text := List Char

instance : Coe String Text := ⟨String.toList⟩

namespace Text

/-- The pieces between the separators; there is always one more piece than separators. -/
def fields (sep : Char) : Text → List Text
  | [] => [[]]
  | c :: rest =>
    match fields sep rest with
    | [] => [[c]]
    | field :: more => if c = sep then [] :: field :: more else (c :: field) :: more

/-- The text before the first separator, and the text after it if there is one. -/
def cut (sep : Char) : Text → Text × Option Text
  | [] => ([], none)
  | c :: rest =>
    if c = sep then ([], some rest)
    else ((c :: (cut sep rest).1), (cut sep rest).2)

/-- The text after the last separator, or the whole text. -/
def afterLast (sep : Char) (t : Text) : Text :=
  (t.reverse.takeWhile (· ≠ sep)).reverse

def dropRightWhile (p : Char → Bool) (t : Text) : Text :=
  (t.reverse.dropWhile p).reverse

def trimWhile (p : Char → Bool) (t : Text) : Text :=
  dropRightWhile p (t.dropWhile p)

def includes (needle : Text) : Text → Bool
  | [] => needle.isEmpty
  | c :: rest => needle.isPrefixOf (c :: rest) || includes needle rest

def join (sep : Text) (pieces : List Text) : Text :=
  List.intercalate sep pieces

/-- What follows a beginning, if the text begins that way. -/
def afterPrefix? (start t : Text) : Option Text :=
  if start.isPrefixOf t then some (t.drop start.length) else none

/-- The first characters of a text; a negative count leaves out that many at the end. -/
def firstChars (count : Int) (t : Text) : Text :=
  if count < 0 then t.take (t.length - count.natAbs) else t.take count.natAbs

def ofNat (n : Nat) : Text := Nat.toDigits 10 n

def ofInt : Int → Text
  | .ofNat n => ofNat n
  | .negSucc n => '-' :: ofNat (n + 1)

/-- A number in lower-case hexadecimal digits, with zeros in front up to a width. -/
def hex (width n : Nat) : Text :=
  let digits := Nat.toDigits 16 n
  List.replicate (width - digits.length) '0' ++ digits

def hexUpper (width n : Nat) : Text := (hex width n).map Char.toUpper

/-- The value of an ASCII digit or letter as a digit of a base up to 36. -/
def digitValue? (c : Char) : Option Nat :=
  if '0' ≤ c ∧ c ≤ '9' then some (c.toNat - '0'.toNat)
  else if 'a' ≤ c ∧ c ≤ 'z' then some (c.toNat - 'a'.toNat + 10)
  else if 'A' ≤ c ∧ c ≤ 'Z' then some (c.toNat - 'A'.toNat + 10)
  else none

def isHexDigit (c : Char) : Bool := (digitValue? c).any (· < 16)

def readDigits? (base : Nat) : Text → Option Nat
  | [] => none
  | digits => digits.foldlM (fun n c => do
      let d ← digitValue? c
      if d < base then some (n * base + d) else none) 0

/-- A class of characters given by the code points at which it begins or ends, in turn. -/
def withinBounds (bounds : List Nat) (c : Char) : Bool :=
  (bounds.takeWhile (· ≤ c.toNat)).length % 2 == 1

theorem exists_digitChar_of_mem_toDigits {base n : Nat} (hone : 1 < base) {c : Char}
    (hc : c ∈ Nat.toDigits base n) : ∃ d < base, c = d.digitChar := by
  induction n using Nat.strongRecOn with
  | _ n ih =>
    by_cases hsmall : n < base
    · rw [Nat.toDigits_of_lt_base hsmall] at hc
      exact ⟨n, hsmall, List.mem_singleton.mp hc⟩
    · rw [Nat.toDigits_of_base_le hone (by omega), List.mem_append, List.mem_singleton] at hc
      rcases hc with hc | hc
      · exact ih (n / base) (Nat.div_lt_self (by omega) hone) hc
      · exact ⟨n % base, Nat.mod_lt n (by omega), hc⟩

theorem exists_digitChar_of_mem_hex {width n : Nat} {c : Char} (hc : c ∈ hex width n) :
    ∃ d < 16, c = d.digitChar := by
  rcases List.mem_append.mp hc with hzero | hdigit
  · exact ⟨0, by decide, List.eq_of_mem_replicate hzero⟩
  · exact exists_digitChar_of_mem_toDigits (by decide) hdigit

theorem includes_iff_infix (needle t : Text) : includes needle t = true ↔ needle <:+: t := by
  induction t with
  | nil => simp [includes]
  | cons c rest ih =>
    rw [includes, Bool.or_eq_true, ih, List.isPrefixOf_iff_prefix, List.infix_cons_iff]

theorem fields_ne_nil (sep : Char) (t : Text) : fields sep t ≠ [] := by
  cases t with
  | nil => simp [fields]
  | cons c rest =>
    simp only [fields]
    split
    · simp
    · split <;> simp

theorem fields_append {sep : Char} {field : Text} (hfield : sep ∉ field) (rest : Text) :
    fields sep (field ++ sep :: rest) = field :: fields sep rest := by
  induction field with
  | nil =>
    obtain ⟨next, more, hrest⟩ := List.exists_cons_of_ne_nil (fields_ne_nil sep rest)
    simp [fields, hrest]
  | cons c field ih =>
    rw [List.mem_cons, not_or] at hfield
    rw [List.cons_append, fields, ih hfield.2]
    exact if_neg (Ne.symm hfield.1)

theorem not_mem_of_mem_fields {sep : Char} {t field : Text} (hfield : field ∈ fields sep t) :
    sep ∉ field := by
  induction t generalizing field with
  | nil => simp_all [fields]
  | cons c rest ih =>
    obtain ⟨next, more, hrest⟩ := List.exists_cons_of_ne_nil (fields_ne_nil sep rest)
    rw [hrest] at ih
    simp only [fields, hrest] at hfield
    split at hfield
    · rcases List.mem_cons.mp hfield with rfl | hfield
      · exact List.not_mem_nil
      · exact ih hfield
    · next hsep =>
      rcases List.mem_cons.mp hfield with rfl | hfield
      · have hnext := ih List.mem_cons_self
        simp [hnext, Ne.symm hsep]
      · exact ih (List.mem_cons_of_mem next hfield)

theorem join_fields (sep : Char) (t : Text) : join [sep] (fields sep t) = t := by
  induction t with
  | nil => rfl
  | cons c rest ih =>
    obtain ⟨next, more, hrest⟩ := List.exists_cons_of_ne_nil (fields_ne_nil sep rest)
    rw [hrest] at ih
    by_cases hsep : c = sep
    · simpa [fields, hrest, hsep, join, List.intercalate, List.intersperse] using ih
    · cases more <;> simpa [fields, hrest, hsep, join, List.intercalate, List.intersperse] using ih

theorem mem_of_mem_fields {sep : Char} {t field : Text} (hfield : field ∈ fields sep t) {c : Char}
    (hc : c ∈ field) : c ∈ t := by
  induction t generalizing field with
  | nil => simp_all [fields]
  | cons d rest ih =>
    obtain ⟨next, more, hrest⟩ := List.exists_cons_of_ne_nil (fields_ne_nil sep rest)
    rw [hrest] at ih
    simp only [fields, hrest] at hfield
    split at hfield
    · rcases List.mem_cons.mp hfield with rfl | hfield
      · exact absurd hc List.not_mem_nil
      · exact List.mem_cons_of_mem d (ih hfield hc)
    · rcases List.mem_cons.mp hfield with rfl | hfield
      · rcases List.mem_cons.mp hc with rfl | hc
        · exact List.mem_cons_self
        · exact List.mem_cons_of_mem d (ih List.mem_cons_self hc)
      · exact List.mem_cons_of_mem d (ih (List.mem_cons_of_mem next hfield) hc)

theorem cut_append {sep : Char} {before : Text} (hbefore : sep ∉ before) (after : Text) :
    cut sep (before ++ sep :: after) = (before, some after) := by
  induction before with
  | nil => simp [cut]
  | cons c before ih =>
    rw [List.mem_cons, not_or] at hbefore
    simp [cut, Ne.symm hbefore.1, ih hbefore.2]

theorem cut_of_not_mem {sep : Char} {t : Text} (ht : sep ∉ t) : cut sep t = (t, none) := by
  induction t with
  | nil => rfl
  | cons c rest ih =>
    rw [List.mem_cons, not_or] at ht
    simp [cut, Ne.symm ht.1, ih ht.2]

theorem append_cut (sep : Char) (t : Text) :
    (cut sep t).1 ++ ((cut sep t).2.map (sep :: ·)).getD [] = t := by
  induction t with
  | nil => rfl
  | cons c rest ih =>
    by_cases hsep : c = sep
    · simp [cut, hsep]
    · simp [cut, hsep, ih]

theorem not_mem_cut (sep : Char) (t : Text) : sep ∉ (cut sep t).1 := by
  induction t with
  | nil => exact List.not_mem_nil
  | cons c rest ih =>
    by_cases hsep : c = sep
    · simp [cut, hsep]
    · simp [cut, hsep, ih, Ne.symm hsep]

theorem takeWhile_reverse_append {sep : Char} {t : Text} (ht : sep ∉ t) (before : Text) :
    (t.reverse ++ before).takeWhile (· ≠ sep) = t.reverse ++ before.takeWhile (· ≠ sep) := by
  apply List.takeWhile_append_of_pos
  intro c hc
  have hne : c ≠ sep := ne_of_mem_of_not_mem (List.mem_reverse.mp hc) ht
  simpa using hne

theorem afterLast_append {sep : Char} {after : Text} (hafter : sep ∉ after) (before : Text) :
    afterLast sep (before ++ sep :: after) = after := by
  have hreverse : (before ++ sep :: after).reverse = after.reverse ++ sep :: before.reverse := by
    simp
  rw [afterLast, hreverse, takeWhile_reverse_append hafter]
  simp

theorem afterLast_of_not_mem {sep : Char} {t : Text} (ht : sep ∉ t) : afterLast sep t = t := by
  rw [afterLast, ← List.append_nil t.reverse, takeWhile_reverse_append ht]
  simp

end Text

end HeaderAudit
