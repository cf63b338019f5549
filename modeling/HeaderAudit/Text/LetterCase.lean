import HeaderAudit.Text.Basic
import HeaderAudit.Text.CaseTable

/-!
# Letter case

Lower-casing and upper-casing of whole texts. One letter may become several (`İ`, `ß`), and a capital
sigma becomes the final sigma at the end of a word.
-/

namespace HeaderAudit.Text

def isCased (c : Char) : Bool := withinBounds casedBounds c

def isCaseIgnorable (c : Char) : Bool := withinBounds caseIgnorableBounds c

def lowerChar (c : Char) : Text :=
  if c.toNat < 0x80 then [c.toLower]
  else if c.toNat = 0x130 then ['i', Char.ofNat 0x307]
  else [Char.ofNat (ShiftRun.apply lowerRuns c.toNat)]

/-- A sigma ends its word when a cased letter comes before it and none after it; characters that
casing looks through do not count. The text before it is given back to front. -/
def endsWord (before after : Text) : Bool :=
  ((before.dropWhile isCaseIgnorable).head?.any isCased)
    && !((after.dropWhile isCaseIgnorable).head?.any isCased)

/-- The lower-case form of a text that follows another, which is given back to front. -/
def lowerAfter (before : Text) : Text → Text
  | [] => []
  | c :: rest =>
    let letter := if c = 'Σ' then [if endsWord before rest then 'ς' else 'σ'] else lowerChar c
    letter ++ lowerAfter (c :: before) rest

def lower (t : Text) : Text := lowerAfter [] t

def upperChar (c : Char) : Text :=
  if c.toNat < 0x80 then [c.toUpper]
  else
    match upperExpansions.find? (·.1 == c.toNat) with
    | some (_, codes) => codes.map Char.ofNat
    | none => [Char.ofNat (ShiftRun.apply upperRuns c.toNat)]

def upper (t : Text) : Text := t.flatMap upperChar

/-- The letters of a character when case does not matter: in lower case by way of upper case. The
letter i without a dot is a letter of its own. -/
def foldChar (c : Char) : Text := if c = 'ı' then [c] else (upperChar c).flatMap lowerChar

/-- The text when the case of letters does not matter; a ligature is its letters. -/
def fold (t : Text) : Text := t.flatMap foldChar

theorem lowerChar_ne_nil (c : Char) : lowerChar c ≠ [] := by
  rw [lowerChar]
  split
  · exact List.cons_ne_nil _ _
  · split <;> exact List.cons_ne_nil _ _

theorem lower_eq_nil_iff {t : Text} : lower t = [] ↔ t = [] := by
  cases t with
  | nil => exact iff_of_true rfl rfl
  | cons c rest =>
    by_cases hsigma : c = 'Σ'
    · simp [lower, lowerAfter, hsigma]
    · simp [lower, lowerAfter, hsigma, lowerChar_ne_nil c]

theorem toLower_ascii {c : Char} (hc : c.toNat < 0x80) :
    c.toLower.toNat < 0x80 ∧ c.toLower.toLower = c.toLower := by
  have hall : ∀ code < 0x80, (Char.ofNat code).toLower.toNat < 0x80 ∧
      (Char.ofNat code).toLower.toLower = (Char.ofNat code).toLower := by decide +kernel
  have h := hall c.toNat hc
  rwa [Char.ofNat_toNat] at h

theorem lowerAfter_of_ascii {t : Text} (ht : ∀ c ∈ t, c.toNat < 0x80) (before : Text) :
    lowerAfter before t = t.map Char.toLower := by
  induction t generalizing before with
  | nil => rfl
  | cons c rest ih =>
    rw [List.forall_mem_cons] at ht
    have hsigma : c ≠ 'Σ' := by
      rintro rfl
      exact absurd ht.1 (by decide)
    simp [lowerAfter, lowerChar, hsigma, ht.1, ih ht.2]

theorem lower_of_ascii {t : Text} (ht : ∀ c ∈ t, c.toNat < 0x80) :
    lower t = t.map Char.toLower := lowerAfter_of_ascii ht []

/-- A beginning in small letters already does not matter. -/
theorem lower_lower_append {t u : Text} (ht : ∀ c ∈ t, c.toNat < 0x80)
    (hu : ∀ c ∈ u, c.toNat < 0x80) : lower (lower t ++ u) = lower (t ++ u) := by
  have hsmall : ∀ c ∈ t.map Char.toLower, c.toNat < 0x80 := by
    intro c hc
    obtain ⟨d, hd, rfl⟩ := List.mem_map.mp hc
    exact (toLower_ascii (ht d hd)).1
  have hagain : (t.map Char.toLower).map Char.toLower = t.map Char.toLower := by
    rw [List.map_map]
    exact List.map_congr_left fun c hc => (toLower_ascii (ht c hc)).2
  rw [lower_of_ascii ht, lower_of_ascii (List.forall_mem_append.mpr ⟨hsmall, hu⟩),
    lower_of_ascii (List.forall_mem_append.mpr ⟨ht, hu⟩), List.map_append, List.map_append, hagain]

end HeaderAudit.Text
