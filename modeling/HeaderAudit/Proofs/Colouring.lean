import HeaderAudit.Proofs.RunLength

/-!
# The colouring of a line

The colour of an offset is said without the painting: some pattern of the colour occurs in the line
so that it covers the offset, and no pattern of a stronger colour does.  Occurrences may overlap.
Painting the patterns one after another gives this colouring, and the segments of a line are its run
form.
-/

namespace HeaderAudit.Highlight

open Text (sameLetter beginsWithLetters)

/-- The pattern stands at the offset, letter by letter, whatever the case. -/
def OccursAt (pattern t : Text) (start : Nat) : Prop :=
  ∃ _ : start + pattern.length ≤ t.length,
    ∀ k (_ : k < pattern.length), sameLetter t[start + k] pattern[k] = true

instance (pattern line : Text) (start : Nat) : Decidable (OccursAt pattern line start) := by
  unfold OccursAt
  infer_instance

/-- Some occurrence of the pattern covers the offset; one of an empty pattern covers nothing. -/
def CoveredBy (pattern line : Text) (offset : Nat) : Prop :=
  ∃ start, start ≤ offset ∧ offset < start + pattern.length ∧ OccursAt pattern line start

instance (pattern line : Text) (offset : Nat) : Decidable (CoveredBy pattern line offset) := by
  unfold CoveredBy
  infer_instance

def Covered (patterns : List Text) (line : Text) (offset : Nat) : Prop :=
  ∃ pattern ∈ patterns, pattern ≠ [] ∧ CoveredBy pattern line offset

instance (patterns : List Text) (line : Text) (offset : Nat) :
    Decidable (Covered patterns line offset) := by
  unfold Covered
  infer_instance

/-- Green goes before yellow, and yellow before red. -/
def tintAt (patterns : Patterns) (line : Text) (offset : Nat) : Tint :=
  if Covered patterns.green line offset then .green
  else if Covered patterns.yellow line offset then .yellow
  else if Covered patterns.red line offset then .red
  else .none

/-! ## Occurrences -/

theorem occursAt_cons_succ (pattern line : Text) (c : Char) (start : Nat) :
    OccursAt pattern (c :: line) (start + 1) ↔ OccursAt pattern line start := by
  have hindex : ∀ k, start + 1 + k = start + k + 1 := by omega
  unfold OccursAt
  simp only [hindex, List.getElem_cons_succ, List.length_cons]
  constructor
  · rintro ⟨hlength, h⟩
    exact ⟨by omega, h⟩
  · rintro ⟨hlength, h⟩
    exact ⟨by omega, h⟩

theorem beginsWithLetters_iff (pattern line : Text) :
    beginsWithLetters pattern line = true ↔ OccursAt pattern line 0 := by
  induction pattern generalizing line with
  | nil => simp [beginsWithLetters, OccursAt]
  | cons p pattern ih =>
      cases line with
      | nil => simp [beginsWithLetters, OccursAt]
      | cons c line =>
          rw [beginsWithLetters, Bool.and_eq_true, ih line]
          constructor
          · rintro ⟨hfirst, hlength, hrest⟩
            refine ⟨by simpa using hlength, ?_⟩
            intro k hk
            cases k with
            | zero => simpa using hfirst
            | succ k => simpa using hrest k (by simpa using hk)
          · rintro ⟨hlength, h⟩
            have hfirst := h 0 (by simp)
            refine ⟨by simpa using hfirst, by simpa using hlength, ?_⟩
            intro k hk
            have hnext := h (k + 1) (by simpa using hk)
            simpa using hnext

/-- An occurrence that covers an offset begins at the first character or behind it. -/
theorem coveredBy_cons_succ (pattern line : Text) (c : Char) (offset : Nat) :
    CoveredBy pattern (c :: line) (offset + 1) ↔
      (offset + 1 < pattern.length ∧ OccursAt pattern (c :: line) 0) ∨
        CoveredBy pattern line offset := by
  constructor
  · rintro ⟨start, hle, hlt, hoccurs⟩
    cases start with
    | zero => exact .inl ⟨by simpa using hlt, hoccurs⟩
    | succ start =>
        exact .inr ⟨start, by omega, by omega, (occursAt_cons_succ ..).mp hoccurs⟩
  · rintro (⟨hlt, hoccurs⟩ | ⟨start, hle, hlt, hoccurs⟩)
    · exact ⟨0, by omega, by simpa using hlt, hoccurs⟩
    · exact ⟨start + 1, by omega, by omega, (occursAt_cons_succ ..).mpr hoccurs⟩

theorem coveredBy_zero (pattern line : Text) :
    CoveredBy pattern line 0 ↔ 0 < pattern.length ∧ OccursAt pattern line 0 := by
  constructor
  · rintro ⟨start, hle, hlt, hoccurs⟩
    have hzero : start = 0 := by omega
    subst hzero
    exact ⟨by simpa using hlt, hoccurs⟩
  · rintro ⟨hlt, hoccurs⟩
    exact ⟨0, Nat.le_refl 0, by simpa using hlt, hoccurs⟩

/-! ## Painting -/

/-- `left` offsets are still covered by an occurrence that began earlier. -/
theorem coverFrom_getElem? {pattern line : Text} {left offset : Nat}
    (hleft : left ≤ pattern.length) (hoffset : offset < line.length) :
    (coverFrom pattern left line)[offset]? =
      some (decide (offset < left ∨ CoveredBy pattern line offset)) := by
  induction line generalizing left offset with
  | nil => simp at hoffset
  | cons c line ih =>
      rw [coverFrom]
      have hbegins := beginsWithLetters_iff pattern (c :: line)
      by_cases hoccurs : OccursAt pattern (c :: line) 0
      · rw [if_pos (hbegins.mpr hoccurs)]
        cases offset with
        | zero =>
            rw [List.getElem?_cons_zero, Option.some.injEq, Bool.eq_iff_iff]
            simp only [coveredBy_zero, hoccurs, and_true, bne_iff_ne, decide_eq_true_eq]
            omega
        | succ offset =>
            have hreach : offset < pattern.length - 1 ↔
                offset + 1 < left ∨ offset + 1 < pattern.length := by omega
            rw [List.getElem?_cons_succ, ih (by omega) (by simpa using hoffset)]
            simp only [coveredBy_cons_succ, hoccurs, and_true, hreach, or_assoc]
      · rw [if_neg (fun h => hoccurs (hbegins.mp h))]
        cases offset with
        | zero =>
            rw [List.getElem?_cons_zero, Option.some.injEq, Bool.eq_iff_iff]
            simp only [coveredBy_zero, hoccurs, and_false, or_false, bne_iff_ne,
              decide_eq_true_eq]
            omega
        | succ offset =>
            have hreach : offset < left - 1 ↔ offset + 1 < left := by omega
            rw [List.getElem?_cons_succ, ih (by omega) (by simpa using hoffset)]
            simp only [coveredBy_cons_succ, hoccurs, and_false, false_or, hreach]

theorem cover_getElem? {pattern line : Text} {offset : Nat} (hoffset : offset < line.length) :
    (cover pattern line)[offset]? = some (decide (CoveredBy pattern line offset)) := by
  rw [cover, coverFrom_getElem? (Nat.zero_le _) hoffset]
  simp

@[simp] theorem length_coverFrom (pattern line : Text) (left : Nat) :
    (coverFrom pattern left line).length = line.length := by
  induction line generalizing left with
  | nil => rfl
  | cons c line ih => simp [coverFrom, ih]

theorem length_paintAll (tint : Tint) (patterns : List Text) {line : Text}
    {painted : List Tint} (hlength : painted.length = line.length) :
    (paintAll tint patterns line painted).length = line.length := by
  induction patterns generalizing painted with
  | nil => exact hlength
  | cons pattern patterns ih =>
      rw [paintAll, List.foldl_cons]
      apply ih
      simp [paint, cover, hlength]

theorem paint_getElem? {tint : Tint} {pattern line : Text} {painted : List Tint} {offset : Nat}
    (hlength : painted.length = line.length) (hoffset : offset < line.length) :
    (paint tint (cover pattern line) painted)[offset]? =
      if CoveredBy pattern line offset then some tint else painted[offset]? := by
  have hpainted : offset < painted.length := by omega
  rw [paint, List.getElem?_zipWith, cover_getElem? hoffset, List.getElem?_eq_getElem hpainted]
  by_cases hcovered : CoveredBy pattern line offset <;> simp [hcovered]

theorem covered_cons (pattern : Text) (patterns : List Text) (line : Text) (offset : Nat) :
    Covered (pattern :: patterns) line offset ↔
      CoveredBy pattern line offset ∨ Covered patterns line offset := by
  have hnonempty : CoveredBy pattern line offset → pattern ≠ [] := by
    rintro ⟨start, hle, hlt, -⟩ rfl
    simp at hlt
    omega
  simp only [Covered, List.mem_cons, exists_eq_or_imp]
  constructor
  · rintro (⟨-, h⟩ | h)
    · exact .inl h
    · exact .inr h
  · rintro (h | h)
    · exact .inl ⟨hnonempty h, h⟩
    · exact .inr h

/-- Painting gives the tint to the offsets that some pattern covers and leaves the others. -/
theorem paintAll_getElem? {tint : Tint} {patterns : List Text} {line : Text}
    {painted : List Tint} {offset : Nat} (hlength : painted.length = line.length)
    (hoffset : offset < line.length) :
    (paintAll tint patterns line painted)[offset]? =
      if Covered patterns line offset then some tint else painted[offset]? := by
  induction patterns generalizing painted with
  | nil => simp [paintAll, Covered]
  | cons pattern patterns ih =>
      rw [paintAll, List.foldl_cons, ← paintAll, ih (by simp [paint, cover, hlength]),
        paint_getElem? hlength hoffset]
      simp only [covered_cons]
      by_cases hcovered : Covered patterns line offset <;>
        by_cases hhead : CoveredBy pattern line offset <;> simp [hcovered, hhead]

@[simp] theorem length_tints (patterns : Patterns) (line : Text) :
    (tints patterns line).length = line.length := by
  unfold tints
  apply length_paintAll
  apply length_paintAll
  apply length_paintAll
  simp

theorem tints_getElem? (patterns : Patterns) {line : Text} {offset : Nat}
    (hoffset : offset < line.length) :
    (tints patterns line)[offset]? = some (tintAt patterns line offset) := by
  have hblank : (List.replicate line.length Tint.none).length = line.length := by simp
  have hred := length_paintAll .red patterns.red hblank
  have hyellow := length_paintAll .yellow patterns.yellow hred
  rw [tints, paintAll_getElem? hyellow hoffset, paintAll_getElem? hred hoffset,
    paintAll_getElem? hblank hoffset, List.getElem?_replicate, if_pos hoffset, tintAt]
  by_cases hgreen : Covered patterns.green line offset <;>
    by_cases hyellow : Covered patterns.yellow line offset <;>
      by_cases hred : Covered patterns.red line offset <;> simp [hgreen, hyellow, hred]

theorem collapse_tints_runForm (patterns : Patterns) (line : Text) :
    RunForm 0 line.length (tintAt patterns line) (collapse (tints patterns line)) := by
  have hform := collapse_runForm (tints patterns line)
  rw [length_tints] at hform
  apply hform.congr
  intro offset _ hlast
  simp [List.getD, tints_getElem? patterns hlast]

/-- The segments of a line that is accepted are the run form of its colouring, and there is no other
list of segments that is.  A line that is not accepted has none, and neither has an empty one. -/
theorem segments_eq_iff_runForm (patterns : Patterns) (accepts : Text → Bool) (line : Text)
    (found : List Segment) :
    segments patterns (accepts line) line = found ↔
      if accepts line = true ∧ line ≠ [] then
        RunForm 0 line.length (tintAt patterns line) found
      else found = [] := by
  have hform := collapse_tints_runForm patterns line
  by_cases haccepts : accepts line = true
  · rw [segments, if_pos haccepts]
    by_cases hempty : line = []
    · subst hempty
      simp only [ne_eq, not_true_eq_false, and_false, if_false]
      rw [hform.unique (RunForm.nil_of_le (by simp)), eq_comm]
    · rw [if_pos ⟨haccepts, hempty⟩]
      constructor
      · rintro rfl
        exact hform
      · exact hform.unique
  · simp [segments, haccepts, eq_comm]

end HeaderAudit.Highlight
