import HeaderAudit.Proofs.RunLength

/-!
# Painting segments

Segments are painted one after another onto a line that has no tint yet.  The segments that
`collapse` finds in a colouring paint this colouring again, so nothing of it is lost.  And there is
one way only to write down a colouring: segments in order, none empty or without a tint, and none
that touches another of its own tint, are found again in what they paint.
-/

namespace HeaderAudit

namespace Segment

instance (s : Segment) (offset : Nat) : Decidable (s.Covers offset) :=
  inferInstanceAs (Decidable (_ ∧ _))

/-- Gives the tint of the segment to the offsets that it covers. -/
def paint (s : Segment) (painted : List Tint) : List Tint :=
  painted.mapIdx fun offset old => if s.Covers offset then s.tint else old

@[simp] theorem length_paint (s : Segment) (painted : List Tint) :
    (s.paint painted).length = painted.length := List.length_mapIdx

theorem getElem?_paint (s : Segment) (painted : List Tint) (offset : Nat) :
    (s.paint painted)[offset]? =
      painted[offset]?.map fun old => if s.Covers offset then s.tint else old :=
  List.getElem?_mapIdx

end Segment

/-- The segments are painted one after another. -/
def paintOver (runs : List Segment) (painted : List Tint) : List Tint :=
  runs.foldl (fun painted s => s.paint painted) painted

/-- The colouring of a line of this length that has the segments and no other tint. -/
def paintedBy (length : Nat) (runs : List Segment) : List Tint :=
  paintOver runs (List.replicate length .none)

/-- The segments lie in a line of this length, in order and apart from each other. -/
structure RunsWithin (length : Nat) (runs : List Segment) : Prop where
  within : ∀ s ∈ runs, s.Within length
  ascending : runs.Pairwise Segment.Before

/-! ## What painting leaves behind -/

section Painting

variable {runs : List Segment} {painted : List Tint} {offset : Nat}

theorem length_paintOver (runs : List Segment) (painted : List Tint) :
    (paintOver runs painted).length = painted.length := by
  induction runs generalizing painted with
  | nil => rfl
  | cons s runs ih => rw [paintOver, List.foldl_cons, ← paintOver, ih, Segment.length_paint]

@[simp] theorem length_paintedBy (length : Nat) (runs : List Segment) :
    (paintedBy length runs).length = length := by
  rw [paintedBy, length_paintOver, List.length_replicate]

theorem exists_covers_or (runs : List Segment) (offset : Nat) :
    (∃ s ∈ runs, s.Covers offset) ∨ ∀ s ∈ runs, ¬ s.Covers offset := by
  by_cases hcovered : ∃ s ∈ runs, s.Covers offset
  · exact .inl hcovered
  · exact .inr fun s hs hcovers => hcovered ⟨s, hs, hcovers⟩

theorem paintOver_getElem?_of_uncovered (huncovered : ∀ s ∈ runs, ¬ s.Covers offset) :
    (paintOver runs painted)[offset]? = painted[offset]? := by
  induction runs generalizing painted with
  | nil => rfl
  | cons s runs ih =>
      rw [List.forall_mem_cons] at huncovered
      rw [paintOver, List.foldl_cons, ← paintOver, ih huncovered.2, Segment.getElem?_paint]
      simp [huncovered.1]

/-- What a segment paints stays, because those behind it lie elsewhere. -/
theorem paintOver_getElem?_of_covered (hascending : runs.Pairwise Segment.Before) {s : Segment}
    (hs : s ∈ runs) (hcovers : s.Covers offset) (hoffset : offset < painted.length) :
    (paintOver runs painted)[offset]? = some s.tint := by
  induction runs generalizing painted with
  | nil => simp at hs
  | cons first runs ih =>
      rw [List.pairwise_cons] at hascending
      rw [paintOver, List.foldl_cons, ← paintOver]
      rcases List.mem_cons.mp hs with rfl | hs
      -- The segments behind this one begin where it has ended.
      · have huncovered : ∀ t ∈ runs, ¬ t.Covers offset := by
          rintro t ht ⟨hstart, -⟩
          have hbefore := (hascending.1 t ht).1
          have hstop := hcovers.2
          omega
        rw [paintOver_getElem?_of_uncovered huncovered, Segment.getElem?_paint,
          List.getElem?_eq_getElem hoffset, Option.map_some, if_pos hcovers]
      · exact ih hascending.2 hs (by simpa using hoffset)

/-- Where no segment lies, the line keeps no tint. -/
theorem paintedBy_getElem?_of_uncovered {length : Nat} (huncovered : ∀ s ∈ runs, ¬ s.Covers offset)
    (hoffset : offset < length) : (paintedBy length runs)[offset]? = some .none := by
  rw [paintedBy, paintOver_getElem?_of_uncovered huncovered, List.getElem?_replicate,
    if_pos hoffset]

theorem paintedBy_getElem?_of_covered {length : Nat} (hascending : runs.Pairwise Segment.Before)
    {s : Segment} (hs : s ∈ runs) (hcovers : s.Covers offset) (hoffset : offset < length) :
    (paintedBy length runs)[offset]? = some s.tint :=
  paintOver_getElem?_of_covered hascending hs hcovers (by simpa using hoffset)

end Painting

/-! ## Colourings and their runs -/

variable {length offset : Nat} {tintOf : Nat → Tint} {runs : List Segment}

theorem RunForm.runsWithin (hform : RunForm 0 length tintOf runs) : RunsWithin length runs :=
  ⟨fun _ hs => hform.within hs, hform.ascending⟩

theorem RunForm.tintOf_of_uncovered (hform : RunForm 0 length tintOf runs)
    (huncovered : ∀ s ∈ runs, ¬ s.Covers offset) (hoffset : offset < length) :
    tintOf offset = .none := by
  by_cases htint : tintOf offset = .none
  · exact htint
  · obtain ⟨s, hs, hcovers, -⟩ :=
      (hform.covers_iff offset (Nat.zero_le offset) hoffset _ htint).mpr rfl
    exact absurd hcovers (huncovered s hs)

/-- The run form of a colouring paints it. -/
theorem RunForm.paintedBy_getElem? (hform : RunForm 0 length tintOf runs)
    (hoffset : offset < length) : (paintedBy length runs)[offset]? = some (tintOf offset) := by
  rcases exists_covers_or runs offset with ⟨s, hs, hcovers⟩ | huncovered
  · rw [hform.tintOf_eq_of_covers hs hcovers,
      paintedBy_getElem?_of_covered hform.ascending hs hcovers hoffset]
  · rw [hform.tintOf_of_uncovered huncovered hoffset,
      paintedBy_getElem?_of_uncovered huncovered hoffset]

/-- Segments in order and apart are the runs of what they paint. -/
theorem RunsWithin.runForm (hruns : RunsWithin length runs) :
    RunForm 0 length (fun offset => (paintedBy length runs).getD offset .none) runs where
  nonempty s hs := (hruns.within s hs).start_lt_stop
  bounded s hs := ⟨(hruns.within s hs).start_nonneg, (hruns.within s hs).stop_le⟩
  tinted s hs := (hruns.within s hs).tinted
  ascending := hruns.ascending
  covers_iff := by
    intro offset _ hoffset tint htint
    have hpainted : ∀ s ∈ runs, s.Covers offset →
        (paintedBy length runs).getD offset .none = s.tint := by
      intro s hs hcovers
      simp [List.getD, paintedBy_getElem?_of_covered hruns.ascending hs hcovers hoffset]
    constructor
    · rintro ⟨s, hs, hcovers, rfl⟩
      exact hpainted s hs hcovers
    · intro heq
      rcases exists_covers_or runs offset with ⟨s, hs, hcovers⟩ | huncovered
      · exact ⟨s, hs, hcovers, by rw [← heq, hpainted s hs hcovers]⟩
      · have hnone := paintedBy_getElem?_of_uncovered huncovered hoffset
        exact absurd (by simp [← heq, List.getD, hnone]) htint

namespace Highlight

theorem paintedBy_collapse (painted : List Tint) :
    paintedBy painted.length (collapse painted) = painted := by
  apply List.ext_getElem?
  intro offset
  by_cases hoffset : offset < painted.length
  · rw [(collapse_runForm painted).paintedBy_getElem? hoffset]
    simp [hoffset]
  · rw [Nat.not_lt] at hoffset
    rw [List.getElem?_eq_none hoffset, List.getElem?_eq_none (by simpa using hoffset)]

theorem collapse_paintedBy (hruns : RunsWithin length runs) :
    collapse (paintedBy length runs) = runs := by
  have hform := collapse_runForm (paintedBy length runs)
  rw [length_paintedBy] at hform
  exact hform.unique hruns.runForm

/-- Collapsing and painting undo each other.  Every colouring is painted by the segments that it
collapses to, which are in order and apart; and all segments in order and apart are what their
painting collapses to. -/
theorem collapse_and_painting_are_inverse :
    (∀ painted : List Tint, RunsWithin painted.length (collapse painted) ∧
      paintOver (collapse painted) (List.replicate painted.length .none) = painted) ∧
    ∀ length runs, RunsWithin length runs →
      collapse (paintOver runs (List.replicate length .none)) = runs := by
  refine ⟨?_, fun length runs => collapse_paintedBy⟩
  intro painted
  exact ⟨(collapse_runForm painted).runsWithin, paintedBy_collapse painted⟩

/-! ## Segments that touch -/

namespace Flag

def stripes : List Segment := [⟨0, 2, .green⟩, ⟨2, 3, .red⟩, ⟨4, 5, .red⟩]

theorem touching_segments_are_found_again :
    RunsWithin 6 stripes ∧ collapse (paintOver stripes (List.replicate 6 .none)) = stripes ∧
      paintOver stripes (List.replicate 6 .none) = [.green, .green, .red, .none, .red, .none] := by
  have hruns : RunsWithin 6 stripes := by
    refine ⟨?_, ?_⟩
    · intro s hs
      simp only [stripes, List.mem_cons, List.not_mem_nil, or_false] at hs
      obtain rfl | rfl | rfl := hs <;> exact ⟨by decide, by decide, by decide, by decide⟩
    · simp [stripes, Segment.Before]
  exact ⟨hruns, collapse_and_painting_are_inverse.2 6 stripes hruns, by decide⟩

end Flag

end Highlight

end HeaderAudit
