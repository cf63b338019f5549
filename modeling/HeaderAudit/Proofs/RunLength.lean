import HeaderAudit.Highlight

/-!
# Segments as runs of a colouring

A colouring gives every offset of a line its tint.  Its run form is the list of its maximal runs:
the segments are in order, none is empty or without a tint, and two that touch differ in tint.  A
colouring has only one run form, and `collapse` finds it.
-/

namespace HeaderAudit

def Segment.Covers (s : Segment) (offset : Nat) : Prop :=
  s.start ≤ offset ∧ (offset : Int) < s.stop

/-- The segment has a colour and at least one character of a text of this length. -/
structure Segment.Within (length : Nat) (s : Segment) : Prop where
  start_nonneg : 0 ≤ s.start
  start_lt_stop : s.start < s.stop
  stop_le : s.stop ≤ length
  tinted : s.tint ≠ .none

/-- The first segment ends before the second begins, and where they touch their tints differ. -/
def Segment.Before (s t : Segment) : Prop :=
  s.stop ≤ t.start ∧ (s.stop = t.start → s.tint ≠ t.tint)

/-- The segments are the maximal runs of a colouring between two offsets. -/
structure RunForm (first last : Nat) (tintOf : Nat → Tint) (runs : List Segment) : Prop where
  nonempty : ∀ s ∈ runs, s.start < s.stop
  bounded : ∀ s ∈ runs, first ≤ s.start ∧ s.stop ≤ last
  tinted : ∀ s ∈ runs, s.tint ≠ .none
  ascending : runs.Pairwise Segment.Before
  covers_iff : ∀ offset, first ≤ offset → offset < last → ∀ tint, tint ≠ .none →
    ((∃ s ∈ runs, s.Covers offset ∧ s.tint = tint) ↔ tintOf offset = tint)

namespace RunForm

variable {first mid last : Nat} {tintOf : Nat → Tint} {s t : Segment} {runs others : List Segment}

/-- The offset at which a segment of a run form begins. -/
theorem exists_start (hform : RunForm first last tintOf runs) (hs : s ∈ runs) :
    ∃ offset : Nat, s.start = offset ∧ first ≤ offset ∧ offset < last ∧
      tintOf offset = s.tint := by
  have hbounds := hform.bounded s hs
  have hnonempty := hform.nonempty s hs
  refine ⟨s.start.toNat, by omega, by omega, by omega, ?_⟩
  apply (hform.covers_iff _ (by omega) (by omega) s.tint (hform.tinted s hs)).mp
  refine ⟨s, hs, ⟨?_, ?_⟩, rfl⟩ <;> omega

theorem tintOf_eq_of_covers (hform : RunForm first last tintOf runs) (hs : s ∈ runs)
    {offset : Nat} (hcovers : s.Covers offset) : tintOf offset = s.tint := by
  have hbounds := hform.bounded s hs
  obtain ⟨hstart, hstop⟩ := hcovers
  exact (hform.covers_iff offset (by omega) (by omega) s.tint (hform.tinted s hs)).mp
    ⟨s, hs, ⟨hstart, hstop⟩, rfl⟩

theorem within {length : Nat} (hform : RunForm 0 length tintOf runs) (hs : s ∈ runs) :
    s.Within length := by
  have hbounds := hform.bounded s hs
  exact ⟨by omega, hform.nonempty s hs, hbounds.2, hform.tinted s hs⟩

theorem nil_of_le (hle : last ≤ first) : RunForm first last tintOf [] := by
  constructor <;> simp
  omega

theorem congr {other : Nat → Tint} (hform : RunForm first last tintOf runs)
    (heq : ∀ offset, first ≤ offset → offset < last → tintOf offset = other offset) :
    RunForm first last other runs :=
  { hform with
    covers_iff := by
      intro offset hfirst hlast tint htint
      rw [← heq offset hfirst hlast]
      exact hform.covers_iff offset hfirst hlast tint htint }

/-- Two run forms side by side, when the tint changes between them. -/
theorem append (hleft : RunForm first mid tintOf runs) (hright : RunForm mid last tintOf others)
    (hfirst : first ≤ mid) (hlast : mid ≤ last)
    (hchange : tintOf (mid - 1) ≠ tintOf mid) :
    RunForm first last tintOf (runs ++ others) where
  nonempty := by
    intro s hs
    exact (List.mem_append.mp hs).elim (hleft.nonempty s) (hright.nonempty s)
  bounded := by
    intro s hs
    rcases List.mem_append.mp hs with hs | hs
    · have := hleft.bounded s hs
      omega
    · have := hright.bounded s hs
      omega
  tinted := by
    intro s hs
    exact (List.mem_append.mp hs).elim (hleft.tinted s) (hright.tinted s)
  ascending := by
    rw [List.pairwise_append]
    refine ⟨hleft.ascending, hright.ascending, ?_⟩
    intro s hs t ht
    have hsBounds := hleft.bounded s hs
    have htBounds := hright.bounded t ht
    have hsNonempty := hleft.nonempty s hs
    have htNonempty := hright.nonempty t ht
    refine ⟨by omega, ?_⟩
    intro htouch htint
    have hsCovers : s.Covers (mid - 1) := ⟨by omega, by omega⟩
    have htCovers : t.Covers mid := ⟨by omega, by omega⟩
    apply hchange
    rw [hleft.tintOf_eq_of_covers hs hsCovers, hright.tintOf_eq_of_covers ht htCovers, htint]
  covers_iff := by
    intro offset hfirst' hlast' tint htint
    by_cases hside : offset < mid
    · rw [← hleft.covers_iff offset hfirst' hside tint htint]
      constructor
      · rintro ⟨s, hs, hcovers, heq⟩
        rcases List.mem_append.mp hs with hs | hs
        · exact ⟨s, hs, hcovers, heq⟩
        · have := hright.bounded s hs
          have := hcovers.1
          omega
      · rintro ⟨s, hs, h⟩
        exact ⟨s, List.mem_append_left others hs, h⟩
    · rw [← hright.covers_iff offset (by omega) hlast' tint htint]
      constructor
      · rintro ⟨s, hs, hcovers, heq⟩
        rcases List.mem_append.mp hs with hs | hs
        · have := hleft.bounded s hs
          have := hcovers.2
          omega
        · exact ⟨s, hs, hcovers, heq⟩
      · rintro ⟨s, hs, h⟩
        exact ⟨s, List.mem_append_right runs hs, h⟩

/-! ## One colouring, one run form -/

/-- No offset before the first segment has a tint. -/
theorem head_start_le (hform : RunForm first last tintOf (s :: runs)) {offset : Nat}
    (hfirst : first ≤ offset) (hlast : offset < last) (htint : tintOf offset ≠ .none) :
    s.start ≤ offset := by
  obtain ⟨t, ht, hcovers, -⟩ := (hform.covers_iff offset hfirst hlast _ htint).mpr rfl
  rcases List.mem_cons.mp ht with rfl | ht
  · exact hcovers.1
  · have hbefore := (List.pairwise_cons.mp hform.ascending).1 t ht
    have hnonempty := hform.nonempty s List.mem_cons_self
    have := hcovers.1
    have := hbefore.1
    omega

theorem tintOf_head_stop_ne (hform : RunForm first last tintOf (s :: runs)) {offset : Nat}
    (hoffset : s.stop = offset) (hlast : offset < last) : tintOf offset ≠ s.tint := by
  intro htint
  have hbounds := hform.bounded s List.mem_cons_self
  have hnonempty := hform.nonempty s List.mem_cons_self
  obtain ⟨t, ht, hcovers, heq⟩ :=
    (hform.covers_iff offset (by omega) hlast s.tint (hform.tinted s List.mem_cons_self)).mpr htint
  rcases List.mem_cons.mp ht with rfl | ht
  · have := hcovers.2
    omega
  · obtain ⟨hle, htouch⟩ := (List.pairwise_cons.mp hform.ascending).1 t ht
    have := hcovers.1
    exact htouch (by omega) heq.symm

theorem tail (hform : RunForm first last tintOf (s :: runs)) :
    RunForm s.stop.toNat last tintOf runs where
  nonempty t ht := hform.nonempty t (List.mem_cons_of_mem s ht)
  bounded t ht := by
    have hbounds := hform.bounded t (List.mem_cons_of_mem s ht)
    have hbefore := ((List.pairwise_cons.mp hform.ascending).1 t ht).1
    omega
  tinted t ht := hform.tinted t (List.mem_cons_of_mem s ht)
  ascending := (List.pairwise_cons.mp hform.ascending).2
  covers_iff := by
    intro offset hfirst hlast tint htint
    have hbounds := hform.bounded s List.mem_cons_self
    have hnonempty := hform.nonempty s List.mem_cons_self
    rw [← hform.covers_iff offset (by omega) hlast tint htint]
    constructor
    · rintro ⟨t, ht, h⟩
      exact ⟨t, List.mem_cons_of_mem s ht, h⟩
    · rintro ⟨t, ht, hcovers, heq⟩
      rcases List.mem_cons.mp ht with rfl | ht
      · have := hcovers.2
        omega
      · exact ⟨t, ht, hcovers, heq⟩

/-- The first segments of two run forms of one colouring agree, unless one stops earlier. -/
theorem head_stop_le (hleft : RunForm first last tintOf (s :: runs))
    (hright : RunForm first last tintOf (t :: others)) (hstart : s.start = t.start)
    (htint : s.tint = t.tint) : t.stop ≤ s.stop := by
  apply Int.not_lt.mp
  intro hlt
  have hs := hleft.nonempty s List.mem_cons_self
  have hsBounds := hleft.bounded s List.mem_cons_self
  have htBounds := hright.bounded t List.mem_cons_self
  have hstop : s.stop = s.stop.toNat := by omega
  apply hleft.tintOf_head_stop_ne hstop (by omega)
  rw [htint]
  apply hright.tintOf_eq_of_covers List.mem_cons_self
  constructor <;> omega

theorem head_eq (hleft : RunForm first last tintOf (s :: runs))
    (hright : RunForm first last tintOf (t :: others)) : s = t := by
  obtain ⟨a, ha, haFirst, haLast, haTint⟩ := hleft.exists_start List.mem_cons_self
  obtain ⟨b, hb, hbFirst, hbLast, hbTint⟩ := hright.exists_start List.mem_cons_self
  have hab : t.start ≤ a := hright.head_start_le haFirst haLast (by
    rw [haTint]
    exact hleft.tinted s List.mem_cons_self)
  have hba : s.start ≤ b := hleft.head_start_le hbFirst hbLast (by
    rw [hbTint]
    exact hright.tinted t List.mem_cons_self)
  have hstart : s.start = t.start := by omega
  have htint : s.tint = t.tint := by
    have heq : a = b := by omega
    rw [← haTint, ← hbTint, heq]
  have hle := hleft.head_stop_le hright hstart htint
  have hge := hright.head_stop_le hleft hstart.symm htint.symm
  have hstop : s.stop = t.stop := by omega
  cases s
  cases t
  simp_all

/-- A colouring has only one run form. -/
theorem unique (hleft : RunForm first last tintOf runs)
    (hright : RunForm first last tintOf others) : runs = others := by
  induction runs generalizing first others with
  | nil =>
      cases others with
      | nil => rfl
      | cons t others =>
          obtain ⟨b, -, hfirst, hlast, htint⟩ := hright.exists_start List.mem_cons_self
          obtain ⟨s, hs, -⟩ := (hleft.covers_iff b hfirst hlast t.tint
            (hright.tinted t List.mem_cons_self)).mpr htint
          simp at hs
  | cons s runs ih =>
      cases others with
      | nil =>
          obtain ⟨a, -, hfirst, hlast, htint⟩ := hleft.exists_start List.mem_cons_self
          obtain ⟨t, ht, -⟩ := (hright.covers_iff a hfirst hlast s.tint
            (hleft.tinted s List.mem_cons_self)).mpr htint
          simp at ht
      | cons t others =>
          have hhead := hleft.head_eq hright
          subst hhead
          rw [ih hleft.tail hright.tail]

end RunForm

namespace Highlight

/-! ## Collapsing finds the run form -/

theorem segmentOf_runForm {tintOf : Nat → Tint} {start stop : Nat} {tint : Tint}
    (hlt : start < stop) (hrun : ∀ offset, start ≤ offset → offset < stop → tintOf offset = tint) :
    RunForm start stop tintOf (segmentOf start stop tint) := by
  unfold segmentOf
  by_cases hnone : tint = .none
  · rw [if_pos hnone]
    constructor <;> simp
    intro offset hfirst hlast other hother heq
    exact hother (by rw [← heq, hrun offset hfirst hlast, hnone])
  · rw [if_neg hnone]
    constructor
    · simpa using hlt
    · simp
    · simpa using hnone
    · simp
    · intro offset hfirst hlast other hother
      rw [hrun offset hfirst hlast]
      simp [Segment.Covers, hfirst, hlast]

/-- The run that is being read reaches up to `stop`; what follows is `rest`. -/
theorem collapseRun_runForm {tintOf : Nat → Tint} {start stop : Nat} {tint : Tint}
    {rest : List Tint} (hlt : start < stop)
    (hrun : ∀ offset, start ≤ offset → offset < stop → tintOf offset = tint)
    (hrest : ∀ k (_ : k < rest.length), tintOf (stop + k) = rest[k]) :
    RunForm start (stop + rest.length) tintOf (collapseRun start stop tint rest) := by
  induction rest generalizing start stop tint with
  | nil => exact segmentOf_runForm hlt hrun
  | cons next rest ih =>
      have hnext : tintOf stop = next := hrest 0 (by simp)
      have htail : ∀ k (_ : k < rest.length), tintOf (stop + 1 + k) = rest[k] := by
        intro k hk
        have h := hrest (k + 1) (by simpa using hk)
        rw [show stop + 1 + k = stop + (k + 1) by omega]
        simpa using h
      have hlength : stop + (next :: rest).length = stop + 1 + rest.length := by
        simp
        omega
      rw [collapseRun, hlength]
      by_cases hsame : next = tint
      · rw [if_pos hsame]
        apply ih (by omega) ?_ htail
        intro offset hfirst hlast
        by_cases hstop : offset = stop
        · rw [hstop, hnext, hsame]
        · exact hrun offset hfirst (by omega)
      · rw [if_neg hsame]
        apply (segmentOf_runForm hlt hrun).append _ (by omega) (by omega)
        · rw [hrun (stop - 1) (by omega) (by omega), hnext]
          exact fun h => hsame h.symm
        · apply ih (by omega) ?_ htail
          intro offset hfirst hlast
          rw [show offset = stop by omega, hnext]

/-- The segments that `collapse` gives are the maximal runs. -/
theorem collapse_runForm (painted : List Tint) :
    RunForm 0 painted.length (fun offset => painted.getD offset .none) (collapse painted) := by
  cases painted with
  | nil => exact RunForm.nil_of_le (by simp)
  | cons tint rest =>
      rw [collapse, List.length_cons, Nat.add_comm]
      apply collapseRun_runForm (by omega)
      · intro offset hfirst hlast
        rw [show offset = 0 by omega]
        rfl
      · intro k hk
        rw [show 1 + k = k + 1 by omega]
        simp [hk]

end Highlight

end HeaderAudit
