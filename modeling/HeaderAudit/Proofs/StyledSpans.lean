import HeaderAudit.Proofs.Colouring
import HeaderAudit.Report.StyledLine
import Mathlib.Data.List.Forall2

/-!
# Styles over the segments of a line

The segments of a line are found in the line as it came, and their styles are laid by the same
offsets over what is shown of it, which lacks the control characters.  So a style lies over its
segment exactly if no character that is left out stands in front of the end of the segment.  Behind
such a character every style lies too far to the right, or is cut off by the end of the text.
-/

namespace HeaderAudit

open Console.Markup (isShown shown)

/-! ## Characters and their places -/

namespace Text

/-- The characters that are shown of a line, each with its place in the line. -/
def shownPlaces (line : Text) : List (Char × Nat) := line.zipIdx.filter fun place => isShown place.1

theorem map_fst_shownPlaces (line : Text) : (shownPlaces line).map Prod.fst = shown line := by
  have hfilter : (line.zipIdx.map Prod.fst).filter isShown =
      (line.zipIdx.filter (isShown ∘ Prod.fst)).map Prod.fst := List.filter_map
  rw [List.zipIdx_map_fst] at hfilter
  exact hfilter.symm

/-- What is left out moves everything behind it to the left, so a character that has kept its place
has nothing in front of it that is left out. -/
theorem place_of_getElem?_filter {line : Text} {first i place : Nat} {c : Char}
    (hget : ((line.zipIdx first).filter fun place => isShown place.1)[i]? = some (c, place)) :
    first + i ≤ place ∧ (place = first + i → ∀ d ∈ line.take (i + 1), isShown d = true) := by
  induction line generalizing first i with
  | nil => simp at hget
  | cons d rest ih =>
      rw [List.zipIdx_cons, List.filter_cons] at hget
      by_cases hd : isShown d = true
      · rw [if_pos hd] at hget
        cases i with
        | zero =>
            simp only [List.getElem?_cons_zero, Option.some.injEq, Prod.mk.injEq] at hget
            simp [hd, hget.2]
        | succ i =>
            obtain ⟨hle, hkept⟩ := ih (by simpa using hget)
            refine ⟨by omega, ?_⟩
            intro hplace
            rw [List.take_succ_cons, List.forall_mem_cons]
            exact ⟨hd, hkept (by omega)⟩
      · rw [if_neg hd] at hget
        have hle := (ih hget).1
        exact ⟨by omega, fun hplace => by omega⟩

theorem take_filter_of_forall {α : Type} {p : α → Bool} {items : List α} {count : Nat}
    (hitems : ∀ item ∈ items.take count, p item = true) :
    (items.filter p).take count = items.take count := by
  induction items generalizing count with
  | nil => rfl
  | cons item rest ih =>
      cases count with
      | zero => rfl
      | succ count =>
          rw [List.take_succ_cons, List.forall_mem_cons] at hitems
          rw [List.filter_cons_of_pos hitems.1, List.take_succ_cons, List.take_succ_cons,
            ih hitems.2]

end Text

/-! ## Segments and spans -/

/-- What stands under a segment. -/
def Segment.part {α : Type} (s : Segment) (items : List α) : List α :=
  (items.take s.stop.toNat).drop s.start.toNat

/-- What stands under a span. -/
def StyledSpan.part {α : Type} (span : StyledSpan) (items : List α) : List α :=
  (items.take span.stop).drop span.start

/-- The span has the style of the segment, and under it is shown the text of the segment, which are
the very characters of the line at these places. -/
structure Segment.ShownUnder (line : Text) (s : Segment) (span : StyledSpan) : Prop where
  style : s.tint.segmentStyle? = some span.style
  text : span.part (shown line) = s.part line
  places : span.part (Text.shownPlaces line) = s.part line.zipIdx

/-- No character that is left out stands in front of the end of the segment. -/
def Segment.Undisturbed (line : Text) (s : Segment) : Prop :=
  ∀ c ∈ line.take s.stop.toNat, isShown c = true

namespace Segment

variable {line : Text} {s : Segment} {span : StyledSpan} {length : Nat}

theorem span?_eq_some_iff :
    s.span? length = some span ↔
      s.tint.segmentStyle? = some span.style ∧ 0 ≤ s.start ∧ s.start < s.stop ∧
        s.start < length ∧ span.start = s.start.toNat ∧ span.stop = min length s.stop.toNat := by
  obtain ⟨start, stop, style⟩ := span
  rw [span?]
  cases s.tint.segmentStyle? with
  | none => simp
  | some found =>
      rw [Option.bind_eq_bind, Option.bind_some]
      by_cases hinside : 0 ≤ s.start ∧ s.start < s.stop ∧ s.start < length
      · rw [if_pos hinside]
        constructor
        · intro hspan
          cases hspan
          exact ⟨rfl, hinside.1, hinside.2.1, hinside.2.2, rfl, rfl⟩
        · rintro ⟨hstyle, -, -, -, hstart, hstop⟩
          cases hstyle
          subst hstart hstop
          rfl
      · rw [if_neg hinside]
        constructor
        · intro hnone
          cases hnone
        · rintro ⟨-, hstart, hstop, hlength, -⟩
          exact absurd ⟨hstart, hstop, hlength⟩ hinside

theorem exists_segmentStyle? (htint : s.tint ≠ .none) :
    ∃ style, s.tint.segmentStyle? = some style := by
  cases h : s.tint with
  | none => exact absurd h htint
  | _ => exact ⟨_, rfl⟩

theorem Undisturbed.take_shownPlaces (hline : s.Undisturbed line) :
    (Text.shownPlaces line).take s.stop.toNat = line.zipIdx.take s.stop.toNat := by
  apply Text.take_filter_of_forall
  intro place hplace
  have hmem := List.mem_map_of_mem (f := Prod.fst) hplace
  rw [List.map_take, List.zipIdx_map_fst] at hmem
  exact hline place.1 hmem

theorem Undisturbed.take_shown (hline : s.Undisturbed line) :
    (shown line).take s.stop.toNat = line.take s.stop.toNat := by
  have hplaces := congrArg (List.map Prod.fst) hline.take_shownPlaces
  rwa [List.map_take, List.map_take, Text.map_fst_shownPlaces, List.zipIdx_map_fst] at hplaces

theorem Undisturbed.stop_le_length (hwithin : s.Within line.length)
    (hline : s.Undisturbed line) : s.stop.toNat ≤ (shown line).length := by
  have hlength := congrArg List.length hline.take_shown
  have hstop := hwithin.stop_le
  rw [List.length_take, List.length_take] at hlength
  omega

/-- A segment with nothing left out in front of its end is shown under its span. -/
theorem Undisturbed.exists_span (hwithin : s.Within line.length) (hline : s.Undisturbed line) :
    ∃ span, s.span? (shown line).length = some span ∧ s.ShownUnder line span := by
  obtain ⟨style, hstyle⟩ := exists_segmentStyle? hwithin.tinted
  have hlength := hline.stop_le_length hwithin
  have hstart := hwithin.start_nonneg
  have hstop := hwithin.start_lt_stop
  have hends : min (shown line).length s.stop.toNat = s.stop.toNat := by omega
  refine ⟨⟨s.start.toNat, s.stop.toNat, style⟩, ?_, hstyle, ?_, ?_⟩
  · rw [span?_eq_some_iff]
    exact ⟨hstyle, hstart, hstop, by omega, rfl, hends.symm⟩
  · rw [StyledSpan.part, part, hline.take_shown]
  · rw [StyledSpan.part, part, hline.take_shownPlaces]

/-- The last character of a segment that is shown under its span has kept its place. -/
theorem ShownUnder.undisturbed (hwithin : s.Within line.length)
    (hspan : s.span? (shown line).length = some span) (hshown : s.ShownUnder line span) :
    s.Undisturbed line := by
  obtain ⟨-, hstart, hstop, -, hspanStart, hspanStop⟩ := span?_eq_some_iff.mp hspan
  have hstopLe := hwithin.stop_le
  obtain ⟨last, hlast⟩ : ∃ last : Nat, s.stop.toNat = last + 1 := ⟨s.stop.toNat - 1, by omega⟩
  -- The places say which characters are under the span: the text alone may occur elsewhere too.
  have hget : (s.part line.zipIdx)[last - s.start.toNat]? =
      some (line.get ⟨last, by omega⟩, last) := by
    rw [part, List.getElem?_drop, List.getElem?_take_of_lt (by omega), List.getElem?_zipIdx]
    simp [show s.start.toNat + (last - s.start.toNat) = last by omega]
  rw [← hshown.places, StyledSpan.part, List.getElem?_drop, hspanStart,
    show s.start.toNat + (last - s.start.toNat) = last by omega, List.getElem?_take] at hget
  split at hget
  · obtain ⟨-, hkept⟩ := Text.place_of_getElem?_filter hget
    rw [Undisturbed, hlast]
    exact hkept (by omega)
  · cases hget

end Segment

/-! ## The lines of a report -/

theorem forall₂_filterMap_iff {α β : Type} {R : α → β → Prop} {f : α → Option β}
    {items : List α} :
    List.Forall₂ R items (items.filterMap f) ↔ ∀ item ∈ items, ∃ b, f item = some b ∧ R item b := by
  induction items with
  | nil => simp
  | cons item rest ih =>
      rw [List.forall_mem_cons, ← ih]
      cases hitem : f item with
      | none =>
          rw [List.filterMap_cons_none hitem]
          constructor
          · intro hall
            have hlength := hall.length_eq
            have hle := List.length_filterMap_le f rest
            rw [List.length_cons] at hlength
            omega
          · rintro ⟨⟨b, hb, -⟩, -⟩
            cases hb
      | some b => simp [List.filterMap_cons_some hitem]

namespace Report

variable {outcomes : List Outcome} {line : Text}

theorem colour_text (outcomes : List Outcome) (line : Text) :
    (colour outcomes line).text = line := by
  rw [colour]
  cases outcomes.find? (·.check.owns line) <;> rfl

theorem within_of_mem_segments {s : Segment} (hs : s ∈ (colour outcomes line).segments) :
    s.Within line.length := by
  rw [colour] at hs
  cases hfound : outcomes.find? (·.check.owns line) with
  | none => simp [hfound] at hs
  | some o =>
      have howns : o.check.owns line = true := by simpa using List.find?_some hfound
      rw [hfound] at hs
      simp only [Check.segments, Highlight.segments, if_pos howns] at hs
      exact (Highlight.collapse_tints_runForm o.check.patterns line).within hs

/-- Every segment of a coloured line has its span, in its colour and over its text, exactly if no
character that is left out stands in front of the end of a segment. -/
theorem segments_are_shown_under_spans_iff (outcomes : List Outcome) (line : Text) :
    List.Forall₂ (Segment.ShownUnder line) (colour outcomes line).segments
        (colour outcomes line).styled.spans ↔
      ∀ s ∈ (colour outcomes line).segments, s.Undisturbed line := by
  rw [ColouredLine.styled, colour_text, forall₂_filterMap_iff]
  apply forall₂_congr
  intro s hs
  have hwithin := within_of_mem_segments hs
  constructor
  · rintro ⟨span, hspan, hshown⟩
    exact hshown.undisturbed hwithin hspan
  · intro hline
    exact hline.exists_span hwithin

end Report

namespace Bell

def line : Text := "Set-Cookie: a=1\x07; Secure"

def report : Report := Analysis.analyze ⟨[line], none⟩ Check.builtins none none none

/-- The bell is not shown, so that the colour of the flag lies one character too far to the right. -/
theorem colour_misses_first_letter :
    report.lines.map (·.segments) = [[⟨18, 24, .green⟩]] ∧
      report.lines.map (·.styled.spans) = [[⟨18, 23, "bold green"⟩]] ∧
      Segment.part ⟨18, 24, .green⟩ line = "Secure".toList ∧
      StyledSpan.part ⟨18, 23, "bold green"⟩ (shown line) = "ecure".toList := by
  decide +kernel

end Bell

end HeaderAudit
