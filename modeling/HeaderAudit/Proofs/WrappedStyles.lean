import HeaderAudit.Console.Paint

/-!
# Styles of lines

Breaking a text into lines cuts, moves and drops its spans, and makes no new styles.  So whatever
holds of the styles of a text holds of the styles of its lines, and if all of them can be looked up
the lines can be painted.
-/

namespace HeaderAudit

variable {P : Text → Prop} {spans : List StyledSpan} {span : StyledSpan}

/-- The styles of all spans are of this kind. -/
def StylesWithin (P : Text → Prop) (spans : List StyledSpan) : Prop := ∀ span ∈ spans, P span.style

namespace StyledSpan

theorem style_of_within? {first last : Nat} {part : StyledSpan}
    (hpart : span.within? first last = some part) : part.style = span.style := by
  simp only [within?, Option.ite_none_right_eq_some, Option.some.injEq] at hpart
  rw [← hpart.2]

theorem style_of_cropped? {length : Nat} {part : StyledSpan}
    (hpart : span.cropped? length = some part) : part.style = span.style := by
  simp only [cropped?, Option.ite_none_right_eq_some, Option.some.injEq] at hpart
  rw [← hpart.2]

theorem mem_insert_iff {s : StyledSpan} : span ∈ s.insert spans ↔ span = s ∨ span ∈ spans := by
  induction spans with
  | nil => simp [insert]
  | cons t rest ih =>
      rw [insert]
      split
      · simp
      · simp only [List.mem_cons, ih]
        exact or_left_comm

theorem mem_sorted_iff : span ∈ sorted spans ↔ span ∈ spans := by
  induction spans with
  | nil => exact Iff.rfl
  | cons s rest ih => rw [sorted, List.foldr_cons, mem_insert_iff, ← sorted, ih, List.mem_cons]

end StyledSpan

namespace StylesWithin

theorem filterMap {f : StyledSpan → Option StyledSpan}
    (hf : ∀ old part, f old = some part → part.style = old.style) (hspans : StylesWithin P spans) :
    StylesWithin P (spans.filterMap f) := by
  intro part hpart
  obtain ⟨old, hold, hcut⟩ := List.mem_filterMap.mp hpart
  rw [hf old part hcut]
  exact hspans old hold

theorem move (hspans : StylesWithin P spans) (place : Nat → Nat) :
    StylesWithin P (spans.map (·.move place)) := by
  intro part hpart
  obtain ⟨old, hold, rfl⟩ := List.mem_map.mp hpart
  exact hspans old hold

end StylesWithin

namespace Console

variable {s line : Styled}

namespace Styled

theorem stylesWithin_of_mem_piecesFrom {offset gap : Nat} {pieces : List Text}
    (hspans : StylesWithin P spans) (hline : line ∈ piecesFrom offset gap spans pieces) :
    StylesWithin P line.spans := by
  induction pieces generalizing offset with
  | nil => cases hline
  | cons piece rest ih =>
      rcases List.mem_cons.mp hline with rfl | hline
      · exact hspans.filterMap fun _ _ => StyledSpan.style_of_within?
      · exact ih hline

theorem stylesWithin_of_mem_cut {gap : Nat} {pieces : List Text} (hs : StylesWithin P s.spans)
    (hline : line ∈ s.cut gap pieces) : StylesWithin P line.spans := by
  unfold cut at hline
  split at hline
  · rw [List.mem_singleton.mp hline]
    exact hs
  · exact stylesWithin_of_mem_piecesFrom hs hline

theorem stylesWithin_retext (hs : StylesWithin P s.spans) (f : Text → Text) :
    StylesWithin P (s.retext f).spans := by
  rw [retext]
  dsimp only
  split
  · exact hs.filterMap fun _ _ => StyledSpan.style_of_cropped?
  · exact hs

theorem stylesWithin_behind (hs : StylesWithin P s.spans) (before : Text) :
    StylesWithin P (s.behind before).spans := hs.move _

end Styled

namespace Wrap

variable {room : Nat} {justify : Justify} {overflow : Overflow}

theorem stylesWithin_expandStyled (hs : StylesWithin P s.spans) :
    StylesWithin P (expandStyled s).spans := by
  rw [expandStyled]
  split
  · exact StylesWithin.move (fun span hspan => hs span (List.mem_filter.mp hspan).1) _
  · exact hs

theorem stylesWithin_finishLine (hs : StylesWithin P s.spans) :
    StylesWithin P (finishLine room justify overflow s).spans := by
  have htrimmed := Styled.stylesWithin_retext hs (trimEnd room)
  cases justify with
  | natural => exact Styled.stylesWithin_retext htrimmed _
  | left => exact Styled.stylesWithin_retext (Styled.stylesWithin_retext htrimmed _) _
  | center =>
      have hcut := Styled.stylesWithin_retext (Styled.stylesWithin_retext htrimmed Text.stripRight)
        (cutLine room overflow)
      exact Styled.stylesWithin_retext (Styled.stylesWithin_behind hcut _) _

/-- Breaking a text into lines makes no styles. -/
theorem stylesWithin_of_mem_lines (hs : StylesWithin P s.spans)
    (hline : line ∈ lines room justify overflow s) : StylesWithin P line.spans := by
  obtain ⟨whole, hwhole, hline⟩ := List.mem_flatMap.mp hline
  obtain ⟨piece, hpiece, rfl⟩ := List.mem_map.mp hline
  have hwhole := stylesWithin_expandStyled (Styled.stylesWithin_of_mem_cut hs hwhole)
  exact stylesWithin_finishLine (Styled.stylesWithin_of_mem_cut hwhole hpiece)

end Wrap

/-! ## Painting -/

/-- The style can be looked up. -/
def CanLookUp (style : Text) : Prop := styleFault? style = none

variable {lines : List Styled}

theorem exists_paint_iff :
    (∃ texts, paint lines = .ok texts) ↔ ∀ line ∈ lines, StylesWithin CanLookUp line.spans := by
  have hfaulty : faultyStyle? lines = none ↔ ∀ line ∈ lines, StylesWithin CanLookUp line.spans := by
    simp only [faultyStyle?, List.findSome?_eq_none_iff, List.mem_flatMap, StylesWithin, CanLookUp]
    exact ⟨fun h line hline span hspan => h span ⟨line, hline, hspan⟩,
      fun h span ⟨line, hline, hspan⟩ => h line hline span hspan⟩
  rw [← hfaulty, paint]
  cases faultyStyle? lines <;> simp

theorem exists_paint_lines {room : Nat} {justify : Justify} {overflow : Overflow}
    (hs : StylesWithin CanLookUp s.spans) :
    ∃ texts, paint (Wrap.lines room justify overflow s) = .ok texts :=
  exists_paint_iff.mpr fun _ hline => Wrap.stylesWithin_of_mem_lines hs hline

end Console

end HeaderAudit
