import HeaderAudit.Proofs.EmojiNames
import HeaderAudit.Proofs.JsonSpelling
import Mathlib.Tactic.ByContra

/-!
# Printed texts read back

A text in a JSON document is printed with pictures in place of the names of emoji.  Nothing that is
written for a character has a colon but the colon, so that the names are pieces of the text between
two colons.  Whatever the pictures are, the printed text is read back as a text, and as the same one
exactly if the name of no picture stands in what is written for it.
-/

namespace HeaderAudit

namespace Json

open Console.Emoji (Pictures nameBeforeColon? replaceWith namesIn ofName?)

/-! ## Colons in what is written -/

theorem colon_not_mem_escapeChar {c : Char} (hc : c ≠ ':') : ':' ∉ escapeChar c := by
  have hall : ∀ d ∈ escapeChar c, d ≠ ':' :=
    (escapes_escapeChar c).forall_mem (by simp) (by decide) fun _ => hc
  exact fun hmem => hall ':' hmem rfl

theorem colon_not_mem_escape {t : Text} (ht : ':' ∉ t) : ':' ∉ t.flatMap escapeChar := by
  intro hmem
  obtain ⟨c, hc, hcolon⟩ := List.mem_flatMap.mp hmem
  exact colon_not_mem_escapeChar (ne_of_mem_of_not_mem hc ht) hcolon

theorem escapeChar_colon : escapeChar ':' = [':'] := by decide

/-- A name in what is written for a text is what is written for a piece of the text. -/
theorem exists_piece_of_name {t name : Text}
    (hname : nameBeforeColon? (t.flatMap escapeChar) = some name) :
    ∃ piece rest, t = piece ++ ':' :: rest ∧ name = piece.flatMap escapeChar := by
  obtain ⟨hnot, behind, hwritten⟩ := Console.Emoji.eq_append_of_nameBeforeColon? hname
  have hmem : ':' ∈ t := by
    by_contra hnone
    exact colon_not_mem_escape hnone (by simp [hwritten])
  obtain ⟨piece, rest, rfl, hpiece⟩ := List.eq_append_cons_of_mem hmem
  refine ⟨piece, rest, rfl, ?_⟩
  have hcut := Text.cut_append hnot behind
  rw [← hwritten, List.flatMap_append, List.flatMap_cons, escapeChar_colon,
    List.singleton_append, Text.cut_append (colon_not_mem_escape hpiece)] at hcut
  exact (congrArg Prod.fst hcut).symm

/-- A text by the names in what is written for it. -/
theorem written_induction {motive : Text → Prop} (nil : motive [])
    (char : ∀ c rest, c ≠ ':' → motive rest → motive (c :: rest))
    (colon : ∀ rest, nameBeforeColon? (rest.flatMap escapeChar) = none →
      motive rest → motive (':' :: rest))
    (name : ∀ piece rest,
      nameBeforeColon? (piece.flatMap escapeChar ++ ':' :: rest.flatMap escapeChar) =
        some (piece.flatMap escapeChar) →
      motive rest → motive (':' :: (piece ++ ':' :: rest))) (t : Text) : motive t := by
  induction hlength : t.length using Nat.strongRecOn generalizing t with
  | _ n ih =>
    cases t with
    | nil => exact nil
    | cons c rest =>
        rw [List.length_cons] at hlength
        have hrest : motive rest := ih rest.length (by omega) rest rfl
        by_cases hc : c = ':'
        · subst hc
          cases hname : nameBeforeColon? (rest.flatMap escapeChar) with
          | none => exact colon rest hname hrest
          | some found =>
              obtain ⟨piece, behind, rfl, rfl⟩ := exists_piece_of_name hname
              rw [List.flatMap_append, List.flatMap_cons, escapeChar_colon,
                List.singleton_append] at hname
              rw [List.length_append, List.length_cons] at hlength
              exact name piece behind hname (ih behind.length (by omega) behind rfl)
        · exact char c rest hc hrest

/-! ## Texts behind the pictures -/

/-- The pictures have only characters that stand for themselves in JSON, and no colon. -/
def Legible (pictures : Pictures) : Prop :=
  ∀ name picture, pictures name = some picture →
    ∀ c ∈ picture, 0x20 ≤ c.toNat ∧ c ≠ '"' ∧ c ≠ '\\' ∧ c ≠ ':'

variable {pictures : Pictures}

theorem Legible.ofName? (hlegible : Legible pictures) {name picture : Text}
    (hpicture : ofName? pictures name = some picture) :
    ∀ c ∈ picture, 0x20 ≤ c.toNat ∧ c ≠ '"' ∧ c ≠ '\\' ∧ c ≠ ':' := by
  have hmarks : ∀ variant ∈ Console.Emoji.variants,
      0x20 ≤ variant.2.toNat ∧ variant.2 ≠ '"' ∧ variant.2 ≠ '\\' ∧ variant.2 ≠ ':' := by decide
  rw [Console.Emoji.ofName?] at hpicture
  split at hpicture
  · next ending mark hfound =>
    obtain ⟨plain, hplain, rfl⟩ := Option.map_eq_some_iff.mp hpicture
    rw [List.forall_mem_append, List.forall_mem_singleton]
    exact ⟨hlegible _ plain hplain, hmarks _ (List.mem_of_find?_eq_some hfound)⟩
  · exact hlegible _ picture hpicture

/-- The text is written without the name of a picture. -/
def Unpictured (pictures : Pictures) (t : Text) : Prop :=
  ∀ name ∈ namesIn (writeText t), ofName? pictures name = none

instance (pictures : Pictures) (t : Text) : Decidable (Unpictured pictures t) :=
  inferInstanceAs (Decidable (∀ name ∈ namesIn (writeText t), ofName? pictures name = none))

theorem unpictured_iff {t : Text} :
    Unpictured pictures t ↔
      ∀ name ∈ namesIn (t.flatMap escapeChar), ofName? pictures name = none := by
  have hnames : namesIn (writeText t) = namesIn (t.flatMap escapeChar) := by
    rw [writeText, Console.Emoji.namesIn_append rfl]
    exact (List.append_nil _).trans
      (Console.Emoji.namesIn_append_of_not_mem (u := ['"']) (by decide) _)
  rw [Unpictured, hnames]

/-- A printed text is read back, and every picture takes two colons away. -/
theorem exists_spelt (hlegible : Legible pictures) (t : Text) :
    ∃ seen, Spells (replaceWith pictures (t.flatMap escapeChar)) seen ∧
      seen.count ':' ≤ t.count ':' ∧ (seen = t ↔ Unpictured pictures t) := by
  simp only [unpictured_iff]
  induction t using written_induction with
  | nil => exact ⟨[], spells_nil, Nat.le_refl 0, by simp [namesIn, Console.Emoji.parts,
      Console.Emoji.partsFrom]⟩
  | char c rest hc ih =>
      obtain ⟨seen, hspells, hcount, hsame⟩ := ih
      refine ⟨c :: seen, ?_, ?_, ?_⟩
      · rw [List.flatMap_cons, Console.Emoji.replaceWith_append_of_not_mem
          (colon_not_mem_escapeChar hc)]
        exact (spells_escapeChar c).append hspells
      · simpa [hc] using hcount
      · rw [List.flatMap_cons, Console.Emoji.namesIn_append_of_not_mem
          (colon_not_mem_escapeChar hc), List.cons_inj_right, hsame]
  | colon rest hnone ih =>
      obtain ⟨seen, hspells, hcount, hsame⟩ := ih
      refine ⟨':' :: seen, ?_, ?_, ?_⟩
      · rw [List.flatMap_cons, escapeChar_colon, List.singleton_append,
          Console.Emoji.replaceWith_colon hnone]
        exact (spells_escapeChar ':').append hspells
      · simpa using hcount
      · rw [List.flatMap_cons, escapeChar_colon, List.singleton_append,
          Console.Emoji.namesIn_colon hnone, List.cons_inj_right, hsame]
  | name piece rest hname ih =>
      obtain ⟨seen, hspells, hcount, hsame⟩ := ih
      have hwritten : (':' :: (piece ++ ':' :: rest)).flatMap escapeChar =
          ':' :: (piece.flatMap escapeChar ++ ':' :: rest.flatMap escapeChar) := by
        simp [List.flatMap_append, List.flatMap_cons, escapeChar_colon]
      rw [hwritten, Console.Emoji.replaceWith_name hname, Console.Emoji.namesIn_name hname]
      rw [List.forall_mem_cons]
      cases hpicture : ofName? pictures (piece.flatMap escapeChar) with
      | none =>
          have hspelt : Spells (':' :: piece.flatMap escapeChar ++ [':'])
              (':' :: piece ++ [':']) := by
            have hcolon := spells_escapeChar ':'
            exact (hcolon.append (spells_escape piece)).append hcolon
          refine ⟨':' :: piece ++ [':'] ++ seen, hspelt.append hspells, ?_, ?_⟩
          · simp [List.count_append]
            omega
          · simp [hsame]
      | some picture =>
          have hsigns := hlegible.ofName? hpicture
          have hspelt : Spells picture picture :=
            spells_literal fun c hc => ⟨(hsigns c hc).2.1, (hsigns c hc).2.2.1,
              (hsigns c hc).1⟩
          have hcolons : (picture ++ seen).count ':' <
              (':' :: (piece ++ ':' :: rest)).count ':' := by
            have hnone : picture.count ':' = 0 :=
              List.count_eq_zero.mpr fun hmem => (hsigns ':' hmem).2.2.2 rfl
            simp [List.count_append, hnone]
            omega
          refine ⟨picture ++ seen, hspelt.append hspells, Nat.le_of_lt hcolons, ?_⟩
          constructor
          · intro heq
            rw [heq] at hcolons
            exact absurd hcolons (Nat.lt_irrefl _)
          · rintro ⟨hunknown, -⟩
            cases hunknown

end Json

end HeaderAudit
