import HeaderAudit.Proofs.EmojiNames
import HeaderAudit.Proofs.ShownMarkup

/-!
# Texts that are no markup

A text that is given as a markup is shown as it is exactly if no bracket of it begins a tag or stands
behind a backslash.  That nothing else will do follows by counting: what is shown of a markup has
never more brackets and backslashes than the markup, and it has fewer as soon as a tag or a
backslash is taken for markup.  Names of emoji and control characters do not enter the count, as
long as neither the names nor the pictures have brackets and backslashes.
-/

namespace HeaderAudit

/-! ## Brackets and backslashes -/

namespace Text

def isMark (c : Char) : Bool := c = '[' || c = '\\'

/-- How many opening brackets and backslashes there are. -/
def marks (t : Text) : Nat := t.countP isMark

variable {t : Text}

@[simp] theorem marks_nil : marks [] = 0 := rfl

@[simp] theorem marks_cons (c : Char) (t : Text) :
    marks (c :: t) = marks t + if isMark c then 1 else 0 := List.countP_cons

@[simp] theorem marks_append (t u : Text) : marks (t ++ u) = marks t + marks u :=
  List.countP_append

theorem marks_eq_zero_iff : marks t = 0 ↔ ∀ c ∈ t, isMark c = false := by
  simp [marks, List.countP_eq_zero]

theorem lowerChar_of_isMark {c : Char} (hc : isMark c = true) : lowerChar c = [c] := by
  have hcases : c = '[' ∨ c = '\\' := by simpa [isMark] using hc
  rcases hcases with rfl | rfl <;> decide

theorem mem_lowerAfter_of_isMark {c : Char} (hmark : isMark c = true) (hc : c ∈ t)
    (before : Text) : c ∈ lowerAfter before t := by
  induction t generalizing before with
  | nil => cases hc
  | cons d rest ih =>
      rw [lowerAfter, List.mem_append]
      rcases List.mem_cons.mp hc with rfl | hc
      · have hsigma : c ≠ 'Σ' := by
          rintro rfl
          exact absurd hmark (by decide)
        rw [if_neg hsigma, lowerChar_of_isMark hmark]
        exact .inl List.mem_cons_self
      · exact .inr (ih hc _)

/-- Brackets and backslashes have no other case. -/
theorem marks_eq_zero_of_lower (hlower : marks (lower t) = 0) : marks t = 0 := by
  rw [marks_eq_zero_iff] at hlower ⊢
  intro c hc
  by_contra hmark
  rw [Bool.not_eq_false] at hmark
  have hmem : c ∈ lower t := mem_lowerAfter_of_isMark hmark hc []
  simp [hlower c hmem] at hmark

end Text

open Text (isMark marks)

namespace Console

namespace Emoji

variable {t name picture : Text}

/-- No name and no picture has an opening bracket or a backslash. -/
def Unmarked (pictures : Pictures) : Prop :=
  ∀ name picture, pictures name = some picture → marks name = 0 ∧ marks picture = 0

variable {pictures : Pictures}

theorem marks_of_ofName? (hpictures : Unmarked pictures)
    (hpicture : ofName? pictures name = some picture) : marks name = 0 ∧ marks picture = 0 := by
  have hvariants : ∀ entry ∈ variants, marks entry.1 = 0 ∧ marks [entry.2] = 0 := by
    simp only [variants, List.forall_mem_cons]
    decide
  rw [ofName?] at hpicture
  split at hpicture
  · next ending mark hfind =>
    obtain ⟨hending, hmark⟩ : marks ending = 0 ∧ marks [mark] = 0 :=
      hvariants (ending, mark) (List.mem_of_find?_eq_some hfind)
    have hsuffix : ending <:+ name := by simpa using List.find?_some hfind
    obtain ⟨base, rfl⟩ := hsuffix
    obtain ⟨plain, hplain, rfl⟩ := Option.map_eq_some_iff.mp hpicture
    rw [List.length_append, Nat.add_sub_cancel, List.take_left] at hplain
    obtain ⟨hlower, hshown⟩ := hpictures _ _ hplain
    have hbase := Text.marks_eq_zero_of_lower hlower
    rw [Text.marks_append, Text.marks_append]
    exact ⟨by omega, by omega⟩
  · obtain ⟨hlower, hshown⟩ := hpictures _ _ hpicture
    exact ⟨Text.marks_eq_zero_of_lower hlower, hshown⟩

theorem marks_replaceWith (hpictures : Unmarked pictures) (t : Text) :
    marks (replaceWith pictures t) = marks t := by
  induction t using naming_induction with
  | nil => rfl
  | char c rest hc ih => rw [replaceWith_cons_of_ne hc, Text.marks_cons, Text.marks_cons, ih]
  | colon rest hnone ih => rw [replaceWith_colon hnone, Text.marks_cons, Text.marks_cons, ih]
  | name found behind hname ih =>
      rw [replaceWith_name hname, Text.marks_append, ih]
      cases hpicture : ofName? pictures found with
      | some picture =>
          obtain ⟨hfound, hshown⟩ := marks_of_ofName? hpictures hpicture
          simp [hfound, hshown, isMark]
      | none => simp [isMark]

end Emoji

namespace Markup

variable {library : Library} {t : Text} {ls : List Lexeme}

theorem marks_shown (t : Text) : marks (shown t) = marks t := by
  have hshown : ∀ c, isMark c = true → isShown c = true := by
    intro c hc
    have hcases : c = '[' ∨ c = '\\' := by simpa [isMark] using hc
    rcases hcases with rfl | rfl <;> decide
  rw [marks, shown, List.countP_filter, marks]
  congr
  funext c
  cases hc : isMark c with
  | false => rfl
  | true => simp [hshown c hc]

/-! ## Texts without tags -/

/-- No bracket of the text begins a tag, and none stands behind a backslash. -/
structure Literal (t : Text) : Prop where
  untagged : ∀ before behind, t = before ++ '[' :: behind → tagBody? behind = none
  unslashed : ∀ before behind, t ≠ before ++ '\\' :: '[' :: behind

/-- A markup whose brackets begin no tags is taken apart into its characters. -/
theorem lexemesFrom_of_untagged
    (ht : ∀ before behind, t = before ++ '[' :: behind → tagBody? behind = none) (count : Nat) :
    lexemesFrom count 0 t = slashChars count ++ t.map .char := by
  induction t generalizing count with
  | nil => simp [lexemesFrom_nil]
  | cons c rest ih =>
      have hrest := ih fun before behind hsplit => ht (c :: before) behind (by simp [hsplit])
      by_cases hslash : c = '\\'
      · subst hslash
        rw [lexemesFrom_slash, hrest, slashChars_succ]
        simp
      · by_cases hopen : c = '['
        · subst hopen
          rw [lexemesFrom_open (ht [] rest rfl), hrest 0]
          rfl
        · rw [lexemesFrom_char hslash hopen, hrest 0]
          rfl

/-- Conversely a bracket that begins a tag is read as one, unless it stands in a tag itself. -/
theorem untagged_of_lexemesFrom {count : Nat}
    (hchars : ∀ l ∈ lexemesFrom count 0 t, ∃ c, l = .char c) {before behind : Text}
    (hsplit : t = before ++ '[' :: behind) : tagBody? behind = none := by
  induction t generalizing count before with
  | nil => simp at hsplit
  | cons c rest ih =>
      by_cases hslash : c = '\\'
      · subst hslash
        rw [lexemesFrom_slash] at hchars
        cases before with
        | nil => simp at hsplit
        | cons d before => exact ih hchars (List.cons.inj hsplit).2
      · by_cases hopen : c = '['
        · subst hopen
          cases htag : tagBody? rest with
          | some body =>
              rw [lexemesFrom_tag htag] at hchars
              obtain ⟨c, hc⟩ := hchars _ List.mem_cons_self
              cases hc
          | none =>
              rw [lexemesFrom_open htag, List.forall_mem_append, List.forall_mem_cons] at hchars
              cases before with
              | nil =>
                  obtain rfl := (List.cons.inj hsplit).2
                  exact htag
              | cons d before => exact ih hchars.2.2 (List.cons.inj hsplit).2
        · rw [lexemesFrom_char hslash hopen, List.forall_mem_append,
            List.forall_mem_cons] at hchars
          cases before with
          | nil => exact absurd (List.cons.inj hsplit).1 hopen
          | cons d before => exact ih hchars.2.2 (List.cons.inj hsplit).2

theorem piecesFrom_chars (offset : Nat) (read t : Text) :
    piecesFrom offset read (t.map .char) = plainPiece (read.reverse ++ t) := by
  induction t generalizing offset read with
  | nil => rw [List.append_nil, List.map_nil, piecesFrom]
  | cons c rest ih => rw [List.map_cons, piecesFrom, ih, List.reverse_cons, List.append_assoc]; rfl

theorem unescapeBrackets_eq_self (ht : ∀ before behind, t ≠ before ++ '\\' :: '[' :: behind) :
    unescapeBrackets t = t := by
  fun_induction unescapeBrackets t with
  | case1 rest ih => exact absurd rfl (ht [] rest)
  | case2 c rest _ ih =>
      rw [ih fun before behind hsplit => ht (c :: before) behind (by simp [hsplit])]
  | case3 => rfl

/-- What is shown of a text that is not looked at for markup. -/
def literal (pictures : Emoji.Pictures) (t : Text) : Text := shown (Emoji.replaceWith pictures t)

theorem Literal.render_eq (ht : Literal t) :
    render library t = .ok (.plain (literal library.pictures t)) := by
  have hpieces : pieces t = plainPiece t := by
    rw [pieces, lexemes, lexemesFrom_of_untagged ht.untagged, slashChars_zero, List.nil_append,
      piecesFrom_chars]
    rfl
  rw [render, hpieces, plainPiece]
  cases t with
  | nil => rfl
  | cons c rest =>
      rw [unescapeBrackets_eq_self ht.unslashed]
      rfl

/-! ## What is shown has no more brackets and backslashes -/

/-- What stands between the tags. -/
def Piece.text : Piece → Text
  | .plain t => t
  | .tag .. => []

theorem marks_of_renderPieces (hpictures : Emoji.Unmarked library.pictures) {r r' : Rendering}
    {ps : List Piece} (hrender : renderPieces library r ps = .ok r') :
    marks r'.text = marks r.text + marks (ps.flatMap Piece.text) := by
  induction ps generalizing r with
  | nil =>
      cases hrender
      rfl
  | cons piece rest ih =>
      cases piece with
      | plain t =>
          rw [renderPieces] at hrender
          rw [ih hrender, Rendering.append, Text.marks_append, marks_shown,
            Emoji.marks_replaceWith hpictures, List.flatMap_cons, Piece.text, Text.marks_append,
            Nat.add_assoc]
      | tag offset body =>
          rw [renderPieces] at hrender
          cases heffect : effectOf library offset body r.tags with
          | error e => simp [heffect, bind, Except.bind] at hrender
          | ok effect =>
              simp only [heffect, bind, Except.bind] at hrender
              have htext : (r.apply effect).text = r.text := by
                cases effect <;> rfl
              rw [ih hrender, htext, List.flatMap_cons, Piece.text, List.nil_append]

theorem marks_unescapeBrackets (t : Text) :
    marks (unescapeBrackets t) ≤ marks t ∧
      (marks (unescapeBrackets t) = marks t →
        ∀ before behind, t ≠ before ++ '\\' :: '[' :: behind) := by
  fun_induction unescapeBrackets t with
  | case1 rest ih =>
      obtain ⟨hle, -⟩ := ih
      have hslash : isMark '\\' = true := rfl
      have hopen : isMark '[' = true := rfl
      rw [Text.marks_cons, Text.marks_cons, Text.marks_cons, if_pos hslash, if_pos hopen]
      exact ⟨by omega, fun heq => by omega⟩
  | case2 c rest hnone ih =>
      obtain ⟨hle, hkept⟩ := ih
      simp only [Text.marks_cons]
      refine ⟨by omega, ?_⟩
      intro heq before behind hsplit
      cases before with
      | nil =>
          obtain ⟨rfl, rfl⟩ := List.cons.inj hsplit
          exact hnone behind rfl rfl
      | cons d before => exact hkept (by omega) before behind (List.cons.inj hsplit).2
  | case3 => simp

theorem text_plainPiece (t : Text) : (plainPiece t).flatMap Piece.text = unescapeBrackets t := by
  cases t with
  | nil => rfl
  | cons c rest => simp [plainPiece, Piece.text]

theorem marks_bracketed (body : Text) : marks (bracketed body) = marks body + 1 := by
  simp [bracketed, isMark]

theorem marks_slashes (count : Nat) : marks (slashes count) = count := by
  induction count with
  | zero => rfl
  | succ count ih => simp [slashes_succ, isMark, ih]

/-- A tag takes at least a bracket or a backslash away. -/
theorem marks_tagPieces_lt (offset count : Nat) (body : Text) :
    marks ((tagPieces offset count body).flatMap Piece.text) <
      marks (written (.tag count body)) := by
  have hslashes := (marks_unescapeBrackets (slashes (count / 2))).1
  rw [marks_slashes] at hslashes
  rw [tagPieces, List.flatMap_append, text_plainPiece, List.flatMap_singleton, written,
    Text.marks_append, Text.marks_append, marks_slashes, marks_bracketed]
  by_cases hodd : count % 2 = 1
  · rw [if_pos hodd, Piece.text, marks_bracketed]
    omega
  · rw [if_neg hodd, Piece.text, Text.marks_nil]
    omega

/-- The pieces have all the brackets and backslashes of a markup only if it is a text without tags
that has no backslash in front of a bracket. -/
theorem marks_piecesFrom (offset : Nat) (read : Text) (ls : List Lexeme) :
    marks ((piecesFrom offset read ls).flatMap Piece.text) ≤
        marks (read.reverse ++ ls.flatMap written) ∧
      (marks ((piecesFrom offset read ls).flatMap Piece.text) =
          marks (read.reverse ++ ls.flatMap written) →
        (∀ l ∈ ls, ∃ c, l = .char c) ∧
          ∀ before behind, read.reverse ++ ls.flatMap written ≠
            before ++ '\\' :: '[' :: behind) := by
  induction ls generalizing offset read with
  | nil =>
      rw [piecesFrom, text_plainPiece, List.flatMap_nil, List.append_nil]
      obtain ⟨hle, hkept⟩ := marks_unescapeBrackets read.reverse
      exact ⟨hle, fun heq => ⟨by simp, hkept heq⟩⟩
  | cons l rest ih =>
      cases l with
      | char c =>
          obtain ⟨hle, hkept⟩ := ih (offset + 1) (c :: read)
          have hsame : (c :: read).reverse ++ rest.flatMap written =
              read.reverse ++ (Lexeme.char c :: rest).flatMap written := by
            simp [written]
          rw [hsame] at hle hkept
          rw [piecesFrom]
          refine ⟨hle, ?_⟩
          intro heq
          obtain ⟨hchars, hslash⟩ := hkept heq
          exact ⟨List.forall_mem_cons.mpr ⟨⟨c, rfl⟩, hchars⟩, hslash⟩
      | tag count body =>
          -- The tag has lost a mark, and nothing behind it can make up for that.
          have hread := (marks_unescapeBrackets read.reverse).1
          have htag := marks_tagPieces_lt offset count body
          have hrest := (ih (offset + count + body.length + 2) []).1
          rw [List.reverse_nil, List.nil_append] at hrest
          rw [piecesFrom, List.flatMap_append, List.flatMap_append, text_plainPiece,
            List.flatMap_cons, Text.marks_append, Text.marks_append, Text.marks_append,
            Text.marks_append]
          exact ⟨by omega, fun heq => by omega⟩

/-- If all marks of a text are shown, none of them was taken for markup. -/
theorem literal_of_render (hpictures : Emoji.Unmarked library.pictures) {s : Styled}
    (hrender : render library t = .ok s) (hmarks : marks s.text = marks t) : Literal t := by
  obtain ⟨r, hrendered, rfl⟩ := render_eq_ok_iff.mp hrender
  have hcount := marks_of_renderPieces hpictures hrendered
  have hempty : marks Rendering.empty.text = 0 := rfl
  rw [hempty, Nat.zero_add] at hcount
  rw [Rendering.finish, hcount] at hmarks
  obtain ⟨-, hkept⟩ := marks_piecesFrom 0 [] (lexemes t)
  rw [List.reverse_nil, List.nil_append, written_lexemes] at hkept
  obtain ⟨hchars, hslash⟩ := hkept hmarks
  exact ⟨fun before behind hsplit => untagged_of_lexemesFrom hchars hsplit, hslash⟩

/-- Nothing of a markup is taken for markup exactly if there is none in it. -/
theorem render_eq_literal_iff (hpictures : Emoji.Unmarked library.pictures) :
    render library t = .ok (.plain (literal library.pictures t)) ↔ Literal t := by
  constructor
  · intro hrender
    refine literal_of_render hpictures hrender ?_
    rw [Styled.plain, literal, marks_shown, Emoji.marks_replaceWith hpictures]
  · exact fun ht => ht.render_eq

/-- A markup is shown as it is exactly if there is no markup in it, no name of an emoji and no
character that is never shown. -/
theorem render_eq_plain_iff (hpictures : Emoji.Unmarked library.pictures) :
    render library t = .ok (.plain t) ↔ Literal t ∧ literal library.pictures t = t := by
  constructor
  · intro hrender
    have ht := literal_of_render hpictures hrender rfl
    have hshown : literal library.pictures t = t := by
      simpa [ht.render_eq, Styled.plain] using hrender
    exact ⟨ht, hshown⟩
  · rintro ⟨ht, hshown⟩
    rw [ht.render_eq, hshown]

end Markup

end Console

end HeaderAudit
