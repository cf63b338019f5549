import HeaderAudit.Console.Print
import HeaderAudit.Proofs.MarkupEscape
import HeaderAudit.Proofs.WrappedStyles
import Mathlib.Data.List.InsertIdx

/-!
# Markups that can be shown

Of the tags in a markup those count that have an even number of backslashes in front of them, for
they open and close styles.  A markup is refused only for such a tag: it closes what is not open,
or names a colour or a handler that cannot be read.  So whether a markup can be shown is a matter of
these tags alone, and the styles of what is shown are theirs.  A word between the tags of a style
can be shown, with harmless text behind it, and is printed at every width.
-/

namespace HeaderAudit.Console.Markup

variable {library : Library} {t body : Text} {ls : List Lexeme} {opened : List Tag} {r : Rendering}
  {pieces : List Piece}

/-! ## The tags that count -/

def tagOf? : Lexeme → Option Text
  | .char _ => none
  | .tag count body => if count % 2 = 1 then none else some body

/-- The tags of a markup that open and close styles. -/
def liveTags (t : Text) : List Text := (lexemes t).filterMap tagOf?

def Effect.on : Effect → List Tag → List Tag
  | .opens tag, opened => tag :: opened
  | .closes place, opened => opened.eraseIdx place

/-- The tags that are open behind these, unless one of them is at fault. -/
def openAfter? (library : Library) : List Tag → List Text → Option (List Tag)
  | opened, [] => some opened
  | opened, body :: rest =>
      (effectOf library 0 body opened).toOption.bind fun effect =>
        openAfter? library (effect.on opened) rest

/-- No tag of the markup is at fault. -/
def WellTagged (library : Library) (t : Text) : Prop :=
  (openAfter? library [] (liveTags t)).isSome = true

theorem tagOf?_of_odd {count : Nat} (hodd : count % 2 = 1) (body : Text) :
    tagOf? (.tag count body) = none := if_pos hodd

theorem tagOf?_of_even {count : Nat} (heven : ¬ count % 2 = 1) (body : Text) :
    tagOf? (.tag count body) = some body := if_neg heven

theorem filterMap_tagOf?_of_harmless (hls : ∀ l ∈ ls, Harmless l) : ls.filterMap tagOf? = [] := by
  rw [List.filterMap_eq_nil_iff]
  intro l hl
  cases l with
  | char c => rfl
  | tag count body =>
      have hodd : count % 2 = 1 := hls _ hl
      exact tagOf?_of_odd hodd body

theorem harmless_chars (t : Text) : ∀ l ∈ t.map Lexeme.char, Harmless l := by
  intro l hl
  obtain ⟨c, -, rfl⟩ := List.mem_map.mp hl
  trivial

/-- Harmless text in a style brings no tags along. -/
theorem liveTags_styled {markup style : Text} {inner outer : List Lexeme}
    (hlexemes : lexemes markup = .tag 0 style :: (inner ++ .tag 0 ['/'] :: outer))
    (hinner : ∀ l ∈ inner, Harmless l) (houter : ∀ l ∈ outer, Harmless l) :
    liveTags markup = [style, ['/']] := by
  rw [liveTags, hlexemes]
  simp [tagOf?, filterMap_tagOf?_of_harmless hinner, filterMap_tagOf?_of_harmless houter]

/-! ## The pieces of a markup -/

def Piece.body? : Piece → Option Text
  | .plain _ => none
  | .tag _ body => some body

theorem filterMap_body?_plainPiece (t : Text) : (plainPiece t).filterMap Piece.body? = [] := by
  rw [plainPiece]
  split <;> rfl

/-- Of the tags those are left that count. -/
theorem filterMap_body?_piecesFrom (offset : Nat) (read : Text) (ls : List Lexeme) :
    (piecesFrom offset read ls).filterMap Piece.body? = ls.filterMap tagOf? := by
  induction ls generalizing offset read with
  | nil => rw [piecesFrom, filterMap_body?_plainPiece, List.filterMap_nil]
  | cons l rest ih =>
      cases l with
      | char c => exact ih (offset + 1) (c :: read)
      | tag count body =>
          rw [piecesFrom, tagPieces, List.filterMap_append, List.filterMap_append,
            List.filterMap_append, filterMap_body?_plainPiece, filterMap_body?_plainPiece, ih,
            List.nil_append, List.nil_append]
          by_cases hodd : count % 2 = 1
          · rw [if_pos hodd, List.filterMap_cons_none (tagOf?_of_odd hodd body)]
            rfl
          · rw [if_neg hodd, List.filterMap_cons_some (tagOf?_of_even hodd body)]
            rfl

theorem filterMap_body?_pieces (t : Text) : (Markup.pieces t).filterMap Piece.body? = liveTags t :=
  filterMap_body?_piecesFrom 0 [] (lexemes t)

theorem tags_apply (r : Rendering) (effect : Effect) : (r.apply effect).tags = effect.on r.tags := by
  cases effect with
  | opens tag => rfl
  | closes place =>
      simp [Rendering.apply, Rendering.close, Rendering.tags, Effect.on, List.eraseIdx_map]

theorem toOption_bind {α β ε : Type} (x : Except ε α) (f : α → Except ε β) :
    (x.bind f).toOption = x.toOption.bind fun a => (f a).toOption := by
  cases x <;> rfl

theorem toOption_closedPlace (offset : Nat) (body name : Text) (opened : List Tag) :
    (closedPlace offset body name opened).toOption = (closedPlace 0 body name opened).toOption := by
  rw [closedPlace.eq_def, closedPlace.eq_def]
  split
  · cases opened <;> rfl
  · cases commonForm name with
    | error e => rfl
    | ok style =>
        simp only [bind, Except.bind]
        split <;> rfl

/-- Where a tag stands matters only to the complaint about it. -/
theorem toOption_effectOf (offset : Nat) (body : Text) (opened : List Tag) :
    (effectOf library offset body opened).toOption = (effectOf library 0 body opened).toOption := by
  rw [effectOf.eq_def, effectOf.eq_def]
  simp only [bind]
  split
  · rw [toOption_bind, toOption_bind, toOption_closedPlace]
  · rfl

theorem isSome_toOption_iff {α ε : Type} {x : Except ε α} :
    x.toOption.isSome = true ↔ ∃ a, x = .ok a := by
  cases x <;> simp [Except.toOption]

/-- Whether the pieces can be shown depends on the tags, and not on what has been read before. -/
theorem isSome_renderPieces (r : Rendering) (pieces : List Piece) :
    (renderPieces library r pieces).toOption.isSome =
      (openAfter? library r.tags (pieces.filterMap Piece.body?)).isSome := by
  induction pieces generalizing r with
  | nil => rfl
  | cons piece rest ih =>
      cases piece with
      | plain t => exact ih (r.append _)
      | tag offset body =>
          rw [renderPieces]
          simp only [bind, List.filterMap_cons, Piece.body?, openAfter?]
          rw [toOption_bind, toOption_effectOf]
          cases (effectOf library 0 body r.tags).toOption with
          | none => rfl
          | some effect =>
              rw [Option.bind_some, Option.bind_some, ih, tags_apply]

theorem render_eq_ok_iff {s : Styled} :
    render library t = .ok s ↔
      ∃ r, renderPieces library .empty (Markup.pieces t) = .ok r ∧ s = r.finish := by
  rw [render]
  cases renderPieces library .empty (Markup.pieces t) <;> simp [bind, Except.bind, eq_comm]

theorem exists_render_iff : (∃ s, render library t = .ok s) ↔ WellTagged library t := by
  have hpieces := @isSome_renderPieces library .empty (Markup.pieces t)
  rw [filterMap_body?_pieces] at hpieces
  have hsome : WellTagged library t ↔
      ∃ r, renderPieces library .empty (Markup.pieces t) = .ok r := by
    rw [WellTagged, ← isSome_toOption_iff, hpieces]
    exact Iff.rfl
  simp only [hsome, render_eq_ok_iff]
  exact ⟨fun ⟨s, r, hr, _⟩ => ⟨r, hr⟩, fun ⟨r, hr⟩ => ⟨_, r, hr, rfl⟩⟩

/-! ## The styles of what is shown -/

variable {P : Text → Prop}

/-- The tag opens only styles of this kind. -/
def OpensWithin (library : Library) (P : Text → Prop) (body : Text) : Prop :=
  ∀ offset opened tag, effectOf library offset body opened = .ok (.opens tag) → P tag.style

/-- The styles of all tags that have been opened are of this kind. -/
structure Rendering.Within (P : Text → Prop) (r : Rendering) : Prop where
  opened : ∀ entry ∈ r.opened, P entry.2.style
  closed : StylesWithin P r.closed

theorem Rendering.Within.apply (hr : r.Within P) {effect : Effect}
    (heffect : ∀ tag, effect = .opens tag → P tag.style) : (r.apply effect).Within P := by
  cases effect with
  | opens tag => exact ⟨List.forall_mem_cons.mpr ⟨heffect tag rfl, hr.opened⟩, hr.closed⟩
  | closes place =>
      refine ⟨fun entry hentry => hr.opened entry (List.mem_of_mem_eraseIdx hentry), ?_⟩
      intro span hspan
      rcases List.mem_append.mp hspan with hnew | hold
      · obtain ⟨entry, hentry, rfl⟩ := List.mem_map.mp hnew
        have hfound : r.opened[place]? = some entry := by
          simpa using (List.mem_filter.mp hentry).1
        exact hr.opened entry (List.mem_of_getElem? hfound)
      · exact hr.closed span hold

theorem Rendering.Within.renderPieces (hr : r.Within P) {r' : Rendering}
    (hpieces : ∀ body ∈ pieces.filterMap Piece.body?, OpensWithin library P body)
    (hrendered : renderPieces library r pieces = .ok r') : r'.Within P := by
  induction pieces generalizing r with
  | nil =>
      rw [Markup.renderPieces, Except.ok.injEq] at hrendered
      rwa [← hrendered]
  | cons piece rest ih =>
      cases piece with
      | plain t =>
          rw [Markup.renderPieces] at hrendered
          refine ih ?_ hpieces hrendered
          exact ⟨hr.opened, hr.closed⟩
      | tag offset body =>
          have hbody : Piece.body? (.tag offset body) = some body := rfl
          rw [List.filterMap_cons_some hbody, List.forall_mem_cons] at hpieces
          rw [Markup.renderPieces] at hrendered
          cases heffect : effectOf library offset body r.tags with
          | error e => simp [heffect, bind, Except.bind] at hrendered
          | ok effect =>
              simp only [heffect, bind, Except.bind] at hrendered
              refine ih (hr.apply ?_) hpieces.2 hrendered
              rintro tag rfl
              exact hpieces.1 offset r.tags tag heffect

/-- The styles of what is shown are those of the tags that count. -/
theorem stylesWithin_of_render {s : Styled} (hrender : render library t = .ok s)
    (htags : ∀ body ∈ liveTags t, OpensWithin library P body) : StylesWithin P s.spans := by
  obtain ⟨r, hrendered, rfl⟩ := render_eq_ok_iff.mp hrender
  rw [← filterMap_body?_pieces] at htags
  have hstart : Rendering.Within P .empty :=
    ⟨fun _ hentry => absurd hentry List.not_mem_nil, fun _ hspan => absurd hspan List.not_mem_nil⟩
  have hend := hstart.renderPieces htags hrendered
  intro span hspan
  rw [Rendering.finish, StyledSpan.mem_sorted_iff, List.mem_append, List.mem_reverse] at hspan
  rcases hspan with hspan | hspan
  · obtain ⟨entry, hentry, rfl⟩ := List.mem_map.mp hspan
    exact hend.opened entry hentry
  · exact hend.closed span hspan

/-! ## Markups that are printed -/

/-- The markup is shown, and all its styles can be looked up. -/
def CanShow (library : Library) (t : Text) : Prop :=
  ∃ s, render library t = .ok s ∧ StylesWithin CanLookUp s.spans

theorem exists_printMarkup (hshow : CanShow library t) (room : Nat) :
    ∃ printed, printMarkup library room t = .ok printed := by
  obtain ⟨s, hrender, hstyles⟩ := hshow
  obtain ⟨texts, hpaint⟩ := @exists_paint_lines s room .natural .fold hstyles
  rw [printMarkup, hrender]
  simp only [bind, Except.bind, hpaint]
  split <;> exact ⟨_, rfl⟩

theorem exists_render_of_printMarkup {room : Nat} {printed : Text}
    (hprinted : printMarkup library room t = .ok printed) : ∃ s, render library t = .ok s := by
  rw [printMarkup] at hprinted
  cases hrender : render library t with
  | error e => simp [hrender, bind, Except.bind] at hprinted
  | ok s => exact ⟨s, rfl⟩

/-- The name of a style in its common form, without parameters. -/
structure IsStyle (name : Text) : Prop where
  whole : '=' ∉ name
  opens : name.head? ≠ some '/'
  handlesNothing : name.head? ≠ some '@'
  common : normalStyle name = .ok name

namespace IsStyle

variable {name : Text}

theorem effectOf_eq (hname : IsStyle name) (offset : Nat) (opened : List Tag) :
    effectOf library offset name opened = .ok (.opens ⟨name, none⟩) := by
  have hopens := hname.opens
  rw [effectOf.eq_def, Text.cut_of_not_mem hname.whole]
  simp only [commonForm, hname.common]
  split
  · simp at hopens
  · rfl

theorem canLookUp (hname : IsStyle name) : CanLookUp name := by
  have hcommon := hname.common
  rw [CanLookUp, styleFault?]
  rw [normalStyle] at hcommon
  cases hread : readStyle name with
  | error cause => simp [hread, bind, Except.bind] at hcommon
  | ok found => rfl

theorem openAfter?_eq (hname : IsStyle name) (opened : List Tag) (rest : List Text) :
    openAfter? library opened (name :: rest) = openAfter? library (⟨name, none⟩ :: opened) rest := by
  rw [openAfter?, hname.effectOf_eq]
  rfl

theorem openAfter?_close (hname : IsStyle name) (opened : List Tag) (rest : List Text) :
    openAfter? library (⟨name, none⟩ :: opened) (['/'] :: rest) = openAfter? library opened rest := by
  have hhandler : Tag.isHandler ⟨name, none⟩ = false := by
    simpa [Tag.isHandler] using hname.handlesNothing
  have hcomplaint : Tag.complaint? library ⟨name, none⟩ = none := by
    rw [Tag.complaint?, hhandler]
    rfl
  have hcloses : effectOf library 0 ['/'] (⟨name, none⟩ :: opened) = .ok (.closes 0) := by
    have hcut : Text.cut '=' ['/'] = (['/'], none) := rfl
    have hplace : closedPlace 0 ['/'] (Text.strip []) (⟨name, none⟩ :: opened) = .ok 0 := rfl
    have hlatest : (⟨name, none⟩ :: opened)[0]?.bind (·.complaint? library) = none := hcomplaint
    rw [effectOf.eq_def]
    simp only [hcut, hplace, hlatest, bind, Except.bind]
  rw [openAfter?, hcloses]
  rfl

theorem opensWithin (hname : IsStyle name) : OpensWithin library CanLookUp name := by
  intro offset opened tag heffect
  rw [hname.effectOf_eq, Except.ok.injEq, Effect.opens.injEq] at heffect
  rw [← heffect]
  exact hname.canLookUp

end IsStyle

theorem opensWithin_close : OpensWithin library P ['/'] := by
  intro offset opened tag heffect
  have hcut : Text.cut '=' ['/'] = (['/'], none) := rfl
  rw [effectOf.eq_def] at heffect
  simp only [hcut, bind] at heffect
  cases hplace : closedPlace offset ['/'] (Text.strip []) opened with
  | error e => simp [hplace, Except.bind] at heffect
  | ok place =>
      simp only [hplace, Except.bind] at heffect
      split at heffect <;> simp at heffect

/-- A markup of plain styles can be shown if it closes no more than it opens. -/
theorem canShow_of_wellTagged (hwell : WellTagged library t)
    (htags : ∀ body ∈ liveTags t, IsStyle body ∨ body = ['/']) : CanShow library t := by
  obtain ⟨s, hrender⟩ := exists_render_iff.mpr hwell
  refine ⟨s, hrender, stylesWithin_of_render hrender ?_⟩
  intro body hbody
  rcases htags body hbody with hstyle | rfl
  · exact hstyle.opensWithin
  · exact opensWithin_close

theorem canShow_of_styled {name : Text} (hname : IsStyle name)
    (htags : liveTags t = [name, ['/']]) : CanShow library t := by
  have hwell : WellTagged library t := by
    rw [WellTagged, htags, hname.openAfter?_eq, hname.openAfter?_close]
    rfl
  refine canShow_of_wellTagged hwell ?_
  rw [htags]
  simp [hname]

theorem canShow_of_untagged (htags : liveTags t = []) : CanShow library t := by
  have hwell : WellTagged library t := by
    rw [WellTagged, htags]
    rfl
  refine canShow_of_wellTagged hwell ?_
  simp [htags]

theorem canShow_nil : CanShow library [] := canShow_of_untagged rfl

/-! ## Text without brackets -/

/-- All lexemes of the text are harmless, whatever backslashes are in front of it. -/
def Inert (t : Text) : Prop := ∀ count, ∀ l ∈ lexemesFrom count 0 t, Harmless l

theorem inert_nil : Inert [] := by
  intro count
  rw [lexemesFrom_nil]
  exact harmless_slashChars

theorem inert_cons_of_ne {c : Char} (hslash : c ≠ '\\') (hopen : c ≠ '[')
    (ht : ∀ l ∈ lexemes t, Harmless l) : Inert (c :: t) := by
  intro count l hl
  rw [lexemesFrom_char hslash hopen] at hl
  rcases List.mem_append.mp hl with hl | hl
  · exact harmless_slashChars l hl
  · rcases List.mem_cons.mp hl with rfl | hl
    · trivial
    · exact ht l hl

theorem Inert.harmless (ht : Inert t) : ∀ l ∈ lexemes t, Harmless l := ht 0

theorem Inert.cons {c : Char} (hopen : c ≠ '[') (ht : Inert t) : Inert (c :: t) := by
  by_cases hslash : c = '\\'
  · subst hslash
    intro count
    rw [lexemesFrom_slash]
    exact ht (count + 1)
  · exact inert_cons_of_ne hslash hopen ht.harmless

/-- Text without an opening bracket does not matter to what follows it, but for its backslashes. -/
theorem Inert.append {u : Text} (hu : '[' ∉ u) (ht : Inert t) : Inert (u ++ t) := by
  induction u with
  | nil => exact ht
  | cons c rest ih =>
      simp only [List.mem_cons, not_or] at hu
      exact (ih hu.2).cons (Ne.symm hu.1)

theorem inert_of_not_mem {u : Text} (hu : '[' ∉ u) : Inert u := by
  have hinert := inert_nil.append hu
  rwa [List.append_nil] at hinert

/-! ## A word in a style -/

/-- A markup that shows a word in green, with more text behind it. -/
def greenWord (word rest : Text) : Text := "[green]" ++ (word ++ ("[/]" ++ rest))

theorem lexemesFrom_word {word : Text} (hword : ∀ c ∈ word, c ≠ '\\' ∧ c ≠ '[') (t : Text) :
    lexemesFrom 0 0 (word ++ t) = word.map .char ++ lexemesFrom 0 0 t := by
  induction word with
  | nil => rfl
  | cons c rest ih =>
      obtain ⟨hslash, hopen⟩ := hword c List.mem_cons_self
      rw [List.cons_append, lexemesFrom_char hslash hopen,
        ih fun d hd => hword d (List.mem_cons_of_mem c hd)]
      rfl

theorem lexemes_greenWord {word : Text} (hword : ∀ c ∈ word, c ≠ '\\' ∧ c ≠ '[') (rest : Text) :
    lexemes (greenWord word rest) =
      .tag 0 "green" :: (word.map .char ++ .tag 0 ['/'] :: lexemes rest) := by
  have hgreen : tagBody? ("green".toList ++ [']']) = some "green".toList := by decide
  have hclosing : tagBody? (['/'] ++ [']']) = some ['/'] := by decide
  have hclose : lexemesFrom 0 0 (("[/]" : Text) ++ rest) = .tag 0 ['/'] :: lexemes rest :=
    lexemesFrom_quoted_tag hclosing rest
  have hopen := @lexemesFrom_quoted_tag 0 _ _ hgreen (word ++ (("[/]" : Text) ++ rest))
  rw [lexemesFrom_word hword, hclose] at hopen
  exact hopen

theorem isStyle_green : IsStyle "green" := by
  constructor <;> decide +kernel

/-- Such a markup can be shown if the text behind the word is inert. -/
theorem canShow_greenWord {word rest : Text} (hword : ∀ c ∈ word, c ≠ '\\' ∧ c ≠ '[')
    (hrest : Inert rest) : CanShow library (greenWord word rest) :=
  canShow_of_styled isStyle_green
    (liveTags_styled (lexemes_greenWord hword rest) (harmless_chars word) hrest.harmless)

end HeaderAudit.Console.Markup
