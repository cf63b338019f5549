import HeaderAudit.Console.Markup

/-!
# Escaped text in a markup

Taking an escaped text apart gives the pieces of the text itself, except that every tag has got an
odd number of backslashes and so is plain text.  A markup whose tags are all plain text can be
shown, whatever styles are open.  The confirmations of the commands are such markups behind one tag
that opens a style and one that closes it.
-/

namespace HeaderAudit.Console.Markup

/-- What becomes of a lexeme when the text is escaped. -/
def quoted : Lexeme → Lexeme
  | .char c => .char c
  | .tag count body => .tag (2 * count + 1) body

/-- The lexeme opens and closes nothing. -/
def Harmless : Lexeme → Prop
  | .char _ => True
  | .tag count _ => count % 2 = 1

@[simp] theorem slashes_zero : slashes 0 = [] := rfl

theorem slashes_succ (count : Nat) : slashes (count + 1) = '\\' :: slashes count := rfl

@[simp] theorem slashChars_zero : slashChars 0 = [] := rfl

theorem slashChars_succ (count : Nat) :
    slashChars (count + 1) = slashChars count ++ [.char '\\'] := by
  simp [slashChars, slashes, List.replicate_succ']

theorem harmless_slashChars {count : Nat} : ∀ l ∈ slashChars count, Harmless l := by
  intro l hl
  obtain ⟨c, -, rfl⟩ := List.mem_map.mp hl
  trivial

/-! ## Taking a markup apart, case by case -/

section Lexing

variable {count : Nat} {rest body : Text} {c : Char}

theorem lexemesFrom_nil (count left : Nat) : lexemesFrom count left [] = slashChars count := by
  cases left <;> rfl

theorem lexemesFrom_slash (count : Nat) (rest : Text) :
    lexemesFrom count 0 ('\\' :: rest) = lexemesFrom (count + 1) 0 rest := by
  rw [lexemesFrom, if_pos rfl]

theorem lexemesFrom_tag (htag : tagBody? rest = some body) :
    lexemesFrom count 0 ('[' :: rest) =
      .tag count body :: lexemesFrom 0 (body.length + 1) rest := by
  rw [lexemesFrom, if_neg (by decide), if_pos rfl, htag]

theorem lexemesFrom_open (htag : tagBody? rest = none) :
    lexemesFrom count 0 ('[' :: rest) = slashChars count ++ .char '[' :: lexemesFrom 0 0 rest := by
  rw [lexemesFrom, if_neg (by decide), if_pos rfl, htag]

theorem lexemesFrom_char (hslash : c ≠ '\\') (hopen : c ≠ '[') :
    lexemesFrom count 0 (c :: rest) = slashChars count ++ .char c :: lexemesFrom 0 0 rest := by
  rw [lexemesFrom, if_neg hslash, if_neg hopen]

/-- Induction along the way in which a markup is taken apart. -/
theorem lexing_induction {motive : Text → Nat → Nat → Prop}
    (nil : ∀ count left, motive [] count left)
    (skip : ∀ c rest count left, motive rest count left → motive (c :: rest) count (left + 1))
    (slash : ∀ rest count, motive rest (count + 1) 0 → motive ('\\' :: rest) count 0)
    (tag : ∀ rest count body, tagBody? rest = some body → motive rest 0 (body.length + 1) →
      motive ('[' :: rest) count 0)
    (opening : ∀ rest count, tagBody? rest = none → motive rest 0 0 → motive ('[' :: rest) count 0)
    (char : ∀ c rest count, c ≠ '\\' → c ≠ '[' → motive rest 0 0 → motive (c :: rest) count 0)
    (t : Text) (count left : Nat) : motive t count left := by
  induction t generalizing count left with
  | nil => exact nil count left
  | cons c rest ih =>
      cases left with
      | succ left => exact skip c rest count left (ih count left)
      | zero =>
          by_cases hslash : c = '\\'
          · subst hslash
            exact slash rest count (ih (count + 1) 0)
          · by_cases hopen : c = '['
            · subst hopen
              cases htag : tagBody? rest with
              | none => exact opening rest count htag (ih 0 0)
              | some body => exact tag rest count body htag (ih 0 (body.length + 1))
            · exact char c rest count hslash hopen (ih 0 0)

end Lexing

/-! ## The tags of an escaped text -/

/-- The escaped form of what is left of a text, before its end is guarded. -/
def escapedFrom (count left : Nat) (t : Text) : Text :=
  (lexemesFrom count left t).flatMap escapeLexeme

theorem flatMap_escape_slashChars (count : Nat) :
    (slashChars count).flatMap escapeLexeme = slashes count := by
  simp [slashChars, List.flatMap_map, escapeLexeme]

theorem escape_eq (t : Text) : escape t = guardEnd (escapedFrom 0 0 t) := rfl

section Escaped

variable {count : Nat} {t rest body : Text} {c : Char}

theorem escapedFrom_nil (count left : Nat) : escapedFrom count left [] = slashes count := by
  rw [escapedFrom, lexemesFrom_nil, flatMap_escape_slashChars]

theorem escapedFrom_slash (count : Nat) (rest : Text) :
    escapedFrom count 0 ('\\' :: rest) = escapedFrom (count + 1) 0 rest := by
  rw [escapedFrom, lexemesFrom_slash, escapedFrom]

theorem escapedFrom_tag (htag : tagBody? rest = some body) :
    escapedFrom count 0 ('[' :: rest) =
      slashes (2 * count + 1) ++ '[' :: (body ++ ']' :: escapedFrom 0 (body.length + 1) rest) := by
  rw [escapedFrom, lexemesFrom_tag htag, List.flatMap_cons, ← escapedFrom]
  simp [escapeLexeme, bracketed]

theorem escapedFrom_open (htag : tagBody? rest = none) :
    escapedFrom count 0 ('[' :: rest) = slashes count ++ '[' :: escapedFrom 0 0 rest := by
  rw [escapedFrom, lexemesFrom_open htag, List.flatMap_append, flatMap_escape_slashChars,
    List.flatMap_cons, ← escapedFrom]
  rfl

theorem escapedFrom_char (hslash : c ≠ '\\') (hopen : c ≠ '[') :
    escapedFrom count 0 (c :: rest) = slashes count ++ c :: escapedFrom 0 0 rest := by
  rw [escapedFrom, lexemesFrom_char hslash hopen, List.flatMap_append, flatMap_escape_slashChars,
    List.flatMap_cons, ← escapedFrom]
  rfl

theorem beforeClosing?_slashes (count : Nat) (ht : beforeClosing? t = none) :
    beforeClosing? (slashes count ++ t) = none := by
  induction count with
  | zero => exact ht
  | succ count ih => simp [slashes_succ, beforeClosing?, ih]

/-- Escaping puts nothing but backslashes in front of the first bracket. -/
theorem beforeClosing?_escapedFrom (ht : beforeClosing? t = none) :
    beforeClosing? (escapedFrom count 0 t) = none := by
  induction t generalizing count with
  | nil =>
      rw [escapedFrom_nil]
      simpa using beforeClosing?_slashes count ht
  | cons c rest ih =>
      rw [beforeClosing?] at ht
      by_cases hslash : c = '\\'
      · subst hslash
        rw [escapedFrom_slash]
        exact ih (by simpa using ht)
      · by_cases hopen : c = '['
        · subst hopen
          cases htag : tagBody? rest with
          | none =>
              rw [escapedFrom_open htag]
              exact beforeClosing?_slashes count (by simp [beforeClosing?])
          | some body =>
              rw [escapedFrom_tag htag]
              exact beforeClosing?_slashes _ (by simp [beforeClosing?])
        · rw [escapedFrom_char hslash hopen]
          by_cases hclose : c = ']'
          · simp [hclose] at ht
          · have hrest : beforeClosing? rest = none := by simpa [hclose, hopen] using ht
            apply beforeClosing?_slashes
            simp [beforeClosing?, hclose, hopen, ih hrest]

/-- Backslashes that have been read stand in front of the escaped form. -/
theorem exists_escapedFrom_succ (count : Nat) (t : Text) :
    ∃ u, escapedFrom (count + 1) 0 t = '\\' :: u := by
  induction t generalizing count with
  | nil => exact ⟨_, escapedFrom_nil (count + 1) 0⟩
  | cons c rest ih =>
      by_cases hslash : c = '\\'
      · subst hslash
        rw [escapedFrom_slash]
        exact ih (count + 1)
      · by_cases hopen : c = '['
        · subst hopen
          cases htag : tagBody? rest with
          | none => exact ⟨_, escapedFrom_open htag⟩
          | some body => exact ⟨_, escapedFrom_tag htag⟩
        · exact ⟨_, escapedFrom_char hslash hopen⟩

theorem beforeClosing?_append_of_none {u : Text} (ht : beforeClosing? t = none)
    (hu : beforeClosing? u = none) : beforeClosing? (t ++ u) = none := by
  induction t with
  | nil => exact hu
  | cons c rest ih =>
      rw [beforeClosing?] at ht
      rw [List.cons_append, beforeClosing?]
      by_cases hclose : c = ']'
      · simp [hclose] at ht
      · rw [if_neg hclose] at ht ⊢
        by_cases hopen : c = '['
        · rw [if_pos hopen]
        · rw [if_neg hopen, Option.map_eq_none_iff] at ht ⊢
          exact ih ht

/-- Text that keeps to itself behind other text: it completes no tag, begins none at once, and the
backslashes in front of it are characters. -/
structure Apart (u : Text) : Prop where
  unclosed : beforeClosing? u = none
  tagless : tagBody? u = none
  slashes : ∀ count, lexemesFrom count 0 u = slashChars count ++ lexemes u

theorem apart_nil : Apart [] := by
  refine ⟨rfl, rfl, ?_⟩
  intro count
  rw [lexemes, lexemesFrom_nil, lexemesFrom_nil, slashChars_zero, List.append_nil]

theorem apart_cons {u : Text} (hslash : c ≠ '\\') (hopen : c ≠ '[') (hbegins : beginsTag c = false)
    (hclosing : beforeClosing? (c :: u) = none) : Apart (c :: u) := by
  refine ⟨hclosing, by simp [tagBody?, hbegins], ?_⟩
  intro count
  rw [lexemes, lexemesFrom_char hslash hopen, lexemesFrom_char hslash hopen, slashChars_zero,
    List.nil_append]

theorem Apart.lexemes_slash {u : Text} (hu : Apart u) :
    lexemes ('\\' :: u) = .char '\\' :: lexemes u := by
  rw [lexemes, lexemesFrom_slash, hu.slashes]
  rfl

theorem Apart.slash {u : Text} (hu : Apart u) : Apart ('\\' :: u) := by
  refine ⟨by simp [beforeClosing?, hu.unclosed], by simp [tagBody?, beginsTag], ?_⟩
  intro count
  rw [lexemesFrom_slash, hu.slashes, slashChars_succ, List.append_assoc, hu.lexemes_slash]
  rfl

/-- A bracket that begins no tag begins none in the escaped text either. -/
theorem tagBody?_escapedFrom {u : Text} (ht : tagBody? t = none) (hu : Apart u) :
    tagBody? (escapedFrom 0 0 t ++ u) = none := by
  cases t with
  | nil => exact hu.tagless
  | cons c rest =>
      by_cases hslash : c = '\\'
      · subst hslash
        obtain ⟨v, hv⟩ := exists_escapedFrom_succ 0 rest
        rw [escapedFrom_slash, hv]
        simp [tagBody?, beginsTag]
      · by_cases hopen : c = '['
        · subst hopen
          cases htag : tagBody? rest with
          | none =>
              rw [escapedFrom_open htag]
              simp [tagBody?, beginsTag]
          | some body =>
              rw [escapedFrom_tag htag]
              simp [slashes_succ, tagBody?, beginsTag]
        · rw [escapedFrom_char hslash hopen, slashes_zero, List.nil_append, List.cons_append,
            tagBody?]
          rw [tagBody?] at ht
          by_cases hbegins : beginsTag c
          · rw [if_pos hbegins, Option.map_eq_none_iff] at ht ⊢
            exact beforeClosing?_append_of_none (beforeClosing?_escapedFrom ht) hu.unclosed
          · rw [if_neg hbegins]

theorem beforeClosing?_append (hbody : beforeClosing? t = some body) (u : Text) :
    beforeClosing? (body ++ ']' :: u) = some body := by
  induction t generalizing body with
  | nil => simp [beforeClosing?] at hbody
  | cons c rest ih =>
      rw [beforeClosing?] at hbody
      by_cases hclose : c = ']'
      · rw [if_pos hclose, Option.some.injEq] at hbody
        subst hbody
        simp [beforeClosing?]
      · rw [if_neg hclose] at hbody
        by_cases hopen : c = '['
        · simp [hopen] at hbody
        · rw [if_neg hopen, Option.map_eq_some_iff] at hbody
          obtain ⟨before, hbefore, rfl⟩ := hbody
          simp [beforeClosing?, hclose, hopen, ih hbefore]

/-- A tag is the same tag whatever comes behind it. -/
theorem tagBody?_append (htag : tagBody? t = some body) (u : Text) :
    tagBody? (body ++ ']' :: u) = some body := by
  cases t with
  | nil => simp [tagBody?] at htag
  | cons c rest =>
      rw [tagBody?] at htag
      by_cases hbegins : beginsTag c
      · rw [if_pos hbegins, Option.map_eq_some_iff] at htag
        obtain ⟨before, hbefore, rfl⟩ := htag
        rw [List.cons_append, tagBody?, if_pos hbegins, beforeClosing?_append hbefore]
        rfl
      · simp [hbegins] at htag

theorem lexemesFrom_slashes (count more : Nat) (t : Text) :
    lexemesFrom count 0 (slashes more ++ t) = lexemesFrom (count + more) 0 t := by
  induction more generalizing count with
  | zero => rfl
  | succ more ih =>
      rw [slashes_succ, List.cons_append, lexemesFrom_slash, ih, Nat.add_right_comm, Nat.add_assoc]

theorem lexemesFrom_length (count : Nat) (t u : Text) :
    lexemesFrom count t.length (t ++ u) = lexemesFrom count 0 u := by
  induction t with
  | nil => rfl
  | cons c rest ih => simpa [lexemesFrom] using ih

theorem lexemesFrom_quoted_tag (htag : tagBody? t = some body) (u : Text) :
    lexemesFrom count 0 ('[' :: (body ++ ']' :: u)) = .tag count body :: lexemesFrom 0 0 u := by
  have hpassed := lexemesFrom_length 0 (body ++ [']']) u
  rw [List.length_append, List.length_singleton, List.append_assoc,
    List.singleton_append] at hpassed
  rw [lexemesFrom_tag (tagBody?_append htag u), hpassed]

/-- Escaping quotes the tags and nothing else. -/
theorem lexemesFrom_escapedFrom {u : Text} (hu : Apart u) (t : Text) (count left : Nat) :
    lexemesFrom 0 0 (escapedFrom count left t ++ u) =
      (lexemesFrom count left t).map quoted ++ lexemes u := by
  have hslashChars : ∀ count, (slashChars count).map quoted = slashChars count := by
    intro count
    simp [slashChars, quoted]
  induction t, count, left using lexing_induction with
  | nil count left =>
      rw [escapedFrom_nil, lexemesFrom_slashes, Nat.zero_add, hu.slashes, lexemesFrom_nil,
        hslashChars]
  | skip c rest count left ih => exact ih
  | slash rest count ih =>
      rw [escapedFrom_slash, lexemesFrom_slash]
      exact ih
  | tag rest count body htag ih =>
      rw [escapedFrom_tag htag, List.append_assoc, lexemesFrom_slashes, Nat.zero_add,
        List.cons_append, List.append_assoc, List.cons_append, lexemesFrom_quoted_tag htag, ih,
        lexemesFrom_tag htag]
      rfl
  | opening rest count htag ih =>
      rw [escapedFrom_open htag, List.append_assoc, lexemesFrom_slashes, Nat.zero_add,
        List.cons_append, lexemesFrom_open (tagBody?_escapedFrom htag hu), ih,
        lexemesFrom_open htag, List.map_append, hslashChars, List.append_assoc]
      rfl
  | char c rest count hslash hopen ih =>
      rw [escapedFrom_char hslash hopen, List.append_assoc, lexemesFrom_slashes, Nat.zero_add,
        List.cons_append, lexemesFrom_char hslash hopen, ih, lexemesFrom_char hslash hopen,
        List.map_append, hslashChars, List.append_assoc]
      rfl

/-! ## The guarded end -/

theorem guardEnd_cases (t : Text) : guardEnd t = t ∨ guardEnd t = t ++ ['\\'] := by
  rw [guardEnd.eq_def]
  split
  · exact .inl rfl
  · exact .inr rfl
  · exact .inl rfl

theorem harmless_quoted (l : Lexeme) : Harmless (quoted l) := by
  cases l with
  | char c => trivial
  | tag count body =>
      rw [quoted, Harmless]
      omega

/-- An escaped text taken apart is the text taken apart, with its tags quoted, and what is behind it
is taken apart as if it stood alone. -/
theorem lexemes_escape_append {u : Text} (hu : Apart u) (t : Text) :
    lexemes (escape t ++ u) = (lexemes t).map quoted ++ lexemes u ∨
      lexemes (escape t ++ u) = (lexemes t).map quoted ++ .char '\\' :: lexemes u := by
  rw [escape_eq]
  rcases guardEnd_cases (escapedFrom 0 0 t) with hguard | hguard
  · left
    rw [hguard]
    exact lexemesFrom_escapedFrom hu t 0 0
  · right
    have hescaped := lexemesFrom_escapedFrom hu.slash t 0 0
    rw [hu.lexemes_slash] at hescaped
    rw [hguard, List.append_assoc]
    exact hescaped

theorem exists_harmless_escape {u : Text} (hu : Apart u) (t : Text) :
    ∃ ls, (∀ l ∈ ls, Harmless l) ∧ lexemes (escape t ++ u) = ls ++ lexemes u := by
  have hquoted : ∀ l ∈ (lexemes t).map quoted, Harmless l := by
    intro l hl
    obtain ⟨l, -, rfl⟩ := List.mem_map.mp hl
    exact harmless_quoted l
  rcases lexemes_escape_append hu t with heq | heq
  · exact ⟨_, hquoted, heq⟩
  · refine ⟨(lexemes t).map quoted ++ [.char '\\'], ?_, by simp [heq]⟩
    rw [List.forall_mem_append, List.forall_mem_singleton]
    exact ⟨hquoted, trivial⟩

theorem harmless_escape (t : Text) : ∀ l ∈ lexemes (escape t), Harmless l := by
  obtain ⟨ls, hls, hlexemes⟩ := exists_harmless_escape apart_nil t
  rw [List.append_nil, lexemes, lexemes, lexemesFrom_nil, slashChars_zero,
    List.append_nil] at hlexemes
  rw [lexemes, hlexemes]
  exact hls

end Escaped

end HeaderAudit.Console.Markup
