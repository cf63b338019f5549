import HeaderAudit.Console.Library
import HeaderAudit.Console.StyleName
import HeaderAudit.Console.Styled

/-!
# Markup

A text may hold tags in square brackets that open and close styles. A backslash in front of a tag makes
it plain text, and of several backslashes each pair stands for one. Reading is in two steps: a markup is
taken apart into characters and tags, and then the tags are matched. Tags that stay open are fine, and
one that closes what is not open is a fault. So is a style with a colour that cannot be read, and a
handler with parameters that cannot be read.
-/

namespace HeaderAudit.Console

/-- A character, or a tag with so many backslashes in front of it. -/
inductive Lexeme where
  | char (c : Char)
  | tag (slashes : Nat) (body : Text)
  deriving DecidableEq, Repr

namespace Markup

def slashes (count : Nat) : Text := List.replicate count '\\'

def bracketed (body : Text) : Text := '[' :: body ++ [']']

def written : Lexeme → Text
  | .char c => [c]
  | .tag count body => slashes count ++ bracketed body

def beginsTag (c : Char) : Bool := ('a' ≤ c && c ≤ 'z') || c = '#' || c = '/' || c = '@'

/-- The text up to the first closing bracket, if no opening one comes before it. -/
def beforeClosing? : Text → Option Text
  | [] => none
  | c :: rest =>
    if c = ']' then some []
    else if c = '[' then none
    else (beforeClosing? rest).map (c :: ·)

/-- The body of the tag whose bracket stands before the text. -/
def tagBody? : Text → Option Text
  | c :: rest => if beginsTag c then (beforeClosing? rest).map (c :: ·) else none
  | [] => none

def slashChars (count : Nat) : List Lexeme := (slashes count).map .char

/-- Takes a markup apart. The numbers count the backslashes just read and the characters that still
belong to the last tag. -/
def lexemesFrom : Nat → Nat → Text → List Lexeme
  | count, _, [] => slashChars count
  | count, left + 1, _ :: rest => lexemesFrom count left rest
  | count, 0, c :: rest =>
    if c = '\\' then lexemesFrom (count + 1) 0 rest
    else
      match if c = '[' then tagBody? rest else none with
      | some body => .tag count body :: lexemesFrom 0 (body.length + 1) rest
      | none => slashChars count ++ .char c :: lexemesFrom 0 0 rest

def lexemes (t : Text) : List Lexeme := lexemesFrom 0 0 t

theorem written_slashChars (count : Nat) : (slashChars count).flatMap written = slashes count := by
  induction count with
  | zero => rfl
  | succ n ih =>
    have : slashChars (n + 1) = .char '\\' :: slashChars n := by
      simp [slashChars, slashes, List.replicate_succ]
    rw [this, List.flatMap_cons, ih]
    simp [written, slashes, List.replicate_succ]

theorem eq_append_of_beforeClosing? {t body : Text} (h : beforeClosing? t = some body) :
    t = body ++ ']' :: t.drop (body.length + 1) := by
  induction t generalizing body with
  | nil => simp [beforeClosing?] at h
  | cons c rest ih =>
    simp only [beforeClosing?] at h
    split at h
    · next hc => subst hc; cases h; simp
    · split at h
      · cases h
      · obtain ⟨u, hu, rfl⟩ := Option.map_eq_some_iff.1 h
        simpa using ih hu

theorem eq_append_of_tagBody? {t body : Text} (h : tagBody? t = some body) :
    t = body ++ ']' :: t.drop (body.length + 1) := by
  cases t with
  | nil => simp [tagBody?] at h
  | cons c rest =>
    simp only [tagBody?] at h
    split at h
    · obtain ⟨u, hu, rfl⟩ := Option.map_eq_some_iff.1 h
      simpa using eq_append_of_beforeClosing? hu
    · cases h

theorem slashes_succ_append (count : Nat) (t : Text) :
    slashes (count + 1) ++ t = slashes count ++ '\\' :: t := by
  simp [slashes, List.replicate_succ']

theorem written_lexemesFrom (count left : Nat) (t : Text) :
    (lexemesFrom count left t).flatMap written = slashes count ++ t.drop left := by
  induction t generalizing count left with
  | nil => cases left <;> simp [lexemesFrom, written_slashChars]
  | cons c rest ih =>
    cases left with
    | succ left => simpa [lexemesFrom] using ih count left
    | zero =>
      simp only [lexemesFrom, List.drop_zero]
      split
      · next hc => rw [ih, hc, List.drop_zero, slashes_succ_append]
      · split
        · next body hbody =>
          split at hbody
          · next hc =>
            subst hc
            have hrest := eq_append_of_tagBody? hbody
            rw [List.flatMap_cons, ih]
            conv => rhs; rw [hrest]
            simp [written, bracketed, slashes]
          · cases hbody
        · rw [List.flatMap_append, written_slashChars, List.flatMap_cons, ih]
          simp [written, slashes]

/-- Taking a markup apart loses nothing. -/
theorem written_lexemes (t : Text) : (lexemes t).flatMap written = t := by
  rw [lexemes, written_lexemesFrom]
  rfl

/-- The tag as plain text, however many backslashes are in front of it. -/
def escapeLexeme : Lexeme → Text
  | .char c => [c]
  | .tag count body => slashes (2 * count + 1) ++ bracketed body

def guardEnd (t : Text) : Text :=
  match t.reverse with
  | '\\' :: '\\' :: _ => t
  | '\\' :: _ => t ++ ['\\']
  | _ => t

/-- The markup that is shown as the text. -/
def escape (t : Text) : Text := guardEnd ((lexemes t).flatMap escapeLexeme)

inductive Piece where
  | plain (t : Text)
  | tag (offset : Nat) (body : Text)
  deriving DecidableEq, Repr

/-- Backslashes before an opening bracket that begins no tag: one of them is left out. -/
def unescapeBrackets : Text → Text
  | '\\' :: '[' :: rest => '[' :: unescapeBrackets rest
  | c :: rest => c :: unescapeBrackets rest
  | [] => []

def plainPiece (t : Text) : List Piece := if t.isEmpty then [] else [.plain (unescapeBrackets t)]

def tagPieces (offset count : Nat) (body : Text) : List Piece :=
  plainPiece (slashes (count / 2))
    ++ [if count % 2 = 1 then .plain (bracketed body) else .tag (offset + count) body]

/-- The pieces of what follows an offset; the text has been read and is yet to be shown. -/
def piecesFrom (offset : Nat) (read : Text) : List Lexeme → List Piece
  | [] => plainPiece read.reverse
  | .char c :: rest => piecesFrom (offset + 1) (c :: read) rest
  | .tag count body :: rest =>
    plainPiece read.reverse ++ tagPieces offset count body
      ++ piecesFrom (offset + count + body.length + 2) [] rest

def pieces (t : Text) : List Piece := piecesFrom 0 [] (lexemes t)

inductive Error where
  | notOpen (tag : Text) (offset : Nat)
  | nothingOpen (offset : Nat)
  /-- A part of a colour is no number. -/
  | badColour (cause : IntegerError)
  /-- The parameters of a handler cannot be read. -/
  | badHandler (complaint : Text)
  deriving DecidableEq, Repr

def Error.message : Error → Text
  | notOpen tag offset =>
    "closing tag '" ++ bracketed tag ++ "' at position " ++ Text.ofNat offset
      ++ " doesn't match any open tag"
  | nothingOpen offset =>
    "closing tag '[/]' at position " ++ Text.ofNat offset ++ " has nothing to close"
  | badColour cause => cause.message
  | badHandler complaint => complaint

/-- A tag that opens something: the common form of its name, and the parameters behind an equals sign. -/
structure Tag where
  name : Text
  parameters : Option Text
  deriving DecidableEq, Repr, Inhabited

/-- The style that a tag stands for. -/
def Tag.style (tag : Tag) : Text :=
  match tag.parameters with
  | some parameters => tag.name ++ ' ' :: parameters
  | none => tag.name

/-- What begins with an at sign is a handler and gives no style when it is closed. -/
def Tag.isHandler (tag : Tag) : Bool := tag.name.head? = some '@'

def Tag.complaint? (library : Library) (tag : Tag) : Option Text :=
  if tag.isHandler then
    (tag.parameters.filter fun parameters => !parameters.isEmpty).bind library.complaint?
  else none

inductive Effect where
  | opens (tag : Tag)
  /-- Closes the open tag at a place, counted from the latest. -/
  | closes (place : Nat)
  deriving DecidableEq, Repr

def commonForm (name : Text) : Except Error Text := (normalStyle name).mapError .badColour

/-- The place of the open tag that is closed; without a name it is the latest. -/
def closedPlace (offset : Nat) (body name : Text) (opened : List Tag) : Except Error Nat := do
  if name.isEmpty then
    if opened.isEmpty then .error (.nothingOpen offset) else .ok 0
  else
    let name ← commonForm name
    match opened.findIdx? (·.name = name) with
    | some place => .ok place
    | none => .error (.notOpen body offset)

/-- What a tag does when these are open, the latest first. -/
def effectOf (library : Library) (offset : Nat) (body : Text) (opened : List Tag) :
    Except Error Effect := do
  let (name, parameters) := Text.cut '=' body
  match name with
  | '/' :: closing =>
    let place ← closedPlace offset body (Text.strip closing) opened
    match opened[place]?.bind (·.complaint? library) with
    | some complaint => .error (.badHandler complaint)
    | none => .ok (.closes place)
  | _ => .ok (.opens ⟨← commonForm name, parameters⟩)

/-- Control characters that move the cursor or ring a bell are not shown. -/
def isShown (c : Char) : Bool := !([7, 8, 11, 12, 13].contains c.toNat)

def shown (t : Text) : Text := t.filter isShown

/-- A markup of which a beginning has been read: what is shown of it, the open tags with their places,
the latest first, and the spans of the tags that have been closed, also the latest first. -/
structure Rendering where
  text : Text
  opened : List (Nat × Tag)
  closed : List StyledSpan
  deriving DecidableEq, Repr, Inhabited

namespace Rendering

def empty : Rendering := ⟨[], [], []⟩

def tags (r : Rendering) : List Tag := r.opened.map (·.2)

def append (t : Text) (r : Rendering) : Rendering := { r with text := r.text ++ t }

/-- The span of a tag that was opened at a place and reaches up to the end. -/
def spanOf (r : Rendering) (entry : Nat × Tag) : StyledSpan :=
  ⟨entry.1, r.text.length, entry.2.style⟩

def close (place : Nat) (r : Rendering) : Rendering :=
  let found := r.opened[place]?.toList.filter fun entry => !entry.2.isHandler
  { r with opened := r.opened.eraseIdx place, closed := found.map r.spanOf ++ r.closed }

def apply (r : Rendering) : Effect → Rendering
  | .opens tag => { r with opened := (r.text.length, tag) :: r.opened }
  | .closes place => r.close place

/-- The tags that are still open reach up to the end. -/
def finish (r : Rendering) : Styled :=
  ⟨r.text, StyledSpan.sorted ((r.opened.map r.spanOf).reverse ++ r.closed)⟩

end Rendering

def renderPieces (library : Library) (r : Rendering) : List Piece → Except Error Rendering
  | [] => .ok r
  | .plain t :: rest =>
    renderPieces library (r.append (shown (Emoji.replaceWith library.pictures t))) rest
  | .tag offset body :: rest => do
    renderPieces library (r.apply (← effectOf library offset body r.tags)) rest

def render (library : Library) (t : Text) : Except Error Styled := do
  .ok (← renderPieces library .empty (pieces t)).finish

end Markup

end HeaderAudit.Console
