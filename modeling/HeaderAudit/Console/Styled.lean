import HeaderAudit.Text.Basic

/-!
# Texts with styles

A text in which spans have styles. Spans follow the text: they are cut where it is cut, and shifted where
it is shifted. A text that is left in one piece keeps all its spans, the empty ones included, and a piece
of it has only those that it has characters of.
-/

namespace HeaderAudit

structure StyledSpan where
  start : Nat
  stop : Nat
  style : Text
  deriving DecidableEq, Repr, Inhabited

namespace StyledSpan

/-- What is left of a span between two offsets, counted from the first of them. -/
def within? (first last : Nat) (s : StyledSpan) : Option StyledSpan :=
  if max first s.start < min last s.stop then
    some ⟨max first s.start - first, min last s.stop - first, s.style⟩
  else none

/-- What is left of a span in a text of a length. -/
def cropped? (length : Nat) (s : StyledSpan) : Option StyledSpan :=
  if s.start < length then some { s with stop := min length s.stop } else none

def move (place : Nat → Nat) (s : StyledSpan) : StyledSpan :=
  { s with start := place s.start, stop := place s.stop }

def isEmpty (s : StyledSpan) : Bool := s.stop ≤ s.start

/-- Puts a span in front of the first one that does not begin before it. -/
def insert (s : StyledSpan) : List StyledSpan → List StyledSpan
  | [] => [s]
  | t :: rest => if s.start ≤ t.start then s :: t :: rest else t :: insert s rest

/-- The spans by where they begin; those that begin at one place stay in their order. -/
def sorted (spans : List StyledSpan) : List StyledSpan := spans.foldr insert []

end StyledSpan

namespace Console

structure Styled where
  text : Text
  spans : List StyledSpan
  deriving DecidableEq, Repr, Inhabited

namespace Styled

def plain (t : Text) : Styled := ⟨t, []⟩

/-- Pieces of a text that stand so many characters apart, with their parts of the spans. -/
def piecesFrom (offset gap : Nat) (spans : List StyledSpan) : List Text → List Styled
  | [] => []
  | piece :: rest =>
    ⟨piece, spans.filterMap (·.within? offset (offset + piece.length))⟩
      :: piecesFrom (offset + piece.length + gap) gap spans rest

def cut (gap : Nat) (pieces : List Text) (s : Styled) : List Styled :=
  match pieces with
  | [_] => [s]
  | _ => piecesFrom 0 gap s.spans pieces

/-- Another text in place of the text. If it is shorter, the spans end with it. -/
def retext (f : Text → Text) (s : Styled) : Styled :=
  let t := f s.text
  ⟨t, if t.length < s.text.length then s.spans.filterMap (·.cropped? t.length) else s.spans⟩

/-- The text behind another one. -/
def behind (before : Text) (s : Styled) : Styled :=
  ⟨before ++ s.text, s.spans.map (·.move (before.length + ·))⟩

end Styled

end Console

end HeaderAudit
