import HeaderAudit.Text.Basic

/-!
# Places in a YAML text

A cursor is what is left of a text, with the line and the column where that begins. Five characters
end a line; a byte order mark takes no column.
-/

namespace HeaderAudit.Yaml

def isAllowed (c : Char) : Bool :=
  let code := c.toNat
  code == 0x9 || code == 0xA || code == 0xD || (0x20 ≤ code && code ≤ 0x7E) || code == 0x85
    || (0xA0 ≤ code && code ≤ 0xFFFD) || 0x10000 ≤ code

def isBreak (c : Char) : Bool :=
  c = '\n' || c = '\r' || c = '\x85' || c = '\u2028' || c = '\u2029'

/-- A line ends here: at a line break or at the end of the text. -/
def endsLine (c : Option Char) : Bool := c.all isBreak

/-- A line ends here or goes on with a blank. -/
def endsItem (c : Option Char) : Bool := c.all fun c => isBreak c || c = ' '

/-- A line ends here or goes on with a blank or a tab. -/
def endsWord (c : Option Char) : Bool := c.all fun c => isBreak c || c = ' ' || c = '\t'

structure Cursor where
  rest : Text
  index : Nat
  line : Nat
  column : Nat
  deriving Repr, Inhabited

namespace Cursor

def start (t : Text) : Cursor := ⟨t, 0, 0, 0⟩

def peek (c : Cursor) : Option Char := c.rest.head?

def peekAt (n : Nat) (c : Cursor) : Option Char := (c.rest.drop n).head?

def next (c : Cursor) : Cursor :=
  match c.rest with
  | [] => c
  | ch :: rest =>
    let breaks := isBreak ch && !(ch = '\r' && rest.head? = some '\n')
    if breaks then ⟨rest, c.index + 1, c.line + 1, 0⟩
    else ⟨rest, c.index + 1, c.line, if ch = '\uFEFF' ∨ ch = '\r' then c.column else c.column + 1⟩

def advance : Nat → Cursor → Cursor
  | 0, c => c
  | n + 1, c => advance n c.next

def takeWhile (p : Char → Bool) (c : Cursor) : Text × Cursor :=
  let taken := c.rest.takeWhile p
  (taken, c.advance taken.length)

def skipWhile (p : Char → Bool) (c : Cursor) : Cursor := (c.takeWhile p).2

def skipSpaces (c : Cursor) : Cursor := c.skipWhile (· = ' ')

/-- The blanks from here on, as long as the column is below a bound. -/
def skipSpacesTo (column : Nat) (c : Cursor) : Cursor :=
  c.advance (min (column - c.column) (c.rest.takeWhile (· = ' ')).length)

/-- Reads a line break, if one is here; all but the two Unicode separators count as a line feed. -/
def takeBreak (c : Cursor) : Text × Cursor :=
  match c.rest with
  | '\r' :: '\n' :: _ => (['\n'], c.advance 2)
  | ch :: _ =>
    if isBreak ch then ([if ch = '\u2028' ∨ ch = '\u2029' then ch else '\n'], c.next)
    else ([], c)
  | [] => ([], c)

/-- The place starts with three equal characters that stand alone. -/
def atMarker (ch : Char) (c : Cursor) : Bool :=
  (List.replicate 3 ch).isPrefixOf c.rest && endsWord (c.peekAt 3)

def atDocumentMarker (c : Cursor) : Bool := c.atMarker '-' || c.atMarker '.'

end Cursor

end HeaderAudit.Yaml
