import HeaderAudit.Console.Styled
import HeaderAudit.Text.Blank
import HeaderAudit.Text.Width

/-!
# Lines of a given width

A text is broken between words, so that every line fits into a number of columns. A word that fits on no
line is cut into pieces, or it is kept and the line is cut with an ellipsis.
-/

namespace HeaderAudit.Console

inductive Overflow where
  | fold
  | ellipsis
  deriving DecidableEq, Repr, Inhabited

inductive Justify where
  /-- Lines are as long as their text. -/
  | natural
  | left
  | center
  deriving DecidableEq, Repr, Inhabited

namespace Wrap

def tabSize : Nat := 8

def blanks (count : Nat) : Text := List.replicate count ' '

/-- Replaces every tab by blanks up to the next multiple of a width; the number is the column. -/
def expandTabsFrom (column : Nat) : Text → Text
  | [] => []
  | c :: rest =>
    if c = '\t' then
      let count := tabSize - column % tabSize
      blanks count ++ expandTabsFrom (column + count) rest
    else c :: expandTabsFrom (column + Text.columns c) rest

def expandTabs (t : Text) : Text := expandTabsFrom 0 t

/-- The text cut before every character that follows white space and is none. -/
def cutWords : Text → List Text
  | [] => []
  | [c] => [[c]]
  | c :: d :: rest =>
    match cutWords (d :: rest) with
    | [] => [[c]]
    | word :: more =>
      if Text.isBlank c && !Text.isBlank d then [c] :: word :: more else (c :: word) :: more

/-- The words of a text, each with the white space behind it, and the first one also with that before
it. A text of white space has none. -/
def words (t : Text) : List Text :=
  match cutWords t with
  | first :: second :: rest =>
    if Text.blank first then (first ++ second) :: rest else first :: second :: rest
  | [only] => if Text.blank only then [] else [only]
  | [] => []

/-- The pieces of a word that fit into a width. The piece that is being made and its width are given. -/
def foldWord (room : Nat) (piece : Text) (used : Nat) : Text → List Text
  | [] => [piece.reverse]
  | c :: rest =>
    if used + Text.columns c ≤ room then
      foldWord room (c :: piece) (used + Text.columns c) rest
    else piece.reverse :: foldWord room [c] (Text.columns c) rest

/-- The lines that are done, the line that is being made, and the columns that it takes. -/
structure Progress where
  done : List Text
  line : Text
  used : Nat

def Progress.lines (p : Progress) : List Text := p.done ++ [p.line]

/-- Ends the line, but not in front of the whole text. -/
def Progress.breakLine (p : Progress) : Progress :=
  if p.lines = [[]] then { p with used := 0 } else ⟨p.done ++ [p.line], [], 0⟩

def Progress.append (word : Text) (p : Progress) : Progress :=
  ⟨p.done, p.line ++ word, p.used + Text.width word⟩

def addWord (room : Nat) (overflow : Overflow) (p : Progress) (word : Text) : Progress :=
  let needed := Text.width (Text.stripRight word)
  if p.used + needed ≤ room then p.append word
  else if needed ≤ room then p.breakLine.append word
  else
    match overflow with
    | .fold => (foldWord room [] 0 word).foldl (fun p piece => p.breakLine.append piece) p
    | .ellipsis => p.breakLine.append word

def divide (room : Nat) (overflow : Overflow) (line : Text) : List Text :=
  match words line with
  | [] => [line]
  | found => (found.foldl (addWord room overflow) ⟨[], [], 0⟩).lines

/-- Takes white space from the end as far as the text has more characters than there is room. -/
def trimEnd (room : Nat) (t : Text) : Text :=
  let spare := (t.reverse.takeWhile Text.isBlank).length
  t.take (t.length - min spare (t.length - room))

def cutLine (room : Nat) (overflow : Overflow) (t : Text) : Text :=
  if Text.width t ≤ room then t
  else
    match overflow with
    | .fold => Text.fitWidth room t
    | .ellipsis => Text.fitWidth (room - 1) t ++ ['…']

def fillLine (room : Nat) (t : Text) : Text := t ++ blanks (room - Text.width t)

/-- Puts the smaller half of the spare room before the text. -/
def centerLine (room : Nat) (overflow : Overflow) (line : Styled) : Styled :=
  let line := (line.retext Text.stripRight).retext (cutLine room overflow)
  (line.behind (blanks ((room - Text.width line.text) / 2))).retext (fillLine room)

def finishLine (room : Nat) (justify : Justify) (overflow : Overflow) (line : Styled) : Styled :=
  let line := line.retext (trimEnd room)
  match justify with
  | .natural => line.retext (cutLine room overflow)
  | .left => (line.retext (cutLine room overflow)).retext (fillLine room)
  | .center => centerLine room overflow line

/-- A span that covers a tab covers the blanks that replace it. Empty spans get lost with the tabs. -/
def expandStyled (line : Styled) : Styled :=
  if line.text.contains '\t' then
    ⟨expandTabs line.text, (line.spans.filter fun span => !span.isEmpty).map
      (·.move fun place => (expandTabs (line.text.take place)).length)⟩
  else line

def lines (room : Nat) (justify : Justify) (overflow : Overflow) (t : Styled) : List Styled :=
  (t.cut 1 (Text.fields '\n' t.text)).flatMap fun line =>
    let line := expandStyled line
    (line.cut 0 (divide room overflow line.text)).map (finishLine room justify overflow)

/-- The lines of a text without styles. -/
def textLines (room : Nat) (justify : Justify) (overflow : Overflow) (t : Text) : List Text :=
  (lines room justify overflow (.plain t)).map Styled.text

end Wrap

end HeaderAudit.Console
