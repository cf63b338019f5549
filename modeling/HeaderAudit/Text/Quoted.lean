import HeaderAudit.Text.Basic
import HeaderAudit.Text.PrintableTable

/-!
# Quoted texts

The form in which messages show a text that came from outside: in single quotes, or in double quotes
when only that saves an escape, with everything invisible escaped.
-/

namespace HeaderAudit.Text

def isVisible (c : Char) : Bool := !withinBounds invisibleBounds c

/-- Single quotes unless the text has a single quote and no double quote. -/
def quoteMark (t : Text) : Char :=
  if t.contains '\'' && !t.contains '"' then '"' else '\''

def quotedChar (mark c : Char) : Text :=
  if c = mark ∨ c = '\\' then ['\\', c]
  else if c = '\n' then ['\\', 'n']
  else if c = '\r' then ['\\', 'r']
  else if c = '\t' then ['\\', 't']
  else if isVisible c then [c]
  else if c.toNat < 0x100 then '\\' :: 'x' :: hex 2 c.toNat
  else if c.toNat < 0x10000 then '\\' :: 'u' :: hex 4 c.toNat
  else '\\' :: 'U' :: hex 8 c.toNat

def quoted (t : Text) : Text :=
  let mark := quoteMark t
  mark :: t.flatMap (quotedChar mark) ++ [mark]

end HeaderAudit.Text
