import HeaderAudit.Text.Basic
import HeaderAudit.Text.WidthTable

/-!
# Column widths
-/

namespace HeaderAudit.Text

def columns (c : Char) : Nat :=
  if 0x20 ≤ c.toNat ∧ c.toNat < 0x7F then 1
  else if withinBounds columnlessBounds c then 0
  else if withinBounds wideBounds c then 2
  else 1

def width (t : Text) : Nat := t.foldr (fun c n => columns c + n) 0

/-- The longest beginning of a text that fits into a number of columns, and the rest. -/
def splitWidth : Nat → Text → Text × Text
  | _, [] => ([], [])
  | room, c :: rest =>
    if columns c ≤ room then
      let parts := splitWidth (room - columns c) rest
      (c :: parts.1, parts.2)
    else ([], c :: rest)

/-- A text cut to a number of columns; half of a wide character becomes a blank. -/
def fitWidth (room : Nat) (t : Text) : Text :=
  let parts := splitWidth room t
  match parts.2 with
  | [] => parts.1
  | _ :: _ => parts.1 ++ List.replicate (room - width parts.1) ' '

def setWidth (room : Nat) (t : Text) : Text :=
  let cut := fitWidth room t
  cut ++ List.replicate (room - width cut) ' '

end HeaderAudit.Text
