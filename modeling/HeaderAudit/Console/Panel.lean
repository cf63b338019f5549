import HeaderAudit.Console.Wrap

/-!
# Panels

A text in a frame as wide as the room, with a title in its upper edge.
-/

namespace HeaderAudit.Console

structure Panel where
  title : Text
  content : Text
  deriving DecidableEq, Repr, Inhabited

namespace Panel

def edge (count : Nat) : Text := List.replicate count '─'

/-- The upper edge: the title stands behind its first column, if there is room for it. -/
def upperEdge (room : Nat) (title : Text) : Text :=
  if room ≤ 4 then '╭' :: edge (room - 2) ++ ['╮']
  else
    let label := Text.fitWidth (room - 4) (' ' :: title ++ [' '])
    '╭' :: '─' :: label ++ edge (room - 4 - Text.width label) ++ ['─', '╮']

def lowerEdge (room : Nat) : Text := '╰' :: edge (room - 2) ++ ['╯']

def framed (room : Nat) (line : Text) : Text :=
  '│' :: Text.setWidth (room - 2) (' ' :: Text.setWidth (room - 4) line ++ [' ']) ++ ['│']

def contentLines (room : Nat) (panel : Panel) : List Text :=
  if room ≤ 4 then [] else Wrap.textLines (room - 4) .natural .fold panel.content

def lines (room : Nat) (panel : Panel) : List Text :=
  upperEdge room panel.title :: (panel.contentLines room).map (framed room) ++ [lowerEdge room]

end Panel

end HeaderAudit.Console
