import HeaderAudit.Analysis
import HeaderAudit.Console.Markup

/-!
# Lines with styles

A coloured line as it is shown: its text, one style for the whole of it, and styles for spans of it. The
text is what is shown of the line, and spans are cut to its length.
-/

namespace HeaderAudit

structure StyledLine where
  text : Text
  style : Text
  spans : List StyledSpan
  deriving DecidableEq, Repr, Inhabited

def Tint.lineStyle : Tint → Text
  | green => "green"
  | yellow => "yellow"
  | red => "red"
  | none => ""

def Tint.segmentStyle? : Tint → Option Text
  | green => some "bold green"
  | yellow => some "bold yellow"
  | red => some "bold red"
  | none => Option.none

/-- The span of a segment in a text of a length. A segment that is empty, begins before the text or
begins behind it has none. -/
def Segment.span? (length : Nat) (s : Segment) : Option StyledSpan := do
  let style ← s.tint.segmentStyle?
  if 0 ≤ s.start ∧ s.start < s.stop ∧ s.start < length then
    some ⟨s.start.toNat, min length s.stop.toNat, style⟩
  else none

def ColouredLine.styled (line : ColouredLine) : StyledLine :=
  let shown := Console.Markup.shown line.text
  ⟨shown, line.tint.lineStyle, line.segments.filterMap (Segment.span? shown.length)⟩

end HeaderAudit
