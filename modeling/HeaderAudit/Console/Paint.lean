import HeaderAudit.Console.Markup
import HeaderAudit.Console.Wrap

/-!
# Painting

When lines are painted, the styles of all their spans are looked up. What is no style is none, but a style
with a colour that cannot be read is a fault.
-/

namespace HeaderAudit.Console

def faultyStyle? (lines : List Styled) : Option IntegerError :=
  (lines.flatMap Styled.spans).findSome? fun span => styleFault? span.style

/-- The texts of the lines. -/
def paint (lines : List Styled) : Except Markup.Error (List Text) :=
  match faultyStyle? lines with
  | some cause => .error (.badColour cause)
  | none => .ok (lines.map Styled.text)

end HeaderAudit.Console
