import HeaderAudit.Text.Basic

/-!
# White space

The white space of headers, URLs and rule files: the ASCII controls that separate, the four ASCII
information separators, the next-line character and the Unicode spaces. The zero-width space and the
byte order mark are not white space.
-/

namespace HeaderAudit.Text

def isBlank (c : Char) : Bool :=
  let code := c.toNat
  (0x9 ≤ code && code ≤ 0xD) || (0x1C ≤ code && code ≤ 0x20) || code == 0x85 || code == 0xA0
    || code == 0x1680 || (0x2000 ≤ code && code ≤ 0x200A) || code == 0x2028 || code == 0x2029
    || code == 0x202F || code == 0x205F || code == 0x3000

def strip (t : Text) : Text := trimWhile isBlank t

def blank (t : Text) : Bool := t.all isBlank

def stripRight (t : Text) : Text := dropRightWhile isBlank t

end HeaderAudit.Text
