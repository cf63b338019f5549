import HeaderAudit.Text.Blank
import HeaderAudit.Text.LetterCase

/-!
# Emoji names

A name between two colons stands for a picture. A name may say at its end whether it is to be shown as a
picture or as text. What is no known name stays as it is, with both its colons.
-/

namespace HeaderAudit.Console.Emoji

/-- The pictures that names in small letters stand for. -/
abbrev Pictures := Text → Option Text

/-- The ends of names that ask for a way of showing, with the character that does. -/
def variants : List (Text × Char) := [("-emoji", '\uFE0F'), ("-text", '\uFE0E')]

def ofName? (pictures : Pictures) (name : Text) : Option Text :=
  match variants.find? (·.1.isSuffixOf name) with
  | some (ending, mark) =>
    (pictures (Text.lower (name.take (name.length - ending.length)))).map (· ++ [mark])
  | none => pictures (Text.lower name)

/-- The text up to the next colon, if no white space comes before it. -/
def nameBeforeColon? : Text → Option Text
  | [] => none
  | c :: rest =>
    if c = ':' then some []
    else if Text.isBlank c then none
    else (nameBeforeColon? rest).map (c :: ·)

/-- A character, or a name with a colon on either side. -/
inductive Part where
  | char (c : Char)
  | name (t : Text)
  deriving DecidableEq, Repr

/-- Takes a text apart; the number counts the characters that still belong to the last name. -/
def partsFrom : Nat → Text → List Part
  | _, [] => []
  | left + 1, _ :: rest => partsFrom left rest
  | 0, c :: rest =>
    match if c = ':' then nameBeforeColon? rest else none with
    | some name => .name name :: partsFrom (name.length + 1) rest
    | none => .char c :: partsFrom 0 rest

def parts (t : Text) : List Part := partsFrom 0 t

def Part.shownWith (pictures : Pictures) : Part → Text
  | char c => [c]
  | name t => (ofName? pictures t).getD (':' :: t ++ [':'])

def replaceWith (pictures : Pictures) (t : Text) : Text := (parts t).flatMap (·.shownWith pictures)

end HeaderAudit.Console.Emoji
