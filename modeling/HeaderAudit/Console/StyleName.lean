import HeaderAudit.Number.Integer
import HeaderAudit.Text.LetterCase

/-!
# Names of styles

A style is written as words: attributes, colours, a colour for the background, a link. Two names are the
same style when they mean the same, so names are compared in one form: first the attributes in a fixed
order, then the colours. A name that means no style is only made lower-case. The parts of a colour are
read as numbers, and one that is no number is a fault.
-/

namespace HeaderAudit.Console

/-- The attributes in the order of the common form, each with its short names. -/
def styleAttributes : List (Text × List Text) :=
  [("bold", ["b"]), ("dim", ["d"]), ("italic", ["i"]), ("underline", ["u"]), ("blink", []),
    ("blink2", []), ("reverse", ["r"]), ("conceal", ["c"]), ("strike", ["s"]),
    ("underline2", ["uu"]), ("frame", []), ("encircle", []), ("overline", ["o"])]

def namedColours : List String := [
    "default",
    "black", "red", "green", "yellow", "blue", "magenta", "cyan", "white", "bright_black",
    "bright_red", "bright_green", "bright_yellow", "bright_blue", "bright_magenta", "bright_cyan",
    "bright_white", "grey0", "gray0", "navy_blue", "dark_blue", "blue3", "blue1", "dark_green",
    "deep_sky_blue4", "dodger_blue3", "dodger_blue2", "green4", "spring_green4", "turquoise4",
    "deep_sky_blue3", "dodger_blue1", "green3", "spring_green3", "dark_cyan", "light_sea_green",
    "deep_sky_blue2", "deep_sky_blue1", "spring_green2", "cyan3", "dark_turquoise", "turquoise2",
    "green1", "spring_green1", "medium_spring_green", "cyan2", "cyan1", "dark_red", "deep_pink4",
    "purple4", "purple3", "blue_violet", "orange4", "grey37", "gray37", "medium_purple4",
    "slate_blue3", "royal_blue1", "chartreuse4", "dark_sea_green4", "pale_turquoise4", "steel_blue",
    "steel_blue3", "cornflower_blue", "chartreuse3", "cadet_blue", "sky_blue3", "steel_blue1",
    "pale_green3", "sea_green3", "aquamarine3", "medium_turquoise", "chartreuse2", "sea_green2",
    "sea_green1", "aquamarine1", "dark_slate_gray2", "dark_magenta", "dark_violet", "purple",
    "light_pink4", "plum4", "medium_purple3", "slate_blue1", "yellow4", "wheat4", "grey53",
    "gray53", "light_slate_grey", "light_slate_gray", "medium_purple", "light_slate_blue",
    "dark_olive_green3", "dark_sea_green", "light_sky_blue3", "sky_blue2", "dark_sea_green3",
    "dark_slate_gray3", "sky_blue1", "chartreuse1", "light_green", "pale_green1",
    "dark_slate_gray1", "red3", "medium_violet_red", "magenta3", "dark_orange3", "indian_red",
    "hot_pink3", "medium_orchid3", "medium_orchid", "medium_purple2", "dark_goldenrod",
    "light_salmon3", "rosy_brown", "grey63", "gray63", "medium_purple1", "gold3", "dark_khaki",
    "navajo_white3", "grey69", "gray69", "light_steel_blue3", "light_steel_blue", "yellow3",
    "dark_sea_green2", "light_cyan3", "light_sky_blue1", "green_yellow", "dark_olive_green2",
    "dark_sea_green1", "pale_turquoise1", "deep_pink3", "magenta2", "hot_pink2", "orchid",
    "medium_orchid1", "orange3", "light_pink3", "pink3", "plum3", "violet", "light_goldenrod3",
    "tan", "misty_rose3", "thistle3", "plum2", "khaki3", "light_goldenrod2", "light_yellow3",
    "grey84", "gray84", "light_steel_blue1", "yellow2", "dark_olive_green1", "honeydew2",
    "light_cyan1", "red1", "deep_pink2", "deep_pink1", "magenta1", "orange_red1", "indian_red1",
    "hot_pink", "dark_orange", "salmon1", "light_coral", "pale_violet_red1", "orchid2", "orchid1",
    "orange1", "sandy_brown", "light_salmon1", "light_pink1", "pink1", "plum1", "gold1",
    "navajo_white1", "misty_rose1", "thistle1", "yellow1", "light_goldenrod1", "khaki1", "wheat1",
    "cornsilk1", "grey100", "gray100", "grey3", "gray3", "grey7", "gray7", "grey11", "gray11",
    "grey15", "gray15", "grey19", "gray19", "grey23", "gray23", "grey27", "gray27", "grey30",
    "gray30", "grey35", "gray35", "grey39", "gray39", "grey42", "gray42", "grey46", "gray46",
    "grey50", "gray50", "grey54", "gray54", "grey58", "gray58", "grey62", "gray62", "grey66",
    "gray66", "grey70", "gray70", "grey74", "gray74", "grey78", "gray78", "grey82", "gray82",
    "grey85", "gray85", "grey89", "gray89", "grey93", "gray93"
  ]

structure StyleParts where
  attributes : List (Text × Bool)
  colour : Option Text
  background : Option Text
  link : Option Text
  deriving DecidableEq, Repr, Inhabited

namespace StyleParts

def attribute? (word : Text) : Option Text :=
  (styleAttributes.find? fun entry => entry.1 = word || entry.2.contains word).map (·.1)

/-- The text between a beginning and a round bracket at the end. -/
def inBrackets? (start t : Text) : Option Text :=
  (Text.afterPrefix? start t).bind fun rest =>
    if rest.getLast? = some ')' then some rest.dropLast else none

/-- A colour by its name, its six hexadecimal digits or its number in a palette of 256. -/
def isPlainColour (word : Text) : Bool :=
  (namedColours.any fun name => name.toList = word)
    || (Text.afterPrefix? "#" word).any (fun t => t.length = 6 && t.all Text.isHexDigit)
    || (inBrackets? "color(" word).any fun t =>
      t.length ≤ 3 && (Text.readDigits? 10 t).any (· ≤ 255)

/-- The parts of a colour that is written as red, green and blue. -/
def mixture? (word : Text) : Option (List Text) :=
  (inBrackets? "rgb(" word).bind fun t =>
    if !t.isEmpty && t.all (fun c => Text.isDecimalDigit c || c = ',') then
      some (Text.fields ',' t)
    else none

def isColour (word : Text) : Except IntegerError Bool :=
  if isPlainColour word then .ok true
  else
    match mixture? word with
    | some [red, green, blue] => do
      let red ← Integer.read 10 red
      let green ← Integer.read 10 green
      let blue ← Integer.read 10 blue
      .ok (red ≤ 255 && green ≤ 255 && blue ≤ 255)
    | _ => .ok false

def setAttribute (name : Text) (on : Bool) (parts : StyleParts) : StyleParts :=
  { parts with attributes := (name, on) :: parts.attributes }

/-- Reads the words of a style; none if they make no style. -/
def ofWords? : List Text → StyleParts → Except IntegerError (Option StyleParts)
  | [], parts => .ok (some parts)
  | word :: rest, parts =>
    let word := Text.lower word
    if word = "on".toList then
      match rest with
      | colour :: rest => do
        let colour := Text.lower colour
        if ← isColour colour then ofWords? rest { parts with background := some colour }
        else .ok none
      | [] => .ok none
    else if word = "not".toList then
      match rest with
      | name :: rest =>
        match attribute? name with
        | some name => ofWords? rest (parts.setAttribute name false)
        | none => .ok none
      | [] => .ok none
    else if word = "link".toList then
      match rest with
      | target :: rest => ofWords? rest { parts with link := some target }
      | [] => .ok none
    else
      match attribute? word with
      | some name => ofWords? rest (parts.setAttribute name true)
      | none => do
        if ← isColour word then ofWords? rest { parts with colour := some word } else .ok none

def attributeWords (parts : StyleParts) : List Text :=
  styleAttributes.filterMap fun (name, _) =>
    (parts.attributes.lookup name).map fun on => if on then name else ("not " : Text) ++ name

def toText (parts : StyleParts) : Text :=
  let words := parts.attributeWords ++ parts.colour.toList
    ++ (parts.background.map (("on " : Text) ++ ·)).toList
    ++ (parts.link.map (("link " : Text) ++ ·)).toList
  if words.isEmpty then "none" else Text.join [' '] words

end StyleParts

def wordsOf (t : Text) : List Text :=
  (Text.fields ' ' (t.map fun c => if Text.isBlank c then ' ' else c)).filter (!·.isEmpty)

/-- The parts of a style; none if the text is no style. -/
def readStyle (t : Text) : Except IntegerError (Option StyleParts) :=
  if Text.strip t = "none".toList then .ok (some default)
  else StyleParts.ofWords? (wordsOf t) default

def normalStyle (name : Text) : Except IntegerError Text := do
  match ← readStyle name with
  | some parts => .ok parts.toText
  | none => .ok (Text.lower (Text.strip name))

/-- What goes wrong when a style is looked up. What is no style is none, and that is no fault. -/
def styleFault? (style : Text) : Option IntegerError :=
  match readStyle style with
  | .ok _ => none
  | .error cause => some cause

end HeaderAudit.Console
