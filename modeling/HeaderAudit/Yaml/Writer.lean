import HeaderAudit.Yaml.Scalar
import HeaderAudit.Yaml.Cursor

/-!
# Writing YAML

Documents of texts, lists and mappings in block style. A text is written plain when it reads back as
itself, in single quotes when a line break or a reading as something else forbids that, and in double
quotes when some character needs an escape. Long texts are folded at blanks.
-/

namespace HeaderAudit.Yaml

/-- A document whose scalars are texts. -/
inductive Tree where
  | text (t : Text)
  | list (items : List Tree)
  | map (pairs : List (Text × Tree))
  deriving Repr, Inhabited

namespace Tree

mutual

def toValue : Tree → Value
  | text t => .text t
  | list items => .list (valuesOfItems items)
  | map pairs => .map (valuesOfPairs pairs)

def valuesOfItems : List Tree → List Value
  | [] => []
  | item :: rest => toValue item :: valuesOfItems rest

def valuesOfPairs : List (Text × Tree) → List (Value × Value)
  | [] => []
  | (key, value) :: rest => (.text key, toValue value) :: valuesOfPairs rest

end

end Tree

namespace Writer

/-- The column after which a text is folded. -/
def foldColumn : Nat := 80

/-! ## The style of a scalar -/

inductive ScalarStyle where
  | plain
  | single
  | double
  deriving DecidableEq, Repr

def isWritable (c : Char) : Bool := c = '\n' || (0x20 ≤ c.toNat && c.toNat ≤ 0x7E)

def beginsWithMark (t : Text) : Bool :=
  match t with
  | [] => false
  | c :: rest =>
    "#,[]\x7b\x7d&*!|>'\"%@\x60".toList.contains c
      || ("?:-".toList.contains c && endsWord rest.head?)
      || "---".toList.isPrefixOf t || "...".toList.isPrefixOf t

/-- A colon at the end of a word or a hash at its beginning would end a plain scalar. The first
argument tells whether white space comes before the text. -/
def hasMarkWithin : Bool → Text → Bool
  | _, [] => false
  | spaced, c :: rest =>
    (c = ':' && endsWord rest.head?) || (c = '#' && spaced)
      || hasMarkWithin (endsWord (some c)) rest

def isSpaceOrBreak (c : Char) : Bool := c = ' ' || c = '\n'

def style (t : Text) : ScalarStyle :=
  let unescaped := t.all isWritable && !Text.includes [' ', '\n'] t
  let bounded := !(t.head?.any isSpaceOrBreak) && !(t.getLast?.any isSpaceOrBreak)
  if unescaped && bounded && !t.contains '\n' && !beginsWithMark t
      && !hasMarkWithin false t && Tag.ofPlain t = .str then .plain
  else if unescaped && !Text.includes ['\n', ' '] t then .single
  else .double

/-! ## The three forms -/

/-- The text as runs of blanks, of line breaks and of all else. -/
def runs (t : Text) : List Text :=
  t.splitBy fun a b => (a = ' ') == (b = ' ') && (a = '\n') == (b = '\n')

def newLine (indent : Nat) : Text := '\n' :: List.replicate indent ' '

def plainRuns (fold : Bool) (indent : Nat) : Nat → List Text → Text
  | _, [] => []
  | column, run :: rest =>
    if run = [' '] ∧ column > foldColumn ∧ fold then
      newLine indent ++ plainRuns fold indent indent rest
    else run ++ plainRuns fold indent (column + run.length) rest

/-- The runs of a single-quoted scalar from a column on; the scalar can be folded at a blank with text
before and behind it. -/
def singleRuns (fold : Bool) (indent : Nat) : Bool → Nat → List Text → Text
  | _, _, [] => []
  | isFirst, column, run :: rest =>
    match run with
    | '\n' :: _ =>
      '\n' :: run ++ List.replicate indent ' ' ++ singleRuns fold indent false indent rest
    | _ =>
      if run = [' '] ∧ column > foldColumn ∧ fold ∧ !isFirst ∧ !rest.isEmpty then
        newLine indent ++ singleRuns fold indent false indent rest
      else
        let written := run.flatMap fun c => if c = '\'' then ['\'', '\''] else [c]
        written ++ singleRuns fold indent false (column + written.length) rest

def shortEscape? : Char → Option Char
  | '\x00' => some '0'
  | '\x07' => some 'a'
  | '\x08' => some 'b'
  | '\t' => some 't'
  | '\n' => some 'n'
  | '\x0b' => some 'v'
  | '\x0c' => some 'f'
  | '\r' => some 'r'
  | '\x1b' => some 'e'
  | '"' => some '"'
  | '\\' => some '\\'
  | '\x85' => some 'N'
  | '\xa0' => some '_'
  | '\u2028' => some 'L'
  | '\u2029' => some 'P'
  | _ => none

def escape? (c : Char) : Option Text :=
  match shortEscape? c with
  | some e => some ['\\', e]
  | none =>
    if 0x20 ≤ c.toNat ∧ c.toNat ≤ 0x7E then none
    else if c.toNat ≤ 0xFF then some ('\\' :: 'x' :: Text.hexUpper 2 c.toNat)
    else if c.toNat ≤ 0xFFFF then some ('\\' :: 'u' :: Text.hexUpper 4 c.toNat)
    else some ('\\' :: 'U' :: Text.hexUpper 8 c.toNat)

/-- A fold in double quotes: a backslash hides the line break, and another one keeps a blank at the
beginning of the new line. -/
def foldDouble (indent : Nat) (next : Option Char) : Text × Nat :=
  if next = some ' ' then ('\\' :: newLine indent ++ ['\\'], indent + 1)
  else ('\\' :: newLine indent, indent)

/-- The characters of a double-quoted scalar from a column on. It is folded before a blank, and behind
an escape. -/
def doubleChars (fold : Bool) (indent : Nat) (isFirst afterEscape : Bool) :
    Nat → Text → Text
  | _, [] => []
  | column, c :: rest =>
    let within := fold && !isFirst && !rest.isEmpty
    match escape? c with
    | some e =>
      let column := column + e.length
      if within ∧ column > foldColumn + 1 then
        let (broken, column) := foldDouble indent rest.head?
        e ++ broken ++ doubleChars fold indent false true column rest
      else e ++ doubleChars fold indent false true column rest
    | none =>
      if within ∧ (c = ' ' ∨ afterEscape) ∧ column > foldColumn then
        let (broken, column) := foldDouble indent (some c)
        broken ++ c :: doubleChars fold indent false false (column + 1) rest
      else c :: doubleChars fold indent false false (column + 1) rest

def scalar (fold : Bool) (indent column : Nat) (t : Text) : Text :=
  match style t with
  | .plain => plainRuns fold indent column (runs t)
  | .single => '\'' :: singleRuns fold indent true (column + 1) (runs t) ++ ['\'']
  | .double => '"' :: doubleChars fold indent true true (column + 1) t ++ ['"']

/-! ## Collections -/

mutual

/-- A value behind the colon of its key; the first argument is the indentation of the key. -/
def valueBlock (indent column : Nat) : Tree → Text
  | .text t => ' ' :: scalar true (indent + 2) (column + 1) t ++ ['\n']
  | .list [] => " []\n"
  | .list (item :: rest) => '\n' :: itemBlocks indent (item :: rest)
  | .map [] => " \x7b\x7d\n"
  | .map (pair :: rest) => '\n' :: pairBlocks (indent + 2) (pair :: rest)

/-- An item behind its hyphen; the argument is the indentation of the hyphen. -/
def itemBlock (indent : Nat) : Tree → Text
  | .text t => scalar true (indent + 2) (indent + 2) t ++ ['\n']
  | .list [] => "[]\n"
  | .list (item :: rest) =>
    '-' :: ' ' :: itemBlock (indent + 2) item ++ itemBlocks (indent + 2) rest
  | .map [] => "\x7b\x7d\n"
  | .map ((key, value) :: rest) =>
    let name := scalar false (indent + 2) (indent + 2) key
    name ++ ':' :: valueBlock (indent + 2) (indent + 2 + name.length + 1) value
      ++ pairBlocks (indent + 2) rest

def itemBlocks (indent : Nat) : List Tree → Text
  | [] => []
  | item :: rest =>
    List.replicate indent ' ' ++ '-' :: ' ' :: itemBlock indent item ++ itemBlocks indent rest

def pairBlocks (indent : Nat) : List (Text × Tree) → Text
  | [] => []
  | (key, value) :: rest =>
    let name := scalar false indent indent key
    List.replicate indent ' ' ++ name
      ++ ':' :: valueBlock indent (indent + name.length + 1) value ++ pairBlocks indent rest

end

end Writer

def write : List (Text × Tree) → Text
  | [] => "\x7b\x7d\n"
  | pairs => Writer.pairBlocks 0 pairs

end HeaderAudit.Yaml
