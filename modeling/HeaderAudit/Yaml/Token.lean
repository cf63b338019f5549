import HeaderAudit.Yaml.Cursor
import HeaderAudit.Yaml.Error

/-!
# Tokens of a YAML text

The marks and scalars of a text in the order of the text, with a token where an indented block begins
and where it ends. A key that has no mark of its own is recognised by the colon behind it, so its
token is put in afterwards.
-/

namespace HeaderAudit.Yaml

/-- A tag as written: a handle and a suffix, or a name in full. -/
structure TagMark where
  handle : Option Text
  suffix : Text
  deriving DecidableEq, Repr

/-- What a scalar spells. A quoted one may escape code points that are no characters; in the text these
stand as replacement characters. -/
structure Spelling where
  text : Text
  /-- All code points, if some of them are no characters. -/
  broken : Option (List Nat)
  deriving DecidableEq, Repr

def isCharacter (code : Nat) : Bool := code < 0xD800 || (0xE000 ≤ code && code < 0x110000)

def Spelling.ofText (t : Text) : Spelling := ⟨t, none⟩

def Spelling.ofCodes (codes : List Nat) : Spelling :=
  ⟨codes.map fun code => if isCharacter code then Char.ofNat code else '\uFFFD',
    if codes.all isCharacter then none else some codes⟩

/-- A scalar as written. -/
structure ScalarMark where
  spelling : Spelling
  isPlain : Bool
  deriving DecidableEq, Repr

inductive Token where
  | versionDirective (major : Nat)
  | tagDirective (handle tagStart : Text)
  | otherDirective
  | documentStart
  | documentEnd
  | blockSequenceStart
  | blockMappingStart
  | blockEnd
  | flowSequenceStart
  | flowSequenceEnd
  | flowMappingStart
  | flowMappingEnd
  | key
  | value
  | blockEntry
  | flowEntry
  | alias (name : Text)
  | anchor (name : Text)
  | tag (mark : TagMark)
  | scalar (mark : ScalarMark)
  | streamEnd
  /-- No token can be read from here on. -/
  | fault (error : Error)
  deriving DecidableEq, Repr, Inhabited

/-- A token that becomes a key if a colon follows. -/
structure PossibleKey where
  depth : Nat
  position : Nat
  required : Bool
  index : Nat
  line : Nat
  column : Nat
  deriving Repr

/-- What has been read and what the layout so far allows. -/
structure Scan where
  cursor : Cursor
  tokens : Array Token
  flowDepth : Nat
  indent : Int
  outerIndents : List Int
  keyAllowed : Bool
  possibleKeys : List PossibleKey

namespace Scan

def malformed {α : Type} (problem : String) : Except Error α := .error (.malformed problem.toList)

def start (t : Text) : Scan := ⟨Cursor.start t, #[], 0, -1, [], true, []⟩

def emit (token : Token) (s : Scan) : Scan := { s with tokens := s.tokens.push token }

def inBlock (s : Scan) : Bool := s.flowDepth == 0

/-- Closes the blocks that are indented further than a column. -/
def unwindTo (column : Int) (s : Scan) : Scan :=
  if s.inBlock then
    let closed := (s.indent :: s.outerIndents).takeWhile (· > column)
    let open_ := (s.indent :: s.outerIndents).dropWhile (· > column)
    { s with
      tokens := s.tokens ++ Array.replicate closed.length Token.blockEnd
      indent := open_.head?.getD (-1)
      outerIndents := open_.tail }
  else s

/-- Opens a block at a column that is indented further than the block around it. -/
def openBlock (column : Nat) (s : Scan) : Bool × Scan :=
  if s.indent < column then
    (true, { s with indent := column, outerIndents := s.indent :: s.outerIndents })
  else (false, s)

/-- A key cannot span lines or reach over more than 1024 characters. -/
def dropStaleKeys (s : Scan) : Except Error Scan :=
  let stale (k : PossibleKey) := k.line != s.cursor.line || s.cursor.index - k.index > 1024
  if s.possibleKeys.any fun k => stale k && k.required then malformed "could not find expected ':'"
  else .ok { s with possibleKeys := s.possibleKeys.filter (!stale ·) }

def dropKey (s : Scan) : Except Error Scan :=
  if s.possibleKeys.any fun k => k.depth == s.flowDepth && k.required then
    malformed "could not find expected ':'"
  else .ok { s with possibleKeys := s.possibleKeys.filter (·.depth != s.flowDepth) }

def noteKey (s : Scan) : Except Error Scan := do
  if s.keyAllowed then
    let required := s.inBlock && s.indent == s.cursor.column
    let s ← s.dropKey
    .ok { s with
      possibleKeys := ⟨s.flowDepth, s.tokens.size, required, s.cursor.index, s.cursor.line,
        s.cursor.column⟩ :: s.possibleKeys }
  else .ok s

/-- Passes over blanks, comments and line breaks up to the next token. -/
def skipToToken : Nat → Scan → Scan
  | 0, s => s
  | steps + 1, s =>
    let c := s.cursor.skipSpaces
    let c := if c.peek = some '#' then c.skipWhile (!isBreak ·) else c
    match c.takeBreak with
    | ([], c) => { s with cursor := c }
    | (_, c) =>
      skipToToken steps { s with cursor := c, keyAllowed := s.keyAllowed || s.inBlock }

/-! ## Directives, anchors and tags -/

def isNameChar (c : Char) : Bool := c.isAlphanum || c = '-' || c = '_'

def skipLineEnd (c : Cursor) : Except Error Cursor :=
  let c := c.skipSpaces
  let c := if c.peek = some '#' then c.skipWhile (!isBreak ·) else c
  if endsLine c.peek then .ok c.takeBreak.2 else malformed "expected a comment or a line break"

def takeNumber (c : Cursor) : Except Error (Nat × Cursor) :=
  match c.takeWhile Char.isDigit with
  | ([], _) => malformed "expected a digit"
  | (digits, c) =>
    match Integer.read 10 digits with
    | .ok n => .ok (n.toNat, c)
    | .error cause => .error (.scalar (.integer cause))

def takeVersion (c : Cursor) : Except Error (Nat × Cursor) := do
  let (major, c) ← takeNumber c.skipSpaces
  if c.peek ≠ some '.' then malformed "expected a digit or '.'"
  let (_, c) ← takeNumber c.next
  if endsItem c.peek then .ok (major, c) else malformed "expected a digit or ' '"

/-- A handle: an exclamation mark, or a name between two. -/
def takeTagHandle (c : Cursor) : Except Error (Text × Cursor) :=
  match c.rest with
  | '!' :: ' ' :: _ => .ok (['!'], c.next)
  | '!' :: rest =>
    let name := rest.takeWhile isNameChar
    match rest.drop name.length with
    | '!' :: _ => .ok ('!' :: name ++ ['!'], c.advance (name.length + 2))
    | _ => malformed "expected '!'"
  | _ => malformed "expected '!'"

def isUriChar (c : Char) : Bool := c.isAlphanum || "-;/?:@&=+$,_.!~*'()[]%".toList.contains c

/-- The bytes that a run of percent escapes stands for. -/
def takeEscapes : Text → Except Error (List UInt8 × Nat)
  | '%' :: a :: b :: rest =>
    match Text.readDigits? 16 [a, b] with
    | some n => do
      let (bytes, size) ← takeEscapes rest
      .ok (n.toUInt8 :: bytes, size + 3)
    | none => malformed "expected URI escape sequence"
  | '%' :: _ => malformed "expected URI escape sequence"
  | _ => .ok ([], 0)

def textOfBytes? (bytes : List UInt8) : Option Text :=
  (String.fromUTF8? (ByteArray.mk bytes.toArray)).map String.toList

def takeUriPieces : Nat → Cursor → Except Error (Text × Cursor)
  | 0, c => .ok ([], c)
  | steps + 1, c => do
    match c.rest with
    | '%' :: _ =>
      let (bytes, size) ← takeEscapes c.rest
      match textOfBytes? bytes with
      | none => malformed "an escape is not UTF-8"
      | some t =>
        let (more, c) ← takeUriPieces steps (c.advance size)
        .ok (t ++ more, c)
    | ch :: _ =>
      if isUriChar ch then
        let (more, c) ← takeUriPieces steps c.next
        .ok (ch :: more, c)
      else .ok ([], c)
    | [] => .ok ([], c)

def takeUri (c : Cursor) : Except Error (Text × Cursor) :=
  if c.peek.any isUriChar then takeUriPieces (c.rest.length + 1) c else malformed "expected URI"

def takeTagDirective (c : Cursor) : Except Error (Token × Cursor) := do
  let (handle, c) ← takeTagHandle c.skipSpaces
  if c.peek ≠ some ' ' then malformed "expected ' '"
  let (tagStart, c) ← takeUri c.skipSpaces
  if endsItem c.peek then .ok (.tagDirective handle tagStart, c) else malformed "expected ' '"

def takeDirective (c : Cursor) : Except Error (Token × Cursor) := do
  let (name, c) := c.next.takeWhile isNameChar
  if name.isEmpty then malformed "expected a directive name"
  if !endsItem c.peek then malformed "expected a directive name"
  let (token, c) ←
    if name = "YAML".toList then do
      let (major, c) ← takeVersion c
      pure (Token.versionDirective major, c)
    else if name = "TAG".toList then takeTagDirective c
    else pure (Token.otherDirective, c.skipWhile (!isBreak ·))
  let c ← skipLineEnd c
  .ok (token, c)

def takeAnchorName (c : Cursor) : Except Error (Text × Cursor) :=
  let (name, c) := c.next.takeWhile isNameChar
  if name.isEmpty then malformed "expected a name"
  else if endsWord c.peek || c.peek.any ("?:,]\x7d%@\x60".toList.contains ·) then .ok (name, c)
  else malformed "expected a name"

/-- The tag has a second exclamation mark before its line or word ends. -/
def hasNamedHandle (c : Cursor) : Bool :=
  (c.rest.drop 1).takeWhile (fun ch => !(isBreak ch || ch = ' ')) |>.contains '!'

def takeTag (c : Cursor) : Except Error (TagMark × Cursor) := do
  let (mark, c) ←
    if c.peekAt 1 = some '<' then do
      let (name, c) ← takeUri (c.advance 2)
      if c.peek ≠ some '>' then malformed "expected '>'"
      pure (TagMark.mk none name, c.next)
    else if endsWord (c.peekAt 1) then pure (TagMark.mk none ['!'], c.next)
    else do
      let (handle, c) ← if hasNamedHandle c then takeTagHandle c else pure (['!'], c.next)
      let (suffix, c) ← takeUri c
      pure (TagMark.mk (some handle) suffix, c)
  if endsItem c.peek then .ok (mark, c) else malformed "expected ' '"

/-! ## Block scalars -/

/-- How the line breaks at the end of a block scalar are treated. -/
inductive Chomping where
  | strip
  | clip
  | keep
  deriving DecidableEq, Repr

def chompingMark? : Option Char → Option Chomping
  | some '+' => some .keep
  | some '-' => some .strip
  | _ => none

def takeIncrement (c : Cursor) : Except Error (Option Nat × Cursor) :=
  match c.peek with
  | some ch =>
    if ch = '0' then malformed "expected indentation indicator in the range 1-9"
    else if ch.isDigit then .ok (some (ch.toNat - '0'.toNat), c.next)
    else .ok (none, c)
  | none => .ok (none, c)

/-- The marks behind the bar or the angle: chomping and indentation, in either order. -/
def takeBlockHeader (c : Cursor) : Except Error (Chomping × Option Nat × Cursor) := do
  let (chomping, increment, c) ←
    match chompingMark? c.peek with
    | some chomping => do
      let (increment, c) ← takeIncrement c.next
      pure (chomping, increment, c)
    | none => do
      let (increment, c) ← takeIncrement c
      match increment, chompingMark? c.peek with
      | some _, some chomping => pure (chomping, increment, c.next)
      | _, _ => pure (Chomping.clip, increment, c)
  if endsItem c.peek then .ok (chomping, increment, c)
  else malformed "expected chomping or indentation indicators"

/-- The empty lines before a block scalar, and the deepest indentation among them and of what comes
next. -/
def takeLeadingLines : Nat → Nat → Cursor → Text × Nat × Cursor
  | 0, deepest, c => ([], deepest, c)
  | steps + 1, deepest, c =>
    let c := c.skipSpaces
    let deepest := max deepest c.column
    match c.takeBreak with
    | ([], c) => ([], deepest, c)
    | (lineBreak, c) =>
      let (breaks, deepest, c) := takeLeadingLines steps deepest c
      (lineBreak ++ breaks, deepest, c)

def takeEmptyLines (indent : Nat) : Nat → Cursor → Text × Cursor
  | 0, c => ([], c)
  | steps + 1, c =>
    let c := c.skipSpacesTo indent
    match c.takeBreak with
    | ([], c) => ([], c)
    | (lineBreak, c) =>
      let (breaks, c) := takeEmptyLines indent steps c
      (lineBreak ++ breaks, c)

/-- The lines of a block scalar from a line with text on. A folded one joins lines by a blank, unless
one of them begins with white space. -/
def takeBlockLines (folded : Bool) (indent : Nat) (chomping : Chomping) :
    Nat → Text → Cursor → Text × Cursor
  | 0, _, c => ([], c)
  | steps + 1, breaks, c =>
    let isSpaced (c : Cursor) := c.peek.any fun ch => ch = ' ' || ch = '\t'
    let (line, after) := c.takeWhile (!isBreak ·)
    let (lineBreak, after) := after.takeBreak
    let (following, after) := takeEmptyLines indent (after.rest.length + 1) after
    if after.column = indent ∧ after.peek.isSome then
      let joint :=
        if folded && lineBreak = ['\n'] && !isSpaced c && !isSpaced after then
          if following.isEmpty then [' '] else []
        else lineBreak
      let (more, after) := takeBlockLines folded indent chomping steps following after
      (breaks ++ line ++ joint ++ more, after)
    else
      let tail := match chomping with
        | .strip => []
        | .clip => lineBreak
        | .keep => lineBreak ++ following
      (breaks ++ line ++ tail, after)

def takeBlockScalar (outer : Int) (c : Cursor) : Except Error (Text × Cursor) := do
  let folded := c.peek = some '>'
  let (chomping, increment, c) ← takeBlockHeader c.next
  let c ← skipLineEnd c
  let least := (max 1 (outer + 1)).toNat
  let (breaks, indent, c) := match increment with
    | none =>
      let (breaks, deepest, c) := takeLeadingLines (c.rest.length + 1) 0 c
      (breaks, max least deepest, c)
    | some n =>
      let indent := least + n - 1
      let (breaks, c) := takeEmptyLines indent (c.rest.length + 1) c
      (breaks, indent, c)
  if c.column = indent ∧ c.peek.isSome then
    .ok (takeBlockLines folded indent chomping (c.rest.length + 1) breaks c)
  else .ok (if chomping = .keep then breaks else [], c)

/-! ## Quoted scalars -/

def escapedChar? : Char → Option Char
  | '0' => some '\x00'
  | 'a' => some '\x07'
  | 'b' => some '\x08'
  | 't' => some '\t'
  | '\t' => some '\t'
  | 'n' => some '\n'
  | 'v' => some '\x0b'
  | 'f' => some '\x0c'
  | 'r' => some '\r'
  | 'e' => some '\x1b'
  | ' ' => some ' '
  | '"' => some '"'
  | '\\' => some '\\'
  | '/' => some '/'
  | 'N' => some '\x85'
  | '_' => some '\xa0'
  | 'L' => some '\u2028'
  | 'P' => some '\u2029'
  | _ => none

def escapeDigits? : Char → Option Nat
  | 'x' => some 2
  | 'u' => some 4
  | 'U' => some 8
  | _ => none

/-- An escaped code point, which need not be a character. -/
def takeCodePoint (digits : Nat) (c : Cursor) : Except Error (Nat × Cursor) :=
  let written := c.rest.take digits
  if written.length = digits ∧ written.all Text.isHexDigit then
    let code := (Text.readDigits? 16 written).getD 0
    if code > 0x7FFFFFFF then .error (.scalar .codePointOverflow)
    else if code > 0x10FFFF then .error (.scalar .noSuchCodePoint)
    else .ok (code, c.advance digits)
  else malformed "expected escape sequence of hexadecimal numbers"

/-- The line breaks of a quoted scalar, with the blanks around them left out. -/
def takeQuotedBreaks : Nat → Cursor → Except Error (Text × Cursor)
  | 0, c => .ok ([], c)
  | steps + 1, c =>
    if c.atDocumentMarker then malformed "found unexpected document separator"
    else
      let c := c.skipWhile fun ch => ch = ' ' || ch = '\t'
      match c.takeBreak with
      | ([], c) => .ok ([], c)
      | (lineBreak, c) => do
        let (breaks, c) ← takeQuotedBreaks steps c
        .ok (lineBreak ++ breaks, c)

/-- A line break within a quoted scalar: a blank, or the empty lines behind it. -/
def foldBreak (lineBreak breaks : Text) : Text :=
  (if lineBreak ≠ ['\n'] then lineBreak else if breaks.isEmpty then [' '] else []) ++ breaks

/-- The code points of a quoted scalar up to its closing quote. -/
def takeQuoted (quote : Char) : Nat → Cursor → Except Error (List Nat × Cursor)
  | 0, _ => malformed "found unexpected end of stream"
  | steps + 1, c => do
    let continueWith (codes : List Nat) (c : Cursor) : Except Error (List Nat × Cursor) := do
      let (more, c) ← takeQuoted quote steps c
      .ok (codes ++ more, c)
    let continueWithText (t : Text) := continueWith (t.map Char.toNat)
    match c.rest with
    | [] => malformed "found unexpected end of stream"
    | ch :: rest =>
      if ch = quote then
        if quote = '\'' ∧ rest.head? = some '\'' then continueWithText ['\''] (c.advance 2)
        else .ok ([], c.next)
      else if ch = '\\' ∧ quote = '"' then
        match rest with
        | [] => malformed "found unknown escape character"
        | e :: _ =>
          if let some ch := escapedChar? e then continueWithText [ch] (c.advance 2)
          else if let some digits := escapeDigits? e then
            let (code, c) ← takeCodePoint digits (c.advance 2)
            continueWith [code] c
          else if isBreak e then
            let (breaks, c) ← takeQuotedBreaks (c.rest.length + 1) c.next.takeBreak.2
            continueWithText breaks c
          else malformed "found unknown escape character"
      else if ch = ' ' ∨ ch = '\t' ∨ isBreak ch then
        let (spaces, after) := c.takeWhile fun ch => ch = ' ' || ch = '\t'
        match after.takeBreak with
        | ([], after) =>
          if after.peek.isNone then malformed "found unexpected end of stream"
          else continueWithText spaces after
        | (lineBreak, after) =>
          let (breaks, after) ← takeQuotedBreaks (after.rest.length + 1) after
          continueWithText (foldBreak lineBreak breaks) after
      else continueWithText [ch] c.next

/-! ## Plain scalars -/

/-- The part of a plain scalar that stands on one line without blanks. -/
def plainRun (inFlow : Bool) : Text → Text
  | [] => []
  | ch :: rest =>
    let ends := endsWord (some ch)
      || (ch = ':' && (endsWord rest.head?
        || (inFlow && rest.head?.any (",[]\x7b\x7d".toList.contains ·))))
      || (inFlow && ",?[]\x7b\x7d".toList.contains ch)
    if ends then [] else ch :: plainRun inFlow rest

/-- The empty lines within a plain scalar; none if a document ends there. -/
def takePlainBreaks : Nat → Cursor → Option (Text × Cursor) × Cursor
  | 0, c => (some ([], c), c)
  | steps + 1, c =>
    if c.atDocumentMarker then (none, c)
    else
      let c := c.skipSpaces
      match c.takeBreak with
      | ([], c) => (some ([], c), c)
      | (lineBreak, c) =>
        match takePlainBreaks steps c with
        | (some (breaks, c), _) => (some (lineBreak ++ breaks, c), c)
        | (none, c) => (none, c)

/-- The white space behind a run of a plain scalar as it counts if the scalar goes on, whether a line
ended, and the place behind it. -/
def takePlainSpaces (c : Cursor) : Text × Bool × Cursor :=
  let (spaces, c) := c.takeWhile (· = ' ')
  match c.takeBreak with
  | ([], c) => (spaces, false, c)
  | (lineBreak, c) =>
    match takePlainBreaks (c.rest.length + 1) c with
    | (some (breaks, c), _) => (foldBreak lineBreak breaks, true, c)
    | (none, c) => ([], true, c)

def takePlain (inFlow : Bool) (indent : Int) : Nat → Cursor → Text × Bool × Cursor
  | 0, c => ([], false, c)
  | steps + 1, c =>
    if c.peek = some '#' then ([], false, c)
    else
      match plainRun inFlow c.rest with
      | [] => ([], false, c)
      | run =>
        let (spaces, broken, after) := takePlainSpaces (c.advance run.length)
        if spaces.isEmpty ∨ after.peek = some '#' ∨ (!inFlow ∧ (after.column : Int) < indent) then
          (run, broken, after)
        else
          match takePlain inFlow indent steps after with
          | ([], _, after) => (run, broken, after)
          | (more, moreBroken, after) => (run ++ spaces ++ more, moreBroken, after)

/-! ## The next token -/

def takeDocumentMark (token : Token) (s : Scan) : Except Error Scan := do
  let s ← (s.unwindTo (-1)).dropKey
  .ok { s.emit token with cursor := s.cursor.advance 3, keyAllowed := false }

def openFlow (token : Token) (s : Scan) : Except Error Scan := do
  let s ← s.noteKey
  .ok { s.emit token with
    cursor := s.cursor.next, flowDepth := s.flowDepth + 1, keyAllowed := true }

def closeFlow (token : Token) (s : Scan) : Except Error Scan := do
  let s ← s.dropKey
  if s.flowDepth = 0 then malformed "expected the node content"
  .ok { s.emit token with
    cursor := s.cursor.next, flowDepth := s.flowDepth - 1, keyAllowed := false }

/-- A hyphen or a question mark, which opens a block where it is indented further. -/
def takeBlockMark (opening token : Token) (allowAfter : Bool) (s : Scan) : Except Error Scan := do
  let s ←
    if s.inBlock then
      if !s.keyAllowed then malformed "entries are not allowed here"
      else
        let (opened, s) := s.openBlock s.cursor.column
        pure (if opened then s.emit opening else s)
    else pure s
  let s ← s.dropKey
  .ok { s.emit token with cursor := s.cursor.next, keyAllowed := allowAfter }

/-- A colon turns the possible key before it into a key; without one it begins a value by itself. -/
def takeValueMark (s : Scan) : Except Error Scan := do
  match s.possibleKeys.find? (·.depth == s.flowDepth) with
  | some k =>
    let s := { s with possibleKeys := s.possibleKeys.filter (·.depth != s.flowDepth) }
    let (opened, s) := if s.inBlock then s.openBlock k.column else (false, s)
    let added := if opened then #[Token.blockMappingStart, Token.key] else #[Token.key]
    let tokens := s.tokens.extract 0 k.position ++ added
      ++ s.tokens.extract k.position s.tokens.size
    .ok { s with
      tokens := tokens.push .value, cursor := s.cursor.next, keyAllowed := false }
  | none =>
    let s ←
      if s.inBlock then
        if !s.keyAllowed then malformed "mapping values are not allowed here"
        else
          let (opened, s) := s.openBlock s.cursor.column
          pure (if opened then s.emit .blockMappingStart else s)
      else pure s
    let s ← { s with keyAllowed := s.inBlock }.dropKey
    .ok { s.emit .value with cursor := s.cursor.next }

def takeNoted (s : Scan) (take : Cursor → Except Error (Token × Cursor)) : Except Error Scan := do
  let s ← s.noteKey
  let (token, c) ← take s.cursor
  .ok { s.emit token with cursor := c, keyAllowed := false }

def takePlainScalar (s : Scan) : Except Error Scan := do
  let s ← s.noteKey
  let (t, broken, c) := takePlain (!s.inBlock) (s.indent + 1) (s.cursor.rest.length + 1) s.cursor
  .ok { s.emit (.scalar ⟨.ofText t, true⟩) with cursor := c, keyAllowed := broken }

def atPlain (s : Scan) : Bool :=
  match s.cursor.peek with
  | none => false
  | some ch =>
    !(endsWord (some ch) || "-?:,[]\x7b\x7d#&*!|>'\"%@\x60".toList.contains ch)
      || (!endsWord (s.cursor.peekAt 1) && (ch = '-' || (s.inBlock && (ch = '?' || ch = ':'))))

def takeToken (s : Scan) : Except Error Scan := do
  let c := s.cursor
  let aloneOrFlow := !s.inBlock || endsWord (c.peekAt 1)
  match c.peek with
  | none => .ok s
  | some ch =>
    if ch = '%' ∧ c.column = 0 then
      let s ← (s.unwindTo (-1)).dropKey
      let (token, c) ← takeDirective s.cursor
      .ok { s.emit token with cursor := c, keyAllowed := false }
    else if c.column = 0 ∧ c.atMarker '-' then s.takeDocumentMark .documentStart
    else if c.column = 0 ∧ c.atMarker '.' then s.takeDocumentMark .documentEnd
    else if ch = '[' then s.openFlow .flowSequenceStart
    else if ch = '\x7b' then s.openFlow .flowMappingStart
    else if ch = ']' then s.closeFlow .flowSequenceEnd
    else if ch = '\x7d' then s.closeFlow .flowMappingEnd
    else if ch = ',' then
      let s ← s.dropKey
      .ok { s.emit .flowEntry with cursor := c.next, keyAllowed := true }
    else if ch = '-' ∧ endsWord (c.peekAt 1) then
      s.takeBlockMark .blockSequenceStart .blockEntry true
    else if ch = '?' ∧ aloneOrFlow then s.takeBlockMark .blockMappingStart .key s.inBlock
    else if ch = ':' ∧ aloneOrFlow then s.takeValueMark
    else if ch = '*' then
      s.takeNoted fun c => (fun (name, c) => (.alias name, c)) <$> takeAnchorName c
    else if ch = '&' then
      s.takeNoted fun c => (fun (name, c) => (.anchor name, c)) <$> takeAnchorName c
    else if ch = '!' then s.takeNoted fun c => (fun (mark, c) => (.tag mark, c)) <$> takeTag c
    else if (ch = '|' ∨ ch = '>') ∧ s.inBlock then
      let s ← s.dropKey
      let (t, c) ← takeBlockScalar s.indent s.cursor
      .ok { s.emit (.scalar ⟨.ofText t, false⟩) with cursor := c, keyAllowed := true }
    else if ch = '\'' ∨ ch = '"' then
      s.takeNoted fun c => do
        let (codes, c) ← takeQuoted ch (c.rest.length + 1) c.next
        pure (.scalar ⟨.ofCodes codes, false⟩, c)
    else if s.atPlain then s.takePlainScalar
    else malformed "found a character that cannot start any token"

def finish (s : Scan) : Except Error Scan := do
  let s ← (s.unwindTo (-1)).dropKey
  .ok (s.emit .streamEnd)

/-- The first token that may still become a key. It cannot be handed on before that is settled, so a
fault on the way is met in its place. -/
def firstPending (s : Scan) : Nat :=
  match s.dropStaleKeys with
  | .ok s => (s.possibleKeys.map (·.position)).foldl min s.tokens.size
  | .error _ => s.tokens.size

def run : Nat → Scan → Array Token
  | 0, s => s.tokens
  | steps + 1, s =>
    let next := skipToToken (s.cursor.rest.length + 1) s
    let result : Except Error (Scan × Bool) := do
      let s ← next.dropStaleKeys
      let s := s.unwindTo s.cursor.column
      if s.cursor.peek.isNone then return (← s.finish, true) else return (← s.takeToken, false)
    match result with
    | .error e => (s.tokens.extract 0 s.firstPending).push (.fault e)
    | .ok (s, true) => s.tokens
    | .ok (s, false) => run steps s

end Scan

/-- The tokens of a text; the last one is the end of the stream or a fault. -/
def Token.ofText (t : Text) : List Token :=
  let t := match t with
    | '\uFEFF' :: rest => rest
    | t => t
  (Scan.run (t.length + 2) (Scan.start t)).toList

end HeaderAudit.Yaml
