import HeaderAudit.Yaml.Value
import HeaderAudit.Yaml.Token
import HeaderAudit.Text.LetterCase

/-!
# Scalars

What a plain scalar means when it has no tag, and how the text of a scalar of each kind becomes a
value.
-/

namespace HeaderAudit.Yaml

inductive Tag where
  | null
  | bool
  | int
  | float
  | binary
  | timestamp
  | omap
  | pairs
  | set
  | str
  | seq
  | map
  | merge
  | defaultValue
  | unknown
  deriving DecidableEq, Repr

def standardTags : Text := "tag:yaml.org,2002:"

def Tag.ofName (name : Text) : Tag :=
  match Text.afterPrefix? standardTags name with
  | none => .unknown
  | some short =>
    let names : List (Text × Tag) := [("null", .null), ("bool", .bool), ("int", .int),
      ("float", .float), ("binary", .binary), ("timestamp", .timestamp), ("omap", .omap),
      ("pairs", .pairs), ("set", .set), ("str", .str), ("seq", .seq), ("map", .map),
      ("merge", .merge), ("value", .defaultValue)]
    ((names.find? (·.1 = short)).map (·.2)).getD .unknown

/-! ## Plain scalars without a tag -/

def isDigitOrLow (c : Char) : Bool := c.isDigit || c = '_'

/-- Groups below sixty, each behind a colon. -/
def areSixtieths (t : Text) : Bool :=
  match Text.fields ':' t with
  | [] :: groups =>
    !groups.isEmpty && groups.all fun
      | [a] => a.isDigit
      | [a, b] => '0' ≤ a && a ≤ '5' && b.isDigit
      | _ => false
  | _ => false

def looksLikeInt (t : Text) : Bool :=
  match Text.dropSign t with
  | ['0'] => true
  | '0' :: 'b' :: rest => !rest.isEmpty && rest.all fun c => c = '0' || c = '1' || c = '_'
  | '0' :: 'x' :: rest => !rest.isEmpty && rest.all fun c => Text.isHexDigit c || c = '_'
  | '0' :: rest => rest.all fun c => ('0' ≤ c && c ≤ '7') || c = '_'
  | c :: rest =>
    let groups := rest.dropWhile isDigitOrLow
    c.isDigit && (groups.isEmpty || areSixtieths groups)
  | [] => false

def isExponentOrEnd : Text → Bool
  | [] => true
  | e :: sign :: digits =>
    (e = 'e' || e = 'E') && (sign = '-' || sign = '+') && !digits.isEmpty
      && digits.all Char.isDigit
  | _ => false

def looksLikeFloat (t : Text) : Bool :=
  let named : List Text := [".inf", ".Inf", ".INF"]
  let noNumber : List Text := [".nan", ".NaN", ".NAN"]
  let fromDigit := match Text.dropSign t with
    | c :: rest =>
      c.isDigit &&
        match rest.dropWhile isDigitOrLow with
        | '.' :: places => isExponentOrEnd (places.dropWhile isDigitOrLow)
        | groups =>
          let (groups, places) := Text.cut '.' groups
          areSixtieths groups && places.any (·.all isDigitOrLow)
    | [] => false
  let fromPoint := match t with
    | '.' :: c :: rest => c.isDigit && isExponentOrEnd (rest.dropWhile isDigitOrLow)
    | _ => false
  fromDigit || fromPoint || named.contains (Text.dropSign t) || noNumber.contains t

/-- The time of a day as written, and the distance from universal time in minutes. -/
structure ClockTime where
  hour : Text
  minute : Text
  second : Text
  /-- What stands behind the point. -/
  fraction : Text
  zone : Option Int
  deriving Repr

structure Timestamp where
  year : Text
  month : Text
  day : Text
  time : Option ClockTime
  deriving Repr

def takeDigits? (least most : Nat) (t : Text) : Option (Text × Text) :=
  let digits := (t.take most).takeWhile Char.isDigit
  if digits.length < least then none else some (digits, t.drop digits.length)

def takeChar? (c : Char) : Text → Option Text
  | d :: rest => if c = d then some rest else none
  | [] => none

def isSpaceOrTab (c : Char) : Bool := c = ' ' || c = '\t'

def numberOf (digits : Text) : Nat := (Text.readDigits? 10 digits).getD 0

/-- The zone at the end of a time: none, universal time, or a distance from it. -/
def zone? (t : Text) : Option (Option Int) :=
  match t, t.dropWhile isSpaceOrTab with
  | [], _ => some none
  | _, ['Z'] => some (some 0)
  | _, sign :: rest => do
    if sign ≠ '-' ∧ sign ≠ '+' then none
    let (hours, rest) ← takeDigits? 1 2 rest
    let (minutes, rest) ← match rest with
      | ':' :: rest => takeDigits? 2 2 rest
      | rest => some (['0'], rest)
    if !rest.isEmpty then none
    let distance : Int := numberOf hours * 60 + numberOf minutes
    some (some (if sign = '-' then -distance else distance))
  | _, [] => none

def timestamp? (t : Text) : Option Timestamp := do
  let (year, t) ← takeDigits? 4 4 t
  let t ← takeChar? '-' t
  let (month, t) ← takeDigits? 1 2 t
  let t ← takeChar? '-' t
  let (day, t) ← takeDigits? 1 2 t
  match t with
  | [] => some ⟨year, month, day, none⟩
  | c :: rest =>
    let t ←
      if c = 'T' ∨ c = 't' then some rest
      else if isSpaceOrTab c then some (rest.dropWhile isSpaceOrTab)
      else none
    let (hour, t) ← takeDigits? 1 2 t
    let t ← takeChar? ':' t
    let (minute, t) ← takeDigits? 2 2 t
    let t ← takeChar? ':' t
    let (second, t) ← takeDigits? 2 2 t
    let (fraction, t) := match t with
      | '.' :: rest => (rest.takeWhile Char.isDigit, rest.dropWhile Char.isDigit)
      | t => ([], t)
    let zone ← zone? t
    some ⟨year, month, day, some ⟨hour, minute, second, fraction, zone⟩⟩

/-- A date by itself needs two digits for the month and for the day. -/
def looksLikeTimestamp (t : Text) : Bool :=
  match timestamp? t with
  | some ⟨_, month, day, none⟩ => month.length = 2 && day.length = 2
  | some _ => true
  | none => false

def trueWords : List Text := ["yes", "true", "on"]

def falseWords : List Text := ["no", "false", "off"]

/-- A word in small letters, in capitals, or with a capital in front. -/
def spellings (word : Text) : List Text :=
  [word, word.map Char.toUpper, (word.take 1).map Char.toUpper ++ word.drop 1]

def looksLikeBool (t : Text) : Bool := (trueWords ++ falseWords).any fun w => (spellings w).contains t

def looksLikeNull (t : Text) : Bool := t.isEmpty || t = ['~'] || (spellings "null").contains t

/-- The text without a line feed at its end, which patterns for whole texts pass over. -/
def dropFinalBreak (t : Text) : Text := if t.getLast? = some '\n' then t.dropLast else t

/-- The meaning of a text by its form. A line feed alone is no empty text. -/
def Tag.ofPlain (t : Text) : Tag :=
  let word := if t = ['\n'] then t else dropFinalBreak t
  if looksLikeBool word then .bool
  else if looksLikeFloat word then .float
  else if looksLikeInt word then .int
  else if word = ['<', '<'] then .merge
  else if looksLikeNull word then .null
  else if looksLikeTimestamp word then .timestamp
  else if word = ['='] then .defaultValue
  else if word = ['!'] ∨ word = ['&'] ∨ word = ['*'] then .unknown
  else .str

/-! ## Values -/

def readInt (base : Nat) (t : Text) : Except Error Int :=
  (Integer.read base t).mapError fun cause => .scalar (.integer cause)

/-- The groups of a number in base sixty, from the last one on. -/
def sumSixtieths : Nat → List Int → Int
  | _, [] => 0
  | base, d :: rest => d * base + sumSixtieths (base * 60) rest

def intOfScalar (t : Text) : Except Error Int := do
  let t := t.filter (· ≠ '_')
  if t.isEmpty then .error (.scalar .emptyNumber)
  let sign : Int := if t.head? = some '-' then -1 else 1
  let body := Text.dropSign t
  let size ← match body with
    | ['0'] => pure 0
    | '0' :: 'b' :: rest => readInt 2 rest
    | '0' :: 'x' :: rest => readInt 16 rest
    | '0' :: _ => readInt 8 body
    | [] => .error (.scalar .emptyNumber)
    | _ =>
      if body.contains ':' then do
        let groups ← (Text.fields ':' body).mapM (readInt 10)
        pure (sumSixtieths 1 groups.reverse)
      else readInt 10 body
  .ok (sign * size)

/-- The digits at the beginning of a text, and the rest of it. -/
def takeFloatDigits (t : Text) : Text × Text :=
  (t.takeWhile Char.isDigit, t.dropWhile Char.isDigit)

/-- A decimal number: digits, a point, an exponent; or a word for what is no finite number. -/
def readFloat (t : Text) : Except Error Binary64 := do
  let refuse : Except Error Binary64 := .error (.scalar (.notAFloat t))
  let body := Text.numeral t
  let negative := body.head? = some '-'
  let body := Text.dropSign body
  let word := body.map Char.toLower
  if word = "inf".toList ∨ word = "infinity".toList then .ok (.infinite negative)
  else if word = "nan".toList then .ok .nan
  else
    let (whole, rest) := takeFloatDigits body
    let (places, rest) := match rest with
      | '.' :: rest => takeFloatDigits rest
      | rest => ([], rest)
    match Text.readDigits? 10 (whole ++ places) with
    | none => refuse
    | some digits =>
      match rest with
      | [] => .ok (Binary64.ofDecimal negative digits (-places.length))
      | e :: rest =>
        let sign := rest.head?
        match Text.readDigits? 10 (Text.dropSign rest) with
        | some n =>
          if e = 'e' ∨ e = 'E' then
            let exponent : Int := if sign = some '-' then -(n : Int) else n
            .ok (Binary64.ofDecimal negative digits (exponent - places.length))
          else refuse
        | none => refuse

/-- The sum of the groups of a number in base sixty, from the last one on. -/
def sumFloatSixtieths (total : Binary64) : Nat → List Binary64 → Except Error Binary64
  | _, [] => .ok total
  | base, d :: rest =>
    match Binary64.ofInt base with
    | .infinite _ => .error (.scalar .baseTooLarge)
    | size => sumFloatSixtieths (total.add (d.mul size)) (base * 60) rest

def nanName : Text := ".nan"

/-- A number, and whether it is no number by that name. -/
def floatOfScalar (t : Text) : Except Error (Binary64 × Bool) := do
  let t := Text.lower (t.filter (· ≠ '_'))
  if t.isEmpty then .error (.scalar .emptyNumber)
  let negative := t.head? = some '-'
  let body := Text.dropSign t
  if body = nanName then return (.nan, true)
  let size ←
    if body = ".inf".toList then pure (Binary64.infinite false)
    else if body.contains ':' then do
      let groups ← (Text.fields ':' body).mapM readFloat
      sumFloatSixtieths Binary64.zero 1 groups.reverse
    else readFloat body
  .ok (if negative then size.negate else size, false)

/-- A number by itself; one that came out as no number is told apart by its place. -/
def floatValue (t : Text) (place : Nat) : Except Error Value := do
  let (x, isNamed) ← floatOfScalar t
  .ok (if x = .nan ∧ !isNamed then .madeNan place else .float x)

def isLeapYear (year : Nat) : Bool := year % 4 = 0 && (year % 100 ≠ 0 || year % 400 = 0)

def daysOfMonth (year month : Nat) : Nat :=
  if month = 2 then (if isLeapYear year then 29 else 28)
  else if month = 4 ∨ month = 6 ∨ month = 9 ∨ month = 11 then 30 else 31

/-- The first reason why a date or a time is on no calendar. -/
def timestampError? (stamp : Timestamp) : Option ScalarError :=
  let year := numberOf stamp.year
  let month := numberOf stamp.month
  let day := numberOf stamp.day
  let dateError :=
    if year = 0 then some (.yearOutOfRange year)
    else if month < 1 ∨ 12 < month then some .monthOutOfRange
    else if day < 1 ∨ daysOfMonth year month < day then some .dayOutOfRange
    else none
  match stamp.time with
  | none => dateError
  | some time =>
    let zoneError := time.zone.bind fun minutes =>
      if minutes.natAbs ≥ 1440 then
        some (ScalarError.offsetOutOfRange (minutes.fdiv 1440) (minutes.fmod 1440 * 60))
      else none
    let timeError :=
      if numberOf time.hour > 23 then some ScalarError.hourOutOfRange
      else if numberOf time.minute > 59 then some .minuteOutOfRange
      else if numberOf time.second > 59 then some .secondOutOfRange
      else none
    (zoneError.orElse fun _ => dateError).orElse fun _ => timeError

/-- The days from the first day of the year one on, with which the count begins. -/
def dayNumber (year month day : Nat) : Nat :=
  let years := year - 1
  let months := (List.range (month - 1)).map fun earlier => daysOfMonth year (earlier + 1)
  365 * years + years / 4 - years / 100 + years / 400 + months.foldl (· + ·) 0 + day

def microsOfSecond : Nat := 1000000

def ClockTime.micros (time : ClockTime) : Nat :=
  let seconds := (numberOf time.hour * 60 + numberOf time.minute) * 60 + numberOf time.second
  let places := time.fraction.take 6
  seconds * microsOfSecond + numberOf (places ++ List.replicate (6 - places.length) '0')

def Timestamp.moment (stamp : Timestamp) : Moment :=
  let day := dayNumber (numberOf stamp.year) (numberOf stamp.month) (numberOf stamp.day)
  match stamp.time with
  | none => .date day
  | some time =>
    let micros := day * (24 * 60 * 60 * microsOfSecond) + time.micros
    match time.zone with
    | none => .clock micros
    | some minutes => .instant (micros - minutes * (60 * microsOfSecond))

def sixBits? (c : Char) : Option Nat :=
  if 'A' ≤ c ∧ c ≤ 'Z' then some (c.toNat - 'A'.toNat)
  else if 'a' ≤ c ∧ c ≤ 'z' then some (c.toNat - 'a'.toNat + 26)
  else if '0' ≤ c ∧ c ≤ '9' then some (c.toNat - '0'.toNat + 52)
  else if c = '+' then some 62
  else if c = '/' then some 63
  else none

/-- The bytes of base-64 data, four characters at a time; characters outside the alphabet are passed
over, and padding ends the data where it completes a group. -/
def readBase64? (group : List Nat) (padding : Nat) : Text → Option (List UInt8)
  | [] => if group.isEmpty then some [] else none
  | '=' :: rest =>
    match group with
    | [a, b] => if padding = 0 then readBase64? group 1 rest else some [(a * 4 + b / 16).toUInt8]
    | [a, b, c] => some [(a * 4 + b / 16).toUInt8, (b % 16 * 16 + c / 4).toUInt8]
    | _ => readBase64? group padding rest
  | c :: rest =>
    match sixBits? c with
    | none => readBase64? group padding rest
    | some d =>
      match group with
      | [a, b, c] =>
        (readBase64? [] 0 rest).map ([(a * 4 + b / 16).toUInt8, (b % 16 * 16 + c / 4).toUInt8,
          (c % 4 * 64 + d).toUInt8] ++ ·)
      | group => readBase64? (group ++ [d]) 0 rest

def unreadable {α : Type} (problem : String) : Except Error α := .error (.malformed problem.toList)

/-- The value of a scalar, which stands at a place of its own. -/
def Value.ofScalar (tag : Tag) (spelling : Spelling) (place : Nat) : Except Error Value :=
  let t := spelling.text
  match tag with
  | .null => .ok .null
  | .bool =>
    let word := Text.lower t
    if trueWords.contains word then .ok (.bool true)
    else if falseWords.contains word then .ok (.bool false)
    else .error (.scalar (.notABoolean word))
  | .int => .int <$> intOfScalar t
  | .float => floatValue t place
  | .binary =>
    if t.all Text.isAscii then
      match readBase64? [] 0 t with
      | some data => .ok (.bytes data)
      | none => unreadable "failed to decode base64 data"
    else unreadable "failed to convert base64 data into ascii"
  | .timestamp =>
    match timestamp? (dropFinalBreak t) with
    | none => .error (.scalar .notATimestamp)
    | some stamp =>
      match timestampError? stamp with
      | some e => .error (.scalar e)
      | none => .ok (.moment stamp.moment)
  | .str => .ok (match spelling.broken with
    | none => .text t
    | some codes => .brokenText codes)
  | .omap | .pairs | .set | .seq | .map => unreadable "expected a collection"
  | .merge | .defaultValue | .unknown => unreadable "could not determine a constructor for the tag"

end HeaderAudit.Yaml
