import HeaderAudit.Text.Basic

/-!
# UTF-8

Bytes to text and back. A sequence of bytes is refused at its first fault, with the place and the
reason.
-/

namespace HeaderAudit.Text

inductive Utf8Fault where
  | startByte
  | continuationByte
  | endOfData
  deriving DecidableEq, Repr

def Utf8Fault.reason : Utf8Fault → Text
  | .startByte => "invalid start byte"
  | .continuationByte => "invalid continuation byte"
  | .endOfData => "unexpected end of data"

/-- The first fault of a sequence of bytes: the faulty bytes and where they begin. -/
structure Utf8Error where
  fault : Utf8Fault
  position : Nat
  bytes : List UInt8
  deriving DecidableEq, Repr

def Utf8Error.message (e : Utf8Error) : Text :=
  let place : Text :=
    match e.bytes with
    | [b] => "byte 0x" ++ hex 2 b.toNat ++ " in position " ++ ofNat e.position
    | bytes =>
      "bytes in position " ++ ofNat e.position ++ "-" ++ ofNat (e.position + bytes.length - 1)
  "'utf-8' codec can't decode " ++ place ++ ": " ++ e.fault.reason

/-- What a first byte announces: its own bits, and the bounds of each byte that must follow. -/
def sequenceStart? (b : UInt8) : Option (Nat × List (UInt8 × UInt8)) :=
  if b < 0x80 then some (b.toNat, [])
  else if b < 0xC2 then none
  else if b < 0xE0 then some (b.toNat - 0xC0, [(0x80, 0xBF)])
  else if b = 0xE0 then some (0, [(0xA0, 0xBF), (0x80, 0xBF)])
  else if b = 0xED then some (13, [(0x80, 0x9F), (0x80, 0xBF)])
  else if b < 0xF0 then some (b.toNat - 0xE0, [(0x80, 0xBF), (0x80, 0xBF)])
  else if b = 0xF0 then some (0, [(0x90, 0xBF), (0x80, 0xBF), (0x80, 0xBF)])
  else if b < 0xF4 then some (b.toNat - 0xF0, [(0x80, 0xBF), (0x80, 0xBF), (0x80, 0xBF)])
  else if b = 0xF4 then some (4, [(0x80, 0x8F), (0x80, 0xBF), (0x80, 0xBF)])
  else none

/-- The code point of a sequence whose first byte has been read, or the fault with the bytes that
were good. -/
def continueSequence (code : Nat) :
    List (UInt8 × UInt8) → List UInt8 → Except (Utf8Fault × List UInt8) Nat
  | [], _ => .ok code
  | _ :: _, [] => .error (.endOfData, [])
  | (low, high) :: more, b :: rest =>
    if low ≤ b ∧ b ≤ high then
      match continueSequence (code * 64 + (b.toNat - 0x80)) more rest with
      | .ok code => .ok code
      | .error (fault, good) => .error (fault, b :: good)
    else .error (.continuationByte, [])

/-- Reads bytes from a position on; the first argument counts the bytes of the sequence that was read
last and are still to be passed over. -/
def decodeFrom : Nat → Nat → List UInt8 → Except Utf8Error Text
  | _, _, [] => .ok []
  | skip + 1, position, _ :: rest => decodeFrom skip (position + 1) rest
  | 0, position, b :: rest =>
    match sequenceStart? b with
    | none => .error ⟨.startByte, position, [b]⟩
    | some (code, following) =>
      match continueSequence code following rest with
      | .error (fault, good) => .error ⟨fault, position, b :: good⟩
      | .ok code => (Char.ofNat code :: ·) <$> decodeFrom following.length (position + 1) rest

def decodeUtf8 (bytes : List UInt8) : Except Utf8Error Text := decodeFrom 0 0 bytes

def decodeLossyFrom : Nat → List UInt8 → Text
  | _, [] => []
  | skip + 1, _ :: rest => decodeLossyFrom skip rest
  | 0, b :: rest =>
    match sequenceStart? b with
    | none => '\uFFFD' :: decodeLossyFrom 0 rest
    | some (code, following) =>
      match continueSequence code following rest with
      | .error (_, good) => '\uFFFD' :: decodeLossyFrom good.length rest
      | .ok code => Char.ofNat code :: decodeLossyFrom following.length rest

def decodeLossy (bytes : List UInt8) : Text := decodeLossyFrom 0 bytes

def encodeChar (c : Char) : List UInt8 := String.utf8EncodeChar c

def encodeUtf8 (t : Text) : List UInt8 := t.flatMap encodeChar

def ofLatin1 (bytes : List UInt8) : Text := bytes.map fun b => Char.ofNat b.toNat

end HeaderAudit.Text
