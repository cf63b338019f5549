import HeaderAudit.Number.Binary64
import HeaderAudit.Text.Basic

/-!
# The shortest decimal form of a double-precision number

The fewest digits that read back as the number, and of those the nearest to it. They are written
positionally where the point stands within sixteen digits, and with an exponent elsewhere.
-/

namespace HeaderAudit.Binary64

/-- The fractions that round to a number, in quarters of its last place; the ends belong to them when
the number is even. -/
structure Neighbourhood where
  low : Nat
  middle : Nat
  high : Nat
  closed : Bool
  exponent : Int

def neighbourhood (m : Nat) (e : Int) : Neighbourhood :=
  let gap := if m = Nat.pow 2 52 ∧ e > -1074 then 1 else 2
  ⟨4 * m - gap, 4 * m, 4 * m + 2, m % 2 = 0, e - 2⟩

def decimalRatio (n : Nat) (e k : Int) : Nat × Nat :=
  let num := n * (if e ≥ 0 then Nat.pow 2 e.toNat else 1) * (if k < 0 then Nat.pow 10 k.natAbs else 1)
  let den := (if e < 0 then Nat.pow 2 e.natAbs else 1) * (if k ≥ 0 then Nat.pow 10 k.toNat else 1)
  (num, den)

/-- The whole number `d` at the decimal place `k` rounds to the number. -/
def Neighbourhood.holds (area : Neighbourhood) (k : Int) (d : Nat) : Bool :=
  let low := decimalRatio area.low area.exponent k
  let high := decimalRatio area.high area.exponent k
  if area.closed then low.1 ≤ d * low.2 && d * high.2 ≤ high.1
  else low.1 < d * low.2 && d * high.2 < high.1

/-- The point on the grid of the decimal place `k` that stands for the number, if one does. -/
def Neighbourhood.gridPoint? (area : Neighbourhood) (k : Int) : Option Nat :=
  let middle := decimalRatio area.middle area.exponent k
  let below := middle.1 / middle.2
  match area.holds k below, area.holds k (below + 1) with
  | true, true =>
    let rest := 2 * (middle.1 % middle.2)
    some (if rest < middle.2 ∨ (rest = middle.2 ∧ below % 2 = 0) then below else below + 1)
  | true, false => some below
  | false, true => some (below + 1)
  | false, false => none

/-- The number of digits before the point of a positive fraction; not positive below one tenth. -/
def digitsBeforePoint (num den : Nat) : Int :=
  if den ≤ num then (Nat.toDigits 10 (num / den)).length
  else 1 - (Nat.toDigits 10 ((den - 1) / num)).length

/-- The first grid, from coarse to fine, with a point for the number; at most seventeen digits. -/
def firstGrid (area : Neighbourhood) (point : Int) : Nat → Nat → Nat × Int
  | 0, size => (0, point - size)
  | steps + 1, size =>
    match area.gridPoint? (point - size) with
    | some d => (d, point - size)
    | none => firstGrid area point steps (size + 1)

/-- The digits of a positive number without zeros at their end, and the place of the point. -/
def shortestDigits (m : Nat) (e : Int) : Text × Int :=
  let value := decimalRatio m e 0
  let (d, k) := firstGrid (neighbourhood m e) (digitsBeforePoint value.1 value.2) 17 1
  let digits := Nat.toDigits 10 d
  (Text.dropRightWhile (· = '0') digits, digits.length + k)

structure DecimalLayout where
  /-- The places of the point between which a number is written without an exponent. -/
  firstPoint : Int
  lastPoint : Int
  exponentDigits : Nat

def plainLayout : DecimalLayout := ⟨-3, 16, 2⟩

def layout (style : DecimalLayout) (digits : Text) (point : Int) : Text :=
  if style.firstPoint ≤ point ∧ point ≤ style.lastPoint then
    if point ≤ 0 then "0." ++ List.replicate point.natAbs '0' ++ digits
    else if digits.length ≤ point.toNat then
      digits ++ List.replicate (point.toNat - digits.length) '0' ++ ".0"
    else digits.take point.toNat ++ '.' :: digits.drop point.toNat
  else
    let exponent := point - 1
    let size := Text.ofNat exponent.natAbs
    digits.take 1 ++ (if digits.length ≤ 1 then [] else '.' :: digits.drop 1)
      ++ (if exponent < 0 then "e-" else "e+")
      ++ List.replicate (style.exponentDigits - size.length) '0' ++ size

def toText : Binary64 → Text
  | .nan => "nan"
  | .infinite negative => if negative then "-inf" else "inf"
  | .finite negative m e =>
    let size : Text :=
      if m = 0 then "0.0"
      else
        let (digits, point) := shortestDigits m e
        layout plainLayout digits point
    if negative then '-' :: size else size

end HeaderAudit.Binary64
