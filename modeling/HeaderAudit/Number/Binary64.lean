/-!
# Double-precision numbers

A double-precision number as an exact value: a sign, a whole number below `2^53` and a power of two.
Every decimal fraction is rounded to the nearest such number, a tie going to the even one.
-/

namespace HeaderAudit

inductive Binary64 where
  /-- The number `± mantissa · 2^exponent`. -/
  | finite (negative : Bool) (mantissa : Nat) (exponent : Int)
  | infinite (negative : Bool)
  | nan
  deriving DecidableEq, Repr, Inhabited

namespace Binary64

def zero : Binary64 := .finite false 0 (-1074)

/-- The quotient rounded to the nearest whole number, a tie to the even one. -/
def roundQuotient (num den : Nat) : Nat :=
  let q := num / den
  let r := num % den
  if 2 * r < den then q else if 2 * r > den then q + 1 else if q % 2 = 0 then q else q + 1

def scaleDown (num den : Nat) : Int → Nat × Nat
  | .ofNat e => (num, den * Nat.pow 2 e)
  | .negSucc e => (num * Nat.pow 2 (e + 1), den)

/-- The power of two of the last place of a positive fraction. -/
def lastPlace (num den : Nat) : Int :=
  let e : Int := (Nat.log2 num : Int) - (Nat.log2 den : Int) - 53
  let scaled := scaleDown num den e
  max (-1074) (if scaled.1 ≥ scaled.2 * Nat.pow 2 53 then e + 1 else e)

def ofFraction (negative : Bool) (num den : Nat) : Binary64 :=
  if num = 0 ∨ den = 0 then .finite negative 0 (-1074)
  else
    let e := lastPlace num den
    let scaled := scaleDown num den e
    let m := roundQuotient scaled.1 scaled.2
    let (m, e) := if m = Nat.pow 2 53 then (Nat.pow 2 52, e + 1) else (m, e)
    if e > 971 then .infinite negative else .finite negative m e

/-- The nearest number to `digits · 10^exponent`. -/
def ofDecimal (negative : Bool) (digits : Nat) (exponent : Int) : Binary64 :=
  if digits = 0 then .finite negative 0 (-1074)
  else
    let size : Int := (Nat.toDigits 10 digits).length + exponent
    if size > 310 then .infinite negative
    else if size < -330 then .finite negative 0 (-1074)
    else
      match exponent with
      | .ofNat e => ofFraction negative (digits * Nat.pow 10 e) 1
      | .negSucc e => ofFraction negative digits (Nat.pow 10 (e + 1))

def ofInt (i : Int) : Binary64 := ofFraction (i < 0) i.natAbs 1

def fraction? : Binary64 → Option (Int × Nat)
  | .finite negative m e =>
    let size : Int × Nat := match e with
      | .ofNat e => ((m * Nat.pow 2 e : Nat), 1)
      | .negSucc e => ((m : Int), Nat.pow 2 (e + 1))
    some (if negative then (-size.1, size.2) else size)
  | _ => none

def negate : Binary64 → Binary64
  | .finite negative m e => .finite (!negative) m e
  | .infinite negative => .infinite (!negative)
  | .nan => .nan

def ofSignedFraction (num : Int) (den : Nat) : Binary64 := ofFraction (num < 0) num.natAbs den

/-- The rounded sum of two finite numbers. An infinite one absorbs a finite one, and opposite ones make
no number. -/
def add (a b : Binary64) : Binary64 :=
  match a, b with
  | .nan, _ | _, .nan => .nan
  | .infinite negative, .infinite other => if negative = other then a else .nan
  | _, _ =>
    match a.fraction?, b.fraction? with
    | some x, some y => ofSignedFraction (x.1 * y.2 + y.1 * x.2) (x.2 * y.2)
    | some _, none => b
    | none, _ => a

/-- The rounded product with a positive finite number. -/
def mul (a b : Binary64) : Binary64 :=
  match a.fraction?, b.fraction? with
  | some x, some y => ofSignedFraction (x.1 * y.1) (x.2 * y.2)
  | some _, none => b
  | none, _ => a

end Binary64

end HeaderAudit
