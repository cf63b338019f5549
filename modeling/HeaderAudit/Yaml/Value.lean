import HeaderAudit.Json.Basic

/-!
# Values of YAML documents

A document holds scalars, lists and mappings. A mapping keeps its pairs in order; of two pairs with
the same key the later one counts.
-/

namespace HeaderAudit.Yaml

/-- A date, the time of a clock in no zone, or an instant. Times count the millionths of a second. -/
inductive Moment where
  | date (day : Nat)
  | clock (micros : Nat)
  | instant (micros : Int)
  deriving DecidableEq, Repr

inductive Value where
  | null
  | bool (b : Bool)
  | int (i : Int)
  | float (x : Binary64)
  /-- What is no number, but came out where one was to be made. As a key it equals only itself. -/
  | madeNan (place : Nat)
  | text (t : Text)
  /-- A text with code points that are no characters. -/
  | brokenText (codes : List Nat)
  | bytes (bs : List UInt8)
  | moment (m : Moment)
  | list (items : List Value)
  | map (pairs : List (Value × Value))
  /-- An item of a list that is tagged to be one of pairs. -/
  | pair (key value : Value)
  /-- The keys of the pairs; the values are left out. -/
  | set (pairs : List (Value × Value))
  /-- A reference to a collection from within it, once it has been followed. -/
  | within
  deriving Repr, Inhabited

namespace Value

mutual

def equals : Value → Value → Bool
  | null, null | within, within => true
  | bool a, bool b => a = b
  | int i, int j => i = j
  | float x, float y => x = y
  | madeNan place, madeNan other => place = other
  | text t, text u => t = u
  | brokenText codes, brokenText others => codes = others
  | bytes bs, bytes cs => bs = cs
  | moment m, moment n => m = n
  | list items, list others => equalsItems items others
  | map pairs, map others => equalsPairs pairs others
  | pair key value, pair otherKey other => equals key otherKey && equals value other
  | set pairs, set others => equalsPairs pairs others
  | _, _ => false

def equalsItems : List Value → List Value → Bool
  | [], [] => true
  | item :: rest, other :: others => equals item other && equalsItems rest others
  | _, _ => false

def equalsPairs : List (Value × Value) → List (Value × Value) → Bool
  | [], [] => true
  | (key, value) :: rest, (otherKey, other) :: others =>
    equals key otherKey && equals value other && equalsPairs rest others
  | _, _ => false

end

mutual

theorem equals_iff (a b : Value) : equals a b = true ↔ a = b := by
  cases a <;> cases b <;> simp [equals, equals_iff, equalsItems_iff, equalsPairs_iff]

theorem equalsItems_iff (items others : List Value) :
    equalsItems items others = true ↔ items = others := by
  cases items with
  | nil => cases others <;> simp [equalsItems]
  | cons item rest => cases others <;> simp [equalsItems, equals_iff, equalsItems_iff]

theorem equalsPairs_iff (pairs others : List (Value × Value)) :
    equalsPairs pairs others = true ↔ pairs = others := by
  cases pairs with
  | nil => cases others <;> simp [equalsPairs]
  | cons pair rest =>
      obtain ⟨key, value⟩ := pair
      cases others with
      | nil => simp [equalsPairs]
      | cons other others =>
          simp [equalsPairs, equals_iff, equalsPairs_iff, Prod.ext_iff]

end

instance : DecidableEq Value := fun a b => decidable_of_iff _ (equals_iff a b)

def isText (t : Text) : Value → Bool
  | text u => t == u
  | _ => false

/-- The fraction that a finite number is; a truth value is one or zero. -/
def fraction? : Value → Option (Int × Nat)
  | bool b => some (if b then 1 else 0, 1)
  | int i => some (i, 1)
  | float x => x.fraction?
  | _ => none

/-- The keys are the same, so that a mapping has room for one of them: numbers by their value, and
anything else if it is equal. -/
def sameKey (a b : Value) : Bool :=
  match a.fraction?, b.fraction? with
  | some x, some y => x.1 * y.2 = y.1 * x.2
  | none, none => a = b
  | _, _ => false

def pairValue? (key : Text) (pairs : List (Value × Value)) : Option Value :=
  (pairs.reverse.find? (·.1.isText key)).map (·.2)

mutual

def ofJson : Json → Value
  | .null => null
  | .bool b => bool b
  | .int i => int i
  | .float x => float x
  | .text t => text t
  | .list items => list (ofJsonItems items)
  | .object fields => map (ofJsonFields fields)

def ofJsonItems : List Json → List Value
  | [] => []
  | item :: rest => ofJson item :: ofJsonItems rest

def ofJsonFields : List (Text × Json) → List (Value × Value)
  | [] => []
  | (name, value) :: rest => (text name, ofJson value) :: ofJsonFields rest

end

end Value

end HeaderAudit.Yaml
