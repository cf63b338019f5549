import HeaderAudit.RuleFile.Basic

/-!
# Values that cannot be written out

A value can be written out for a message unless a number with too many digits stands in it.  Not
all parts of a document are in its value: of two pairs whose keys are the same, the value of the
later one counts, and a set has no values.
-/

namespace HeaderAudit

namespace Entry

theorem canShow_iff (i : Int) :
    canShow i = true ↔ (Nat.toDigits 10 i.natAbs).length ≤ Yaml.digitLimit := by
  rw [Nat.length_toDigits_le_iff (by decide) (by decide), canShow, decide_eq_true_eq, Nat.pow_eq]

end Entry

namespace RuleFile

open Yaml (Value)

variable {key value other : Value} {items : List Value} {pairs rest : List (Value × Value)}

/-- A number with too many digits stands in the value. -/
inductive Overlong : Value → Prop where
  | int {i : Int} : Yaml.digitLimit < (Nat.toDigits 10 i.natAbs).length → Overlong (.int i)
  | item {item : Value} {items : List Value} : item ∈ items → Overlong item →
      Overlong (.list items)
  | first {key value : Value} : Overlong key → Overlong (.pair key value)
  | second {key value : Value} : Overlong value → Overlong (.pair key value)
  | key {pair : Value × Value} {pairs : List (Value × Value)} : pair ∈ pairs →
      Overlong pair.1 → Overlong (.map pairs)
  /-- No later pair has the key, so that it keeps the value. -/
  | kept {key value : Value} {before rest : List (Value × Value)} :
      (∀ pair ∈ rest, pair.1.sameKey key = false) → Overlong value →
      Overlong (.map (before ++ (key, value) :: rest))
  | member {pair : Value × Value} {pairs : List (Value × Value)} : pair ∈ pairs →
      Overlong pair.1 → Overlong (.set pairs)

theorem overlong_int_iff {i : Int} : Overlong (.int i) ↔ Entry.canShow i = false := by
  rw [← Bool.not_eq_true, Entry.canShow_iff, Nat.not_le]
  constructor
  · rintro ⟨hlong⟩
    exact hlong
  · exact .int

theorem overlong_list_iff : Overlong (.list items) ↔ ∃ item ∈ items, Overlong item := by
  constructor
  · rintro (_ | ⟨hmem, hitem⟩)
    exact ⟨_, hmem, hitem⟩
  · rintro ⟨item, hmem, hitem⟩
    exact .item hmem hitem

theorem overlong_pair_iff : Overlong (.pair key value) ↔ Overlong key ∨ Overlong value := by
  constructor
  · rintro (_ | _ | hkey | hvalue)
    · exact .inl hkey
    · exact .inr hvalue
  · rintro (hkey | hvalue)
    · exact .first hkey
    · exact .second hvalue

theorem overlong_set_iff : Overlong (.set pairs) ↔ ∃ pair ∈ pairs, Overlong pair.1 := by
  constructor
  · intro hset
    cases hset with
    | member hmem hkey => exact ⟨_, hmem, hkey⟩
  · rintro ⟨pair, hmem, hkey⟩
    exact .member hmem hkey

theorem not_overlong_map_nil : ¬ Overlong (.map []) := by
  intro hmap
  generalize hvalue : Value.map [] = value at hmap
  cases hmap with
  | key hmem =>
      cases hvalue
      cases hmem
  | kept => simp at hvalue
  | _ => cases hvalue

theorem overlong_map_cons_iff : Overlong (.map ((key, value) :: rest)) ↔
    Overlong key ∨ ((∀ pair ∈ rest, pair.1.sameKey key = false) ∧ Overlong value) ∨
      Overlong (.map rest) := by
  constructor
  · intro hmap
    generalize hwhole : Value.map ((key, value) :: rest) = whole at hmap
    cases hmap with
    | key hmem hkey =>
        cases hwhole
        rcases List.mem_cons.mp hmem with rfl | hmem
        · exact .inl hkey
        · exact .inr (.inr (.key hmem hkey))
    | @kept _ _ before _ hlast hvalue =>
        cases before with
        | nil =>
            cases hwhole
            exact .inr (.inl ⟨hlast, hvalue⟩)
        | cons pair before =>
            cases hwhole
            exact .inr (.inr (.kept hlast hvalue))
    | _ => cases hwhole
  · rintro (hkey | ⟨hlast, hvalue⟩ | hrest)
    · exact .key List.mem_cons_self hkey
    · exact @Overlong.kept key value [] rest hlast hvalue
    · generalize hwhole : Value.map rest = whole at hrest
      cases hrest with
      | key hmem hkey =>
          cases hwhole
          exact .key (List.mem_cons_of_mem _ hmem) hkey
      | @kept _ _ before _ hlast hlong =>
          cases hwhole
          exact @Overlong.kept _ _ ((key, value) :: before) _ hlast hlong
      | _ => cases hwhole

mutual

theorem isShowable_eq_false_iff (value : Value) :
    Entry.isShowable value = false ↔ Overlong value := by
  cases value with
  | int i => rw [Entry.isShowable, overlong_int_iff]
  | list items => rw [Entry.isShowable, overlong_list_iff, allShowable_eq_false_iff]
  | map pairs => rw [Entry.isShowable, pairsShowable_eq_false_iff]
  | pair key value =>
      rw [Entry.isShowable, overlong_pair_iff, Bool.and_eq_false_iff, isShowable_eq_false_iff,
        isShowable_eq_false_iff]
  | set pairs => rw [Entry.isShowable, overlong_set_iff, keysShowable_eq_false_iff]
  | _ =>
      simp only [Entry.isShowable, Bool.true_eq_false, false_iff]
      intro hlong
      cases hlong

theorem allShowable_eq_false_iff (items : List Value) :
    Entry.allShowable items = false ↔ ∃ item ∈ items, Overlong item := by
  cases items with
  | nil => simp [Entry.allShowable]
  | cons item rest =>
      rw [Entry.allShowable, Bool.and_eq_false_iff, isShowable_eq_false_iff,
        allShowable_eq_false_iff]
      simp only [List.mem_cons, exists_eq_or_imp]

theorem pairsShowable_eq_false_iff (pairs : List (Value × Value)) :
    Entry.pairsShowable pairs = false ↔ Overlong (.map pairs) := by
  cases pairs with
  | nil => simp [Entry.pairsShowable, not_overlong_map_nil]
  | cons pair rest =>
      obtain ⟨key, value⟩ := pair
      rw [Entry.pairsShowable, overlong_map_cons_iff, Bool.and_eq_false_iff, Bool.and_eq_false_iff,
        Bool.or_eq_false_iff, isShowable_eq_false_iff, isShowable_eq_false_iff,
        pairsShowable_eq_false_iff, List.any_eq_false, or_assoc]
      simp only [Bool.not_eq_true]

theorem keysShowable_eq_false_iff (pairs : List (Value × Value)) :
    Entry.keysShowable pairs = false ↔ ∃ pair ∈ pairs, Overlong pair.1 := by
  cases pairs with
  | nil => simp [Entry.keysShowable]
  | cons pair rest =>
      obtain ⟨key, value⟩ := pair
      rw [Entry.keysShowable, Bool.and_eq_false_iff, isShowable_eq_false_iff,
        keysShowable_eq_false_iff]
      simp only [List.mem_cons, exists_eq_or_imp]

end

instance (value : Value) : Decidable (Overlong value) :=
  decidable_of_iff _ (isShowable_eq_false_iff value)

/-- The number one and the truth value are one key, and only what comes last for it counts. -/
example : ¬ Overlong (.map [(.int 1, .int (Nat.pow 16 3572)), (.bool true, .text ['x'])]) := by
  decide +kernel

end RuleFile

end HeaderAudit
