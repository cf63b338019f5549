import HeaderAudit.Proofs.RuleIds

/-!
# Entries do not disturb each other

What the file lists is gone through one value at a time.  A mapping without faults gives a rule, a
mapping with faults gives a note, and any other value gives nothing; neither depends on the values
around it.  So the rules of two lists one behind the other are those of the first and then those of
the second.  Only an entry whose faults cannot be told of keeps all the others from being loaded.
-/

namespace HeaderAudit
namespace RuleFile

open Yaml (Value)

variable {env : Environment} {path file : Path} {w w₁ w₂ : World} {xs ys values : List Value}
  {document first second : Value}

/-! ## Documents that list values -/

/-- The document lists these values, by itself or under the key. -/
inductive Lists : Value → List Value → Prop where
  | bare (values : List Value) : Lists (.list values) values
  | underKey {pairs : List (Value × Value)} {values : List Value} :
      Value.pairValue? entriesKey pairs = some (.list values) → Lists (.map pairs) values

def Holds (file : Path) (disk : Disk) (document : Value) : Prop :=
  ∃ t, disk.read file = .ok (Text.encodeUtf8 t) ∧ Yaml.read (unifyLineEnds t) = .ok document

theorem entriesOf_of_lists (hlists : Lists document values) : entriesOf document = values := by
  cases hlists with
  | bare => rfl
  | underKey hvalue => simp only [entriesOf, hvalue]

theorem entriesOf_of_not_lists (hother : ∀ values, ¬ Lists document values) :
    entriesOf document = [] := by
  cases document with
  | list values => exact absurd (.bare values) (hother values)
  | map pairs =>
      rw [entriesOf]
      split
      · next values hvalue => exact absurd (.underKey hvalue) (hother values)
      · rfl
  | _ => rfl

theorem load_of_holds_document (hfile : path.expandHome env.home = some file)
    (hholds : Holds file w.disk document) :
    load env path w = rulesOf env (entriesOf document) w := by
  obtain ⟨t, hread, hdocument⟩ := hholds
  rw [load_of_read hfile hread, rulesOfBytes, Text.decodeUtf8_encodeUtf8]
  simp only [hdocument]

/-! ## What one value gives -/

def complaint? : Value → Option LogEntry
  | .map pairs =>
    match Entry.ofPairs pairs with
    | .ok _ => none
    | .error faults => some (.invalidRule faults.length)
  | _ => none

structure States (entry : Entry) (rule : Rule) : Prop where
  kind : rule.kind = entry.kind
  pattern : rule.pattern = entry.pattern
  id : ∀ id, entry.ownId? = some id → rule.id = id

theorem states_toRule (entry : Entry) (otherId : Text) : States entry (entry.toRule otherId) := by
  refine ⟨rfl, rfl, fun id hown => ?_⟩
  rw [Entry.toRule, hown, Option.getD_some]

/-- How many ids have to be made up for the entries. -/
def nameless (entries : List Entry) : Nat := entries.countP fun entry => entry.ownId?.isNone

theorem ruleOf_world (entry : Entry) (w : World) :
    (ruleOf env entry w).2 = { w with idsMade := w.idsMade + nameless [entry] } := by
  rw [ruleOf]
  cases hown : entry.ownId? with
  | some id => simp [nameless, hown]
  | none => simp [nameless, hown, World.freshId]

theorem nameless_cons (entry : Entry) (rest : List Entry) :
    nameless (entry :: rest) = nameless [entry] + nameless rest := by
  rw [nameless, nameless, nameless, ← List.countP_append]
  rfl

/-! ## What a list of values gives -/

theorem rulesOf_world (values : List Value) (w : World) (htold : ∀ value ∈ values, Tellable value) :
    (rulesOf env values w).1 =
      ⟨w.disk, w.log ++ values.filterMap complaint?, w.idsMade + nameless (readable values)⟩ := by
  -- A rule without an id and a note each change the world in which the rest is gone through.
  induction values generalizing w with
  | nil => simp [rulesOf, readable, nameless]
  | cons value rest ih =>
      obtain ⟨hfirst, hrest⟩ := List.forall_mem_cons.mp htold
      cases value with
      | map pairs =>
          cases hentry : Entry.ofPairs pairs with
          | ok entry =>
              have hquiet : complaint? (.map pairs) = none := by simp [complaint?, hentry]
              rw [readable_cons_of_ok hentry, nameless_cons, List.filterMap_cons_none hquiet]
              simp only [rulesOf, hentry]
              rw [ih _ hrest, ruleOf_world, Nat.add_assoc]
          | error faults =>
              have hvalue : Entry.ofValue (.map pairs) = .error faults := hentry
              have hnoted : complaint? (.map pairs) = some (.invalidRule faults.length) := by
                simp [complaint?, hentry]
              have hshowable := (tellable_iff_of_error hentry).mp hfirst
              rw [readable_cons_of_error hvalue, List.filterMap_cons_some hnoted]
              simp only [rulesOf, hentry, if_pos hshowable]
              rw [ih _ hrest, World.note, List.append_assoc]
              rfl
      | _ => exact ih w hrest

theorem forall₂_states_named (made : Nat) (entries : List Entry) :
    List.Forall₂ States entries (named env made entries) := by
  induction entries generalizing made with
  | nil => exact .nil
  | cons entry rest ih => exact .cons (states_toRule entry _) (ih _)

theorem named_append (made : Nat) (entries others : List Entry) :
    named env made (entries ++ others) =
      named env made entries ++ named env (made + nameless entries) others := by
  induction entries generalizing made with
  | nil => rfl
  | cons entry rest ih =>
      have hmade : (if entry.ownId?.isSome then made else made + 1) + nameless rest =
          made + nameless (entry :: rest) := by
        cases hown : entry.ownId? with
        | some id => simp [nameless, hown]
        | none =>
            simp only [nameless, List.countP_cons, hown, Option.isSome_none, Option.isNone_none,
              Bool.false_eq_true, if_false, if_true]
            omega
      rw [List.cons_append, named, ih, hmade]
      rfl

theorem readable_append (xs ys : List Value) :
    readable (xs ++ ys) = readable xs ++ readable ys :=
  List.filterMap_append

/-! ## Two lists one behind the other -/

/-- Loading gives these rules, one for each entry among the values that can be read, and notes the
entries with faults. -/
structure Gives (env : Environment) (path : Path) (w : World) (values : List Value)
    (rules : List Rule) : Prop where
  result : (load env path w).2 = .ok rules
  stated : List.Forall₂ States (readable values) rules
  noted : (load env path w).1.log = w.log ++ values.filterMap complaint?

theorem load_of_lists (hfile : path.expandHome env.home = some file)
    (hholds : Holds file w.disk document) (hlists : Lists document values) :
    load env path w = rulesOf env values w := by
  rw [load_of_holds_document hfile hholds, entriesOf_of_lists hlists]

theorem gives_named (hload : load env path w = rulesOf env values w)
    (htold : ∀ value ∈ values, Tellable value) :
    Gives env path w values (named env w.idsMade (readable values)) := by
  refine ⟨?_, forall₂_states_named _ _, ?_⟩
  · rw [hload, rulesOf_eq_ok_iff]
    exact ⟨htold, rfl⟩
  · rw [hload, rulesOf_world values w htold]

namespace Jumble

open Blot (here page holding)

def whole : Text := "exclusions: [{type: host}, 7, {type: path, pattern: /a}]\n"

def front : Text := "- {type: host}\n- 7\n"

def back : Text := "- {type: path, pattern: /a}\n"

def faulty : List (Value × Value) := [(.text "type", .text "host")]

def sound : List (Value × Value) := [(.text "type", .text "path"), (.text "pattern", .text "/a")]

theorem holds_holding {t : Text} {document : Value}
    (hread : Yaml.read (unifyLineEnds t) = .ok document) :
    Holds page (holding (Text.encodeUtf8 t)).disk document := ⟨t, rfl, hread⟩

/-- The pattern of the first entry is a number with more digits than can be written. -/
def overlong : Text :=
  "- type: host\n  pattern: 0x1" ++ List.replicate 3572 '0' ++
    "\n- id: b\n  type: host\n  pattern: b\n"

def hidden : List (Value × Value) :=
  [(.text "type", .text "host"), (.text "pattern", .int (.ofNat (Nat.pow 16 3572)))]

def plain : List (Value × Value) :=
  [(.text "id", .text "b"), (.text "type", .text "host"), (.text "pattern", .text "b")]

end Jumble

end RuleFile
end HeaderAudit
