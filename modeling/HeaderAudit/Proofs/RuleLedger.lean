import HeaderAudit.Proofs.OtherListeners
import HeaderAudit.Text.Blank

/-!
# The rules as an ordered map

Requests to change the rules, and what they make of a list in which every id occurs once: a rule is
added at the end, replaced in its place or taken out, and a request that does not fit is refused.
On such a list the registry does the same, although it looks for an id without knowing that it is
the only one.
-/

namespace HeaderAudit

/-- A request to change the rules; an update names the rule with the id that is to be replaced. -/
inductive RuleRequest where
  | add (rule : Rule)
  | update (rule : Rule)
  | remove (id : Text)
  | clear

namespace RuleRequest

/-- The id of the rule that the request is about. -/
def id? : RuleRequest → Option Text
  | .add rule | .update rule => some rule.id
  | .remove id => some id
  | .clear => none

/-- The rules after the request, or none if it is refused. -/
def answer? : RuleRequest → List Rule → Option (List Rule)
  | .add rule, rules =>
      if Text.blank rule.pattern ∨ rule.id ∈ rules.map Rule.id then none else some (rules ++ [rule])
  | .update rule, rules =>
      if rule.id ∈ rules.map Rule.id then
        some (rules.map fun old => if old.id = rule.id then rule else old)
      else none
  | .remove id, rules =>
      if id ∈ rules.map Rule.id then some (rules.eraseP fun old => old.id = id) else none
  | .clear, _ => some []

/-- The rules after the request; they stay as they are if it is refused. -/
def after (request : RuleRequest) (rules : List Rule) : List Rule :=
  (request.answer? rules).getD rules

/-- What is asked for can be done: a new rule has a pattern and its id is new, and a rule that is
named is there. -/
def Fits : RuleRequest → List Rule → Prop
  | .add rule, rules => Text.blank rule.pattern = false ∧ rule.id ∉ rules.map Rule.id
  | .update rule, rules => rule.id ∈ rules.map Rule.id
  | .remove id, rules => id ∈ rules.map Rule.id
  | .clear, _ => True

/-- What the registry makes of the rules if the request fits, whatever ids they have. -/
def result : RuleRequest → List Rule → List Rule
  | .add rule, rules => rules ++ [rule]
  | .update rule, rules => Registry.replaceFirst rule.id rule rules
  | .remove id, rules => rules.filter fun old => old.id ≠ id
  | .clear, _ => []

/-- The pattern is not empty, and the id has no bracket in which a tag could begin. -/
def Admissible : RuleRequest → Prop
  | .add rule => rule.Storable ∧ '[' ∉ rule.id
  | .update rule => rule.pattern ≠ [] ∧ '[' ∉ rule.id
  | .remove id => '[' ∉ id
  | .clear => True

/-- What the request is to the registry. -/
def operation : RuleRequest → Operation
  | .add rule => .add rule
  | .update rule => .update rule.id (.text rule.kind.name) (some rule.pattern)
  | .remove id => .remove id
  | .clear => .clear

variable {request : RuleRequest} {rules changed : List Rule} {rule : Rule} {id : Text}

/-! ## What is not refused -/

theorem add_answer_iff :
    (add rule).answer? rules = some changed ↔
      (Text.blank rule.pattern = false ∧ rule.id ∉ rules.map Rule.id) ∧
        rules ++ [rule] = changed := by
  rw [answer?, Option.ite_none_left_eq_some, Option.some.injEq, not_or, Bool.not_eq_true]

theorem update_answer_iff :
    (update rule).answer? rules = some changed ↔
      rule.id ∈ rules.map Rule.id ∧
        (rules.map fun old => if old.id = rule.id then rule else old) = changed := by
  rw [answer?, Option.ite_none_right_eq_some, Option.some.injEq]

theorem remove_answer_iff :
    (remove id).answer? rules = some changed ↔
      id ∈ rules.map Rule.id ∧ (rules.eraseP fun old => old.id = id) = changed := by
  rw [answer?, Option.ite_none_right_eq_some, Option.some.injEq]

/-! ## One rule for each id -/

theorem replaceFirst_eq_map {new : Rule} (hnodup : (rules.map Rule.id).Nodup) :
    Registry.replaceFirst new.id new rules =
      rules.map fun old => if old.id = new.id then new else old := by
  induction rules with
  | nil => rfl
  | cons rule rest ih =>
      obtain ⟨hrule, hrest⟩ := List.nodup_cons.mp hnodup
      rw [Registry.replaceFirst, List.map_cons]
      by_cases hsame : rule.id = new.id
      · have hkept : (rest.map fun old => if old.id = new.id then new else old) = rest := by
          have hother : ∀ old ∈ rest, (if old.id = new.id then new else old) = old := by
            intro old hold
            rw [if_neg]
            intro heq
            apply hrule
            rw [hsame, ← heq]
            exact List.mem_map_of_mem hold
          rw [List.map_congr_left hother, List.map_id']
        rw [if_pos hsame, if_pos hsame, hkept]
      · rw [if_neg hsame, if_neg hsame, ih hrest]

theorem filter_eq_eraseP (hnodup : (rules.map Rule.id).Nodup) :
    rules.filter (fun old => old.id ≠ id) = rules.eraseP fun old => old.id = id := by
  induction rules with
  | nil => rfl
  | cons rule rest ih =>
      obtain ⟨hrule, hrest⟩ := List.nodup_cons.mp hnodup
      by_cases hsame : rule.id = id
      · have hkept : rest.filter (fun old => old.id ≠ id) = rest := by
          rw [List.filter_eq_self]
          intro old hold
          rw [decide_eq_true_eq]
          rintro rfl
          exact hrule (by rw [hsame]; exact List.mem_map_of_mem hold)
        rw [List.filter_cons_of_neg (by simpa using hsame), hkept,
          List.eraseP_cons_of_pos (by simpa using hsame)]
      · rw [List.filter_cons_of_pos (by simpa using hsame), ih hrest,
          List.eraseP_cons_of_neg (by simpa using hsame)]

theorem nodup_answer (hnodup : (rules.map Rule.id).Nodup)
    (hanswer : request.answer? rules = some changed) : (changed.map Rule.id).Nodup := by
  cases request with
  | add rule =>
      obtain ⟨⟨-, hnew⟩, rfl⟩ := add_answer_iff.mp hanswer
      rw [List.map_append, List.map_singleton, List.nodup_append]
      refine ⟨hnodup, by simp, ?_⟩
      rintro other hother id hid rfl
      rw [List.mem_singleton.mp hid] at hother
      exact hnew hother
  | update rule =>
      obtain ⟨-, rfl⟩ := update_answer_iff.mp hanswer
      have hids : (rules.map fun old => if old.id = rule.id then rule else old).map Rule.id =
          rules.map Rule.id := by
        rw [List.map_map]
        apply List.map_congr_left
        intro old _
        by_cases hsame : old.id = rule.id <;> simp [hsame]
      rw [hids]
      exact hnodup
  | remove id =>
      obtain ⟨-, rfl⟩ := remove_answer_iff.mp hanswer
      exact hnodup.sublist (List.eraseP_sublist.map Rule.id)
  | clear =>
      simp only [answer?, Option.some.injEq] at hanswer
      subst hanswer
      simp

/-- On a list with one rule for each id, the registry does what the request does in memory. -/
theorem answer?_eq_some_iff (hnodup : (rules.map Rule.id).Nodup) :
    request.answer? rules = some changed ↔ request.Fits rules ∧ request.result rules = changed := by
  cases request with
  | add rule => exact add_answer_iff
  | update rule => rw [update_answer_iff, Fits, result, replaceFirst_eq_map hnodup]
  | remove id => rw [remove_answer_iff, Fits, result, filter_eq_eraseP hnodup]
  | clear => simp [answer?, Fits, result]

/-! ## What the registry does -/

theorem apply_of_fits (hfits : request.Fits rules) :
    Registry.apply request.operation rules = .ok (some (request.result rules)) := by
  cases request with
  | add rule => rfl
  | update rule =>
      have hany : rules.any (fun old => decide (old.id = rule.id)) = true := by
        obtain ⟨old, hold, hid⟩ := List.mem_map.mp hfits
        exact List.any_eq_true.mpr ⟨old, hold, decide_eq_true hid⟩
      have hdraft : Rule.ofDraft ⟨.text rule.kind.name, some rule.pattern, some rule.id⟩ =
          .ok rule := by
        obtain ⟨kind, pattern, id⟩ := rule
        cases kind <;> rfl
      rw [operation, Registry.apply, if_pos hany, hdraft]
      rfl
  | remove id => rfl
  | clear => rfl

theorem storable_result (hadmissible : request.Admissible)
    (hrules : ∀ rule ∈ rules, rule.Storable) (hfits : request.Fits rules) :
    ∀ rule ∈ request.result rules, rule.Storable := by
  have hoperation : request.operation.Storable := by
    cases request with
    | add rule => exact hadmissible.1
    | update rule => simpa [operation, Operation.Storable] using hadmissible.1
    | remove id => trivial
    | clear => trivial
  exact Registry.apply_storable hoperation hrules (apply_of_fits hfits)

end RuleRequest
end HeaderAudit
