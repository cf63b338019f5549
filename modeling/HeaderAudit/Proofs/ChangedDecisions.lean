import HeaderAudit.Proofs.RuleLedger
import HeaderAudit.Proofs.UnknownIds

/-!
# What a change does to the decision

A request is excluded if any of the rules excludes it.  So a change of the rules bears on the
decision only through the rules that come and go, and which these are is a matter of ids: several
rules may have the same one, a removal takes out all of them, and an update replaces the first and
leaves the others in force.  The order of the rules never matters, nor does it matter how often one
of them is there.
-/

namespace HeaderAudit

namespace Registry

variable {rules others : List Rule} {new : Rule}

theorem excludes_iff (r : Registry) (method url : Text) :
    r.excludes method url = true ↔ ∃ rule ∈ r.rules, rule.excludes method url = true := by
  rw [excludes, List.any_eq_true]

theorem excludes_ofRules_congr (hsame : ∀ rule, rule ∈ others ↔ rule ∈ rules)
    (method url : Text) :
    (ofRules others).excludes method url = (ofRules rules).excludes method url := by
  rw [Bool.eq_iff_iff, excludes_iff, excludes_iff]
  simp only [ofRules, hsame]

/-! ## Replacing the first rule with an id -/

theorem any_replaceFirst (hknown : new.id ∈ rules.map Rule.id) (p : Rule → Bool) :
    (replaceFirst new.id new rules).any p =
      (p new || (rules.eraseP (·.id = new.id)).any p) := by
  induction rules with
  | nil => cases hknown
  | cons rule rest ih =>
      rw [replaceFirst]
      by_cases hfirst : rule.id = new.id
      · rw [if_pos hfirst, List.any_cons, List.eraseP_cons_of_pos (by simpa using hfirst)]
      · have hrest : new.id ∈ rest.map Rule.id := by
          rw [List.map_cons, List.mem_cons] at hknown
          exact hknown.resolve_left (Ne.symm hfirst)
        rw [if_neg hfirst, List.any_cons, ih hrest,
          List.eraseP_cons_of_neg (by simpa using hfirst), List.any_cons, Bool.or_left_comm]

theorem ids_replaceFirst (new : Rule) (rules : List Rule) :
    (replaceFirst new.id new rules).map Rule.id = rules.map Rule.id := by
  induction rules with
  | nil => rfl
  | cons rule rest ih =>
      rw [replaceFirst]
      by_cases hfirst : rule.id = new.id
      · rw [if_pos hfirst, List.map_cons, List.map_cons, hfirst]
      · rw [if_neg hfirst, List.map_cons, List.map_cons, ih]

theorem find?_replaceFirst (hknown : new.id ∈ rules.map Rule.id) :
    (replaceFirst new.id new rules).find? (·.id = new.id) = some new := by
  induction rules with
  | nil => cases hknown
  | cons rule rest ih =>
      rw [replaceFirst]
      by_cases hfirst : rule.id = new.id
      · rw [if_pos hfirst, List.find?_cons_of_pos (by simp)]
      · have hrest : new.id ∈ rest.map Rule.id := by
          rw [List.map_cons, List.mem_cons] at hknown
          exact hknown.resolve_left (Ne.symm hfirst)
        rw [if_neg hfirst, List.find?_cons_of_neg (by simpa using hfirst), ih hrest]

end Registry

/-! ## Each operation -/

variable {V : Type} {audience : Audience V} {s : Session V} {operation : Operation}

namespace Session

/-- The operation is carried out and returns, and the registry has the property then. -/
def Leaves (audience : Audience V) (operation : Operation) (s : Session V)
    (property : Registry → Prop) : Prop :=
  ∀ depth, ∃ s', perform audience (depth + 1) operation s = some (.ok (), s') ∧
    property s'.registry

/-- Before listeners that do not write back, an operation leaves what it makes of the rules. -/
theorem leaves_of_apply {rules : List Rule} {property : Registry → Prop}
    (hsilent : audience.Silent)
    (happly : Registry.apply operation s.registry.rules = .ok (some rules))
    (hproperty : ∀ r : Registry, r.rules = rules → property r) :
    s.Leaves audience operation property := by
  intro depth
  obtain ⟨s', hperform, hrules, -⟩ := perform_of_silent hsilent happly depth
  exact ⟨s', hperform, hproperty s'.registry hrules⟩

/-- What each operation does to the decision about any request.  The registry may have any rules and
any listeners that do not write back; they may fail, and register and take out one another. -/
theorem operations_change_decision (hsilent : audience.Silent) (s : Session V) :
    (∀ rule, s.Leaves audience (.add rule) fun r => ∀ method url,
      r.excludes method url = (s.registry.excludes method url || rule.excludes method url)) ∧
    (∀ id, s.Leaves audience (.remove id) fun r => ∀ method url,
      (r.excludes method url = true ↔
        ∃ rule ∈ s.registry.rules, rule.id ≠ id ∧ rule.excludes method url = true)) ∧
    (∀ new : Rule, new.id ∈ s.registry.rules.map Rule.id →
      s.Leaves audience (.update new.id (.text new.kind.name) (some new.pattern)) fun r =>
        (∀ method url, r.excludes method url = (new.excludes method url ||
          (s.registry.rules.eraseP (·.id = new.id)).any (·.excludes method url))) ∧
        r.rules.map Rule.id = s.registry.rules.map Rule.id ∧ r.get? new.id = some new) ∧
    (s.Leaves audience .clear fun r => ∀ method url, r.excludes method url = false) ∧
    ∀ rules others, (∀ rule, rule ∈ others ↔ rule ∈ rules) →
      s.Leaves audience (.replaceAll others) fun r => ∀ method url,
        r.excludes method url = (Registry.ofRules rules).excludes method url := by
  refine ⟨?add, ?remove, ?update, ?clear, ?replaceAll⟩
  case add =>
    intro rule
    apply leaves_of_apply hsilent rfl
    intro r hrules method url
    simp [Registry.excludes, hrules]
  case remove =>
    intro id
    apply leaves_of_apply hsilent rfl
    intro r hrules method url
    rw [Registry.excludes_iff, hrules]
    simp [and_assoc]
  case update =>
    intro new hknown
    have happly := RuleRequest.apply_of_fits (show (RuleRequest.update new).Fits _ from hknown)
    apply leaves_of_apply hsilent happly
    intro r hrules
    rw [Registry.get?, hrules]
    refine ⟨?_, Registry.ids_replaceFirst new _, Registry.find?_replaceFirst hknown⟩
    intro method url
    rw [Registry.excludes, hrules]
    exact Registry.any_replaceFirst hknown _
  case clear =>
    apply leaves_of_apply hsilent rfl
    intro r hrules method url
    simp [Registry.excludes, hrules]
  case replaceAll =>
    intro rules others hsame
    apply leaves_of_apply hsilent rfl
    intro r hrules method url
    rw [← Registry.excludes_ofRules_congr hsame, Registry.excludes, hrules]
    rfl

/-! ## Rules with one id, and a listener that goes away and fails -/

namespace Twins

def hostRule : Rule := ⟨.host, "a.example", ['t']⟩

def pathRule : Rule := ⟨.path, "/b/*", ['t']⟩

def otherRule : Rule := ⟨.host, "c.example", ['o']⟩

def movedRule : Rule := ⟨.host, "d.example", ['t']⟩

def leaving : Audience Unit :=
  ⟨fun listener _ _ _ => .unlisten listener (.fail none), fun _ _ world => world⟩

def start : Session Unit :=
  ⟨⟨[hostRule, otherRule, pathRule], [.named ['l'], .named ['m']]⟩, (), []⟩

def hostUrl : Text := "https://A.example/"

def pathUrl : Text := "https://e.example/b/"

def movedUrl : Text := "https://d.example/"

theorem leaving_silent : leaving.Silent := fun _ _ _ _ => trivial

theorem same_twice (rule : Rule) :
    rule ∈ [pathRule, hostRule, pathRule] ↔ rule ∈ [hostRule, pathRule] := by
  simp only [List.mem_cons, List.not_mem_nil, or_false]
  grind

theorem update_leaves_second_twin :
    leaving.Silent ∧ movedRule.id ∈ start.registry.rules.map Rule.id ∧
      (start.Leaves leaving (.update ['t'] (.text "host") (some "d.example")) fun r =>
        r.excludes "GET" hostUrl = false ∧ r.excludes "GET" pathUrl = true ∧
          r.excludes "GET" movedUrl = true ∧ r.get? ['t'] = some movedRule) ∧
      (∀ rule, rule ∈ [pathRule, hostRule, pathRule] ↔ rule ∈ [hostRule, pathRule]) ∧
      start.Leaves leaving (.replaceAll [pathRule, hostRule, pathRule]) fun r =>
        r.excludes "GET" hostUrl = true := by
  have hknown : movedRule.id ∈ start.registry.rules.map Rule.id := by decide
  obtain ⟨-, -, hupdate, -, hreplace⟩ := operations_change_decision leaving_silent start
  refine ⟨leaving_silent, hknown, ?_, same_twice, ?_⟩
  · intro depth
    obtain ⟨s', hperform, hexcludes, -, hget⟩ := hupdate movedRule hknown depth
    refine ⟨s', hperform, ?_, ?_, ?_, hget⟩ <;> rw [hexcludes] <;> decide +kernel
  · intro depth
    obtain ⟨s', hperform, hexcludes⟩ := hreplace _ _ same_twice depth
    refine ⟨s', hperform, (hexcludes "GET" hostUrl).trans ?_⟩
    decide +kernel

end Twins

end Session
end HeaderAudit
