import HeaderAudit.Rule.Basic

/-!
# The registry of exclusion rules

The rules in the order of their arrival, and the listeners that hear of every change in the order of
their registration. Each change is a function on the list of rules.
-/

namespace HeaderAudit

inductive Listener where
  | store
  | named (name : Text)
  deriving DecidableEq, Repr, Inhabited

structure Registry where
  rules : List Rule
  listeners : List Listener
  deriving DecidableEq, Repr, Inhabited

inductive Operation where
  | add (rule : Rule)
  /-- Takes out every rule with the id. -/
  | remove (id : Text)
  /-- Puts a rule in the place of the first one with the id. -/
  | update (id : Text) (kind : Json) (pattern : Option Text)
  | clear
  | replaceAll (rules : List Rule)

namespace Registry

def empty : Registry := ⟨[], []⟩

def ofRules (rules : List Rule) : Registry := ⟨rules, []⟩

/-- The list with another rule in the place of the first one with the id. -/
def replaceFirst (id : Text) (new : Rule) : List Rule → List Rule
  | [] => []
  | rule :: rest => if rule.id = id then new :: rest else rule :: replaceFirst id new rest

/-- The rules after an operation; none when the operation changes nothing and tells nobody. -/
def apply (operation : Operation) (rules : List Rule) : Except RuleError (Option (List Rule)) :=
  match operation with
  | .add rule => .ok (some (rules ++ [rule]))
  | .remove id => .ok (some (rules.filter (·.id ≠ id)))
  | .update id kind pattern =>
    if rules.any (·.id = id) then do
      .ok (some (replaceFirst id (← Rule.ofDraft ⟨kind, pattern, some id⟩) rules))
    else .ok none
  | .clear => .ok (some [])
  | .replaceAll new => .ok (some new)

def get? (id : Text) (r : Registry) : Option Rule := r.rules.find? (·.id = id)

def size (r : Registry) : Nat := r.rules.length

def excludes (r : Registry) (method url : Text) : Bool := r.rules.any (·.excludes method url)

def excludesValues (r : Registry) (method url : Json) : Bool :=
  r.rules.any (·.excludesValues method url)

def listen (listener : Listener) (r : Registry) : Registry :=
  { r with listeners := r.listeners ++ [listener] }

/-- Takes one occurrence of a listener out of the list. -/
def unlisten (listener : Listener) (r : Registry) : Registry :=
  { r with listeners := r.listeners.erase listener }

end Registry

end HeaderAudit
