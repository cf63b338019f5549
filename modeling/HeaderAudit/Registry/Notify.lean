import HeaderAudit.Registry.Basic

/-!
# Changes and those who hear of them

A change is committed first and then told to the listeners of that moment, one after another. A
listener may itself change the registry, and such a change is told at once, before the rest of the
listeners hear of the earlier one. What a listener does beyond the registry it does to the world, a
value of any type.

Changes can call for changes without end, so the number of changes within changes is bounded; the
results below hold for every bound that is large enough.
-/

namespace HeaderAudit

inductive Reaction (World : Type) where
  | done
  /-- The listener fails; the reason is left out where it is not its own. -/
  | fail (reason : Option Text)
  | put (world : World) (next : Reaction World)
  /-- Changes the registry, and goes on by what the registry and the world are then. -/
  | change (operation : Operation) (next : Registry → World → Reaction World)
  | listen (listener : Listener) (next : Reaction World)
  | unlisten (listener : Listener) (next : Reaction World)

structure Audience (World : Type) where
  hear : Listener → List Rule → Registry → World → Reaction World
  noteFailure : Listener → Option Text → World → World

inductive Event where
  | committed (rules : List Rule)
  | called (listener : Listener) (rules : List Rule)
  deriving DecidableEq, Repr

/-- The registry, the world around it, and what has happened, the latest first. -/
structure Session (World : Type) where
  registry : Registry
  world : World
  events : List Event

namespace Session

variable {World : Type}

/-- The end of a reaction: the session, and the reason if the listener failed. -/
abbrev Ending (World : Type) := Session World × Option (Option Text)

/-- Follows a reaction; the first argument says how changes within it are carried out. -/
def follow (change : Operation → Session World → Option (Except RuleError Unit × Session World)) :
    Reaction World → Session World → Option (Ending World)
  | .done, s => some (s, none)
  | .fail reason, s => some (s, some reason)
  | .put world next, s => follow change next { s with world := world }
  | .listen listener next, s =>
    follow change next { s with registry := s.registry.listen listener }
  | .unlisten listener next, s =>
    follow change next { s with registry := s.registry.unlisten listener }
  | .change operation next, s =>
    match change operation s with
    | none => none
    | some (.error e, s) => some (s, some (some e.message))
    | some (.ok (), s) => follow change (next s.registry s.world) s

def tell (audience : Audience World)
    (change : Operation → Session World → Option (Except RuleError Unit × Session World))
    (rules : List Rule) (s : Session World) (listener : Listener) : Option (Session World) :=
  let called := { s with events := .called listener rules :: s.events }
  match follow change (audience.hear listener rules s.registry s.world) called with
  | none => none
  | some (s, none) => some s
  | some (s, some reason) =>
    some { s with world := audience.noteFailure listener reason s.world }

def tellAll (audience : Audience World)
    (change : Operation → Session World → Option (Except RuleError Unit × Session World))
    (rules : List Rule) : List Listener → Session World → Option (Session World)
  | [], s => some s
  | listener :: rest, s =>
    match tell audience change rules s listener with
    | none => none
    | some s => tellAll audience change rules rest s

/-- Commits the rules and tells the listeners of this moment. -/
def commit (audience : Audience World)
    (change : Operation → Session World → Option (Except RuleError Unit × Session World))
    (rules : List Rule) (s : Session World) : Option (Session World) :=
  tellAll audience change rules s.registry.listeners
    { s with
      registry := { s.registry with rules := rules }
      events := .committed rules :: s.events }

/-- Carries out an operation with at most so many changes within one another; none if they are
more. -/
def perform (audience : Audience World) :
    Nat → Operation → Session World → Option (Except RuleError Unit × Session World)
  | 0, _, _ => none
  | depth + 1, operation, s =>
    match Registry.apply operation s.registry.rules with
    | .error e => some (.error e, s)
    | .ok none => some (.ok (), s)
    | .ok (some rules) =>
      (commit audience (perform audience depth) rules s).map (.ok (), ·)

end Session

end HeaderAudit
