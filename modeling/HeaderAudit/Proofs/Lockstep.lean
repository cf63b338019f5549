import HeaderAudit.Proofs.ChangeHistory
import Mathlib.Data.Option.Basic

/-!
# Changes in lockstep

Two audiences may live in different worlds and yet ask for the same changes of the registry.  Their
worlds are then kept alike by a relation, and each reaction of the one goes with a reaction of the
other that changes the registry and its listeners in the same way.  A change before the one audience
and the same change before the other stay in lockstep: both come to an end or neither does, with the
same rules, the same listeners and the same calls.
-/

namespace HeaderAudit

variable {V W : Type}

namespace Reaction

/-- How a reaction ends that does nothing more: with the reason of its failure, or without one. -/
def ending? : Reaction W → Option (Option (Option Text))
  | .done => some none
  | .fail reason => some (some reason)
  | _ => none

/-- Two reactions, each in a world of its own, change the registry and its listeners in the same
way.  What they put into their worlds has to be alike whenever the registry is changed, and at the
end. -/
inductive Alike (R : V → W → Prop) (Ends : Option (Option Text) → Option (Option Text) → Prop) :
    V → Reaction V → W → Reaction W → Prop where
  | stop {v w first second ending ending'} :
      ending? first = some ending → ending? second = some ending' → Ends ending ending' → R v w →
      Alike R Ends v first w second
  | putFirst {v v' w next second} :
      Alike R Ends v' next w second → Alike R Ends v (.put v' next) w second
  | putSecond {v w w' first next} :
      Alike R Ends v first w' next → Alike R Ends v first w (.put w' next)
  | listen {v w listener next next'} :
      Alike R Ends v next w next' →
      Alike R Ends v (.listen listener next) w (.listen listener next')
  | unlisten {v w listener next next'} :
      Alike R Ends v next w next' →
      Alike R Ends v (.unlisten listener next) w (.unlisten listener next')
  | change {v w operation next next'} :
      R v w →
      (∀ registry v w, R v w → Alike R Ends v (next registry v) w (next' registry w)) →
      Alike R Ends v (.change operation next) w (.change operation next')

end Reaction

/-- The world when a call is over; a failure is noted. -/
def Audience.worldAfter (audience : Audience W) (listener : Listener) :
    Option (Option Text) → W → W
  | none, world => world
  | some reason, world => audience.noteFailure listener reason world

/-- The listeners of two audiences react alike as long as their worlds are alike, and what is noted
of their endings leaves the worlds alike. -/
structure Lockstep (first : Audience V) (second : Audience W) (R : V → W → Prop)
    (Ends : Option (Option Text) → Option (Option Text) → Prop) : Prop where
  hear : ∀ listener rules registry v w, R v w →
    Reaction.Alike R Ends v (first.hear listener rules registry v) w
      (second.hear listener rules registry w)
  worldAfter : ∀ listener ending ending' v w, Ends ending ending' → R v w →
    R (first.worldAfter listener ending v) (second.worldAfter listener ending' w)
  rejected : ∀ message, Ends (some (some message)) (some (some message))

namespace Session

/-- The two sessions have the same registry and the same record, in worlds that are alike. -/
structure Alike (R : V → W → Prop) (s : Session V) (t : Session W) : Prop where
  registry : s.registry = t.registry
  events : s.events = t.events
  world : R s.world t.world

variable {R : V → W → Prop} {Ends : Option (Option Text) → Option (Option Text) → Prop}
  {first : Audience V} {second : Audience W} {s : Session V} {t : Session W}
  {change : Operation → Session V → Option (Except RuleError Unit × Session V)}
  {change' : Operation → Session W → Option (Except RuleError Unit × Session W)}

theorem Alike.recorded (halike : s.Alike R t) (event : Event) :
    Alike R { s with events := event :: s.events } { t with events := event :: t.events } :=
  ⟨halike.registry, congrArg (event :: ·) halike.events, halike.world⟩

theorem follow_of_ending? {reaction : Reaction W} {ending : Option (Option Text)}
    (hending : reaction.ending? = some ending) : follow change' reaction t = some (t, ending) := by
  cases reaction with
  | done => simpa [Reaction.ending?, follow] using hending
  | fail reason => simpa [Reaction.ending?, follow] using hending
  | _ => simp [Reaction.ending?] at hending

/-- To tell a listener is to follow its reaction and to note how it ends. -/
theorem tell_eq (audience : Audience W) (rules : List Rule) (t : Session W) (listener : Listener) :
    tell audience change' rules t listener =
      (follow change' (audience.hear listener rules t.registry t.world)
        (t.calling listener rules)).map fun ending =>
          { ending.1 with world := audience.worldAfter listener ending.2 ending.1.world } := by
  rw [tell, calling]
  cases follow change' (audience.hear listener rules t.registry t.world) _ with
  | none => rfl
  | some ending =>
      obtain ⟨t', reason⟩ := ending
      cases reason <;> rfl

theorem follow_alike (hlock : Lockstep first second R Ends)
    (hchange : ∀ operation s t, s.Alike R t → Option.Rel
      (fun a b => a.1 = b.1 ∧ a.2.Alike R b.2) (change operation s) (change' operation t))
    {v : V} {w : W} {reaction : Reaction V} {reaction' : Reaction W}
    (hreact : Reaction.Alike R Ends v reaction w reaction')
    (hregistry : s.registry = t.registry) (hevents : s.events = t.events)
    (hv : s.world = v) (hw : t.world = w) :
    Option.Rel (fun a b => a.1.Alike R b.1 ∧ Ends a.2 b.2)
      (follow change reaction s) (follow change' reaction' t) := by
  induction hreact generalizing s t with
  | stop hfirst hsecond hends hworld =>
      subst hv hw
      rw [follow_of_ending? hfirst, follow_of_ending? hsecond]
      exact .some ⟨⟨hregistry, hevents, hworld⟩, hends⟩
  | putFirst _ ih => exact ih hregistry hevents rfl hw
  | putSecond _ ih => exact ih hregistry hevents hv rfl
  | @listen _ _ listener _ _ _ ih =>
      exact ih (congrArg (Registry.listen listener) hregistry) hevents hv hw
  | @unlisten _ _ listener _ _ _ ih =>
      exact ih (congrArg (Registry.unlisten listener) hregistry) hevents hv hw
  | @change v w operation next next' hworld _ ih =>
      subst hv hw
      have hanswer := hchange operation s t ⟨hregistry, hevents, hworld⟩
      rw [follow, follow]
      generalize change operation s = answer at hanswer
      generalize change' operation t = answer' at hanswer
      cases hanswer with
      | none => exact .none
      | @some answer answer' h =>
          obtain ⟨result, s'⟩ := answer
          obtain ⟨result', t'⟩ := answer'
          obtain ⟨hresult, halike⟩ := h
          simp only at hresult halike
          subst hresult
          cases result with
          | error e => exact .some ⟨halike, hlock.rejected e.message⟩
          | ok _ =>
              have hnext := ih s'.registry _ _ halike.world halike.registry halike.events rfl rfl
              simpa only [halike.registry] using hnext

/-- Whoever is told reacts in lockstep, and so does the whole row of listeners. -/
theorem tellAll_alike (hlock : Lockstep first second R Ends)
    (hchange : ∀ operation s t, s.Alike R t → Option.Rel
      (fun a b => a.1 = b.1 ∧ a.2.Alike R b.2) (change operation s) (change' operation t))
    (rules : List Rule) (listeners : List Listener) (halike : s.Alike R t) :
    Option.Rel (Alike R) (tellAll first change rules listeners s)
      (tellAll second change' rules listeners t) := by
  induction listeners generalizing s t with
  | nil => exact .some halike
  | cons listener listeners ih =>
      have hcalled : Alike R (s.calling listener rules) (t.calling listener rules) :=
        halike.recorded (.called listener rules)
      have hreact := hlock.hear listener rules s.registry _ _ halike.world
      have hends := follow_alike hlock hchange hreact hcalled.registry hcalled.events rfl rfl
      rw [tellAll, tellAll, tell_eq, tell_eq]
      simp only [calling, halike.registry] at hends ⊢
      generalize follow change _ _ = answer at hends ⊢
      generalize follow change' _ _ = answer' at hends ⊢
      cases hends with
      | none => exact .none
      | some h =>
          obtain ⟨hsessions, hending⟩ := h
          have hworld := hlock.worldAfter listener _ _ _ _ hending hsessions.world
          exact ih ⟨hsessions.registry, hsessions.events, hworld⟩

/-- A change goes on in lockstep before the two audiences. -/
theorem perform_alike (hlock : Lockstep first second R Ends) (depth : Nat) (operation : Operation)
    (halike : s.Alike R t) :
    Option.Rel (fun a b => a.1 = b.1 ∧ a.2.Alike R b.2)
      (perform first depth operation s) (perform second depth operation t) := by
  induction depth generalizing operation s t with
  | zero => exact .none
  | succ depth ih =>
      rw [perform, perform, halike.registry]
      cases happly : Registry.apply operation t.registry.rules with
      | error e => exact .some ⟨rfl, halike⟩
      | ok changed =>
          cases changed with
          | none => exact .some ⟨rfl, halike⟩
          | some rules =>
              have hcommitted : Alike R (s.committing rules) (t.committing rules) :=
                ⟨by simp [committing, halike.registry], by simp [committing, halike.events],
                  halike.world⟩
              have hlisteners : s.registry.listeners = t.registry.listeners :=
                congrArg Registry.listeners halike.registry
              have htold : Option.Rel (Alike R) (commit first (perform first depth) rules s)
                  (commit second (perform second depth) rules t) := by
                rw [commit, commit, hlisteners]
                exact tellAll_alike hlock (fun operation s t h => ih operation h) rules
                  t.registry.listeners hcommitted
              simp only
              generalize commit first (perform first depth) rules s = told at htold ⊢
              generalize commit second (perform second depth) rules t = told' at htold ⊢
              cases htold with
              | none => exact .none
              | some h => exact .some ⟨rfl, h⟩

end Session

/-! ## A listener that corrects what it hears -/

namespace Corrector

def corrector : Listener := .named ['c']

def watcher : Listener := .named ['w']

def stale : Rule := ⟨.host, ['o', 'l', 'd'], ['a']⟩

def fresh : Rule := ⟨.path, ['n', 'e', 'w'], ['a']⟩

def other : Rule := ⟨.host, ['h'], ['b']⟩

def correction : Operation := .update stale.id (.text fresh.kind.name) (some fresh.pattern)

/-- The corrector replaces the stale rule, adds another one and ends as it is told to; everyone else
does nothing.  Who fails is noted. -/
def audience (ending : Reaction (List Listener)) : Audience (List Listener) where
  hear listener rules _ _ :=
    if listener = corrector ∧ rules.any (·.pattern = stale.pattern) then
      .change correction fun _ _ => .change (.add other) fun _ _ => ending
    else .done
  noteFailure listener _ noted := noted ++ [listener]

def session : Session (List Listener) := ⟨⟨[], [corrector, watcher]⟩, [], []⟩

/-- The session after the stale rule has been added, with the latest event first. -/
def corrected : Session (List Listener) :=
  ⟨⟨[fresh, other], [corrector, watcher]⟩, [corrector],
    [.called watcher [stale], .called watcher [fresh, other], .called corrector [fresh, other],
      .committed [fresh, other], .called watcher [fresh], .called corrector [fresh],
      .committed [fresh], .called corrector [stale], .committed [stale]]⟩

end Corrector

end HeaderAudit
