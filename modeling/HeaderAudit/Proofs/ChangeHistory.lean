import HeaderAudit.Registry.Notify

/-!
# The history of a change

A change is carried out with a bound on the changes within one another.  Here it is described
without the bound: a derivation says what a reaction or a round of calls does to a session, and a
history says what happened on the way.  A history is a tree, for the commits of a listener belong to
the call in which it makes them.  Every change that `perform` carries out has such a derivation.
-/

namespace HeaderAudit

/-- A part of a history is a row of commits or a row of calls. -/
inductive HistoryLevel where
  | commits
  | calls

/-- A commit is followed by the calls that tell of it, and a call by the commits that the listener
makes before it returns. -/
inductive History : HistoryLevel → Type where
  | nothing {level : HistoryLevel} : History level
  | commit (rules : List Rule) (calls : History .calls) (rest : History .commits) :
      History .commits
  | call (listener : Listener) (commits : History .commits) (rest : History .calls) :
      History .calls

namespace History

variable {level : HistoryLevel}

/-- The snapshots in the order in which they were committed. -/
def snapshots : {level : HistoryLevel} → History level → List (List Rule)
  | _, nothing => []
  | _, commit rules calls rest => rules :: (snapshots calls ++ snapshots rest)
  | _, call _ commits rest => snapshots commits ++ snapshots rest

def told : {level : HistoryLevel} → History level → List Listener
  | _, nothing => []
  | _, commit .. => []
  | _, call listener _ rest => listener :: told rest

/-- What happens in a history, the earliest first; the rules are those of which a row of calls
tells. -/
def events : {level : HistoryLevel} → List Rule → History level → List Event
  | _, _, nothing => []
  | _, _, commit committed calls rest =>
      .committed committed :: (events committed calls ++ events [] rest)
  | _, rules, call listener commits rest =>
      .called listener rules :: (events [] commits ++ events rules rest)

end History

namespace Session

variable {World : Type}

/-- The session in which new rules have just been committed. -/
def committing (rules : List Rule) (s : Session World) : Session World :=
  { s with
    registry := { s.registry with rules := rules }
    events := .committed rules :: s.events }

def calling (listener : Listener) (rules : List Rule) (s : Session World) : Session World :=
  { s with events := .called listener rules :: s.events }

/-- The session when a call is over; a failure is noted. -/
def returned (audience : Audience World) (listener : Listener) :
    Option (Option Text) → Session World → Session World
  | none, s => s
  | some reason, s => { s with world := audience.noteFailure listener reason s.world }

@[simp] theorem returned_registry (audience : Audience World) (listener : Listener)
    (reason : Option (Option Text)) (s : Session World) :
    (returned audience listener reason s).registry = s.registry := by
  cases reason <;> rfl

@[simp] theorem returned_events (audience : Audience World) (listener : Listener)
    (reason : Option (Option Text)) (s : Session World) :
    (returned audience listener reason s).events = s.events := by
  cases reason <;> rfl

end Session

/-- What there is to do: to follow a reaction, or to tell listeners of the rules. -/
inductive Task (World : Type) : HistoryLevel → Type where
  | react (reaction : Reaction World) : Task World .commits
  | tell (rules : List Rule) (listeners : List Listener) : Task World .calls

/-- Doing a task leads from one session to another, with a history and the reason of a failure. -/
inductive Runs {World : Type} (audience : Audience World) :
    {level : HistoryLevel} → Task World level → Session World → History level →
      Session World → Option (Option Text) → Prop where
  | done {s : Session World} : Runs audience (.react .done) s .nothing s none
  | fail {s : Session World} {reason : Option Text} :
      Runs audience (.react (.fail reason)) s .nothing s (some reason)
  | put {s s' : Session World} {world : World} {next : Reaction World} {history reason} :
      Runs audience (.react next) { s with world := world } history s' reason →
      Runs audience (.react (.put world next)) s history s' reason
  | listen {s s' : Session World} {listener : Listener} {next : Reaction World} {history reason} :
      Runs audience (.react next) { s with registry := s.registry.listen listener } history s'
        reason →
      Runs audience (.react (.listen listener next)) s history s' reason
  | unlisten {s s' : Session World} {listener : Listener} {next : Reaction World}
      {history reason} :
      Runs audience (.react next) { s with registry := s.registry.unlisten listener } history s'
        reason →
      Runs audience (.react (.unlisten listener next)) s history s' reason
  | rejected {s : Session World} {operation : Operation} {next e} :
      Registry.apply operation s.registry.rules = .error e →
      Runs audience (.react (.change operation next)) s .nothing s (some (some e.message))
  | ignored {s s' : Session World} {operation : Operation} {next history reason} :
      Registry.apply operation s.registry.rules = .ok none →
      Runs audience (.react (next s.registry s.world)) s history s' reason →
      Runs audience (.react (.change operation next)) s history s' reason
  | commit {s mid s' : Session World} {operation : Operation} {rules : List Rule}
      {next calls rest reason} :
      Registry.apply operation s.registry.rules = .ok (some rules) →
      Runs audience (.tell rules s.registry.listeners) (s.committing rules) calls mid none →
      Runs audience (.react (next mid.registry mid.world)) mid rest s' reason →
      Runs audience (.react (.change operation next)) s (.commit rules calls rest) s' reason
  | nobody {s : Session World} {rules : List Rule} :
      Runs audience (.tell rules []) s .nothing s none
  | call {s mid s' : Session World} {rules : List Rule} {listener : Listener}
      {listeners : List Listener} {commits rest reason} :
      Runs audience (.react (audience.hear listener rules s.registry s.world))
        (s.calling listener rules) commits mid reason →
      Runs audience (.tell rules listeners) (mid.returned audience listener reason) rest s' none →
      Runs audience (.tell rules (listener :: listeners)) s (.call listener commits rest) s' none

/-- Carrying out one operation, from the first commit to the end of the last call. -/
inductive Performs {World : Type} (audience : Audience World) (operation : Operation)
    (s : Session World) : History .commits → Except RuleError Unit × Session World → Prop where
  | rejected {e : RuleError} :
      Registry.apply operation s.registry.rules = .error e →
      Performs audience operation s .nothing (.error e, s)
  | ignored :
      Registry.apply operation s.registry.rules = .ok none →
      Performs audience operation s .nothing (.ok (), s)
  | commit {rules : List Rule} {calls : History .calls} {s' : Session World} :
      Registry.apply operation s.registry.rules = .ok (some rules) →
      Runs audience (.tell rules s.registry.listeners) (s.committing rules) calls s' none →
      Performs audience operation s (.commit rules calls .nothing) (.ok (), s')

/-! ## What is carried out has a history -/

namespace Session

variable {World : Type} {audience : Audience World}
  {change : Operation → Session World → Option (Except RuleError Unit × Session World)}

theorem runs_of_follow
    (hchange : ∀ operation s result, change operation s = some result →
      ∃ history, Performs audience operation s history result)
    {reaction : Reaction World} {s s' : Session World} {reason : Option (Option Text)}
    (hfollow : follow change reaction s = some (s', reason)) :
    ∃ history, Runs audience (.react reaction) s history s' reason := by
  induction reaction generalizing s with
  | done =>
      simp only [follow, Option.some.injEq, Prod.mk.injEq] at hfollow
      obtain ⟨rfl, rfl⟩ := hfollow
      exact ⟨.nothing, .done⟩
  | fail reason =>
      simp only [follow, Option.some.injEq, Prod.mk.injEq] at hfollow
      obtain ⟨rfl, rfl⟩ := hfollow
      exact ⟨.nothing, .fail⟩
  | put world next ih =>
      obtain ⟨history, hruns⟩ := ih hfollow
      exact ⟨history, .put hruns⟩
  | listen listener next ih =>
      obtain ⟨history, hruns⟩ := ih hfollow
      exact ⟨history, .listen hruns⟩
  | unlisten listener next ih =>
      obtain ⟨history, hruns⟩ := ih hfollow
      exact ⟨history, .unlisten hruns⟩
  | change operation next ih =>
      rw [follow] at hfollow
      cases hresult : change operation s with
      | none => simp [hresult] at hfollow
      | some result =>
          rw [hresult] at hfollow
          obtain ⟨history, hperforms⟩ := hchange operation s result hresult
          cases hperforms with
          | rejected happly =>
              simp only [Option.some.injEq, Prod.mk.injEq] at hfollow
              obtain ⟨rfl, rfl⟩ := hfollow
              exact ⟨.nothing, .rejected happly⟩
          | ignored happly =>
              obtain ⟨history, hruns⟩ := ih _ _ hfollow
              exact ⟨history, .ignored happly hruns⟩
          | commit happly hcalls =>
              obtain ⟨rest, hruns⟩ := ih _ _ hfollow
              exact ⟨_, .commit happly hcalls hruns⟩

theorem runs_of_tellAll
    (hchange : ∀ operation s result, change operation s = some result →
      ∃ history, Performs audience operation s history result)
    {rules : List Rule} {listeners : List Listener} {s s' : Session World}
    (htell : tellAll audience change rules listeners s = some s') :
    ∃ history, Runs audience (.tell rules listeners) s history s' none := by
  induction listeners generalizing s with
  | nil =>
      simp only [tellAll, Option.some.injEq] at htell
      subst htell
      exact ⟨.nothing, .nobody⟩
  | cons listener listeners ih =>
      rw [tellAll, tell] at htell
      cases hfollow : follow change (audience.hear listener rules s.registry s.world)
          (s.calling listener rules) with
      | none =>
          simp only [calling] at hfollow
          simp [hfollow] at htell
      | some ending =>
          obtain ⟨mid, reason⟩ := ending
          obtain ⟨commits, hcommits⟩ := runs_of_follow hchange hfollow
          have hrest : tellAll audience change rules listeners
              (mid.returned audience listener reason) = some s' := by
            simp only [calling] at hfollow
            cases reason <;> simpa [hfollow, returned] using htell
          obtain ⟨rest, hruns⟩ := ih hrest
          exact ⟨_, .call hcommits hruns⟩

theorem performs_of_perform {depth : Nat} {operation : Operation} {s : Session World}
    {result : Except RuleError Unit × Session World}
    (hperform : perform audience depth operation s = some result) :
    ∃ history, Performs audience operation s history result := by
  induction depth generalizing operation s result with
  | zero => simp [perform] at hperform
  | succ depth ih =>
      rw [perform] at hperform
      cases happly : Registry.apply operation s.registry.rules with
      | error e =>
          simp only [happly, Option.some.injEq] at hperform
          subst hperform
          exact ⟨.nothing, .rejected happly⟩
      | ok changed =>
          cases changed with
          | none =>
              simp only [happly, Option.some.injEq] at hperform
              subst hperform
              exact ⟨.nothing, .ignored happly⟩
          | some rules =>
              simp only [happly, Option.map_eq_some_iff] at hperform
              obtain ⟨s', hcommit, rfl⟩ := hperform
              obtain ⟨calls, hcalls⟩ := runs_of_tellAll (fun _ _ _ => ih) hcommit
              exact ⟨_, .commit happly hcalls⟩

end Session

/-! ## What has a history is carried out under some bound -/

def Task.DoneWithin {World : Type} (audience : Audience World) (depth : Nat) :
    {level : HistoryLevel} → Task World level → Session World → Session World →
      Option (Option Text) → Prop
  | _, .react reaction, s, s', reason =>
      Session.follow (Session.perform audience depth) reaction s = some (s', reason)
  | _, .tell rules listeners, s, s', _ =>
      Session.tellAll audience (Session.perform audience depth) rules listeners s = some s'

namespace Runs

variable {World : Type} {audience : Audience World} {level : HistoryLevel}
  {task : Task World level} {s s' : Session World} {history : History level}
  {reason : Option (Option Text)}

theorem perform_of_tellAll {operation : Operation} {rules : List Rule} {depth : Nat}
    (happly : Registry.apply operation s.registry.rules = .ok (some rules))
    (htell : Session.tellAll audience (Session.perform audience depth) rules s.registry.listeners
      (s.committing rules) = some s') :
    Session.perform audience (depth + 1) operation s = some (.ok (), s') := by
  rw [Session.perform]
  simp only [happly]
  exact Option.map_eq_some_iff.mpr ⟨s', htell, rfl⟩

theorem exists_depth (hruns : Runs audience task s history s' reason) :
    ∃ depth, ∀ more, depth ≤ more → task.DoneWithin audience more s s' reason := by
  induction hruns with
  | done => exact ⟨0, fun _ _ => rfl⟩
  | fail => exact ⟨0, fun _ _ => rfl⟩
  | put _ ih => exact ih
  | listen _ ih => exact ih
  | unlisten _ ih => exact ih
  | @rejected s operation next e happly =>
      refine ⟨1, ?_⟩
      intro more hmore
      obtain ⟨more, rfl⟩ : ∃ k, more = k + 1 := ⟨more - 1, by omega⟩
      simp [Task.DoneWithin, Session.follow, Session.perform, happly]
  | @ignored s s' operation next history reason happly _ ih =>
      obtain ⟨depth, hdone⟩ := ih
      refine ⟨depth + 1, ?_⟩
      intro more hmore
      have hnext := hdone more (by omega)
      obtain ⟨more, rfl⟩ : ∃ k, more = k + 1 := ⟨more - 1, by omega⟩
      have hperform : Session.perform audience (more + 1) operation s = some (.ok (), s) := by
        simp [Session.perform, happly]
      simpa [Task.DoneWithin, Session.follow, hperform] using hnext
  | @commit s mid s' operation rules next calls rest reason happly _ _ ihCalls ihRest =>
      obtain ⟨callDepth, hcalls⟩ := ihCalls
      obtain ⟨restDepth, hrest⟩ := ihRest
      refine ⟨max (callDepth + 1) restDepth, ?_⟩
      intro more hmore
      have hnext := hrest more (by omega)
      obtain ⟨more, rfl⟩ : ∃ k, more = k + 1 := ⟨more - 1, by omega⟩
      have hperform : Session.perform audience (more + 1) operation s = some (.ok (), mid) :=
        perform_of_tellAll happly (hcalls more (by omega))
      simpa [Task.DoneWithin, Session.follow, hperform] using hnext
  | nobody => exact ⟨0, fun _ _ => rfl⟩
  | @call s mid s' rules listener listeners commits rest reason _ _ ihCall ihRest =>
      obtain ⟨callDepth, hcall⟩ := ihCall
      obtain ⟨restDepth, hrest⟩ := ihRest
      refine ⟨max callDepth restDepth, ?_⟩
      intro more hmore
      have hfollow := hcall more (by omega)
      have hnext := hrest more (by omega)
      simp only [Task.DoneWithin, Session.calling] at hfollow hnext
      simp only [Task.DoneWithin, Session.tellAll, Session.tell, hfollow]
      cases reason <;> simpa [Session.returned] using hnext

end Runs

/-- A change comes to an end under some bound exactly if it has a history. -/
theorem Session.exists_perform_iff {World : Type} {audience : Audience World}
    {operation : Operation} {s : Session World}
    {result : Except RuleError Unit × Session World} :
    (∃ depth, Session.perform audience depth operation s = some result) ↔
      ∃ history, Performs audience operation s history result := by
  constructor
  · rintro ⟨depth, hperform⟩
    exact performs_of_perform hperform
  · rintro ⟨history, hperforms⟩
    cases hperforms with
    | rejected happly => exact ⟨1, by simp [Session.perform, happly]⟩
    | ignored happly => exact ⟨1, by simp [Session.perform, happly]⟩
    | commit happly hcalls =>
        obtain ⟨depth, hdone⟩ := hcalls.exists_depth
        exact ⟨depth + 1, Runs.perform_of_tellAll happly (hdone depth (Nat.le_refl depth))⟩

/-! ## What every history tells -/

def Task.listeners {World : Type} : {level : HistoryLevel} → Task World level → List Listener
  | _, .react _ => []
  | _, .tell _ listeners => listeners

def Task.rules {World : Type} : {level : HistoryLevel} → Task World level → List Rule
  | _, .react _ => []
  | _, .tell rules _ => rules

namespace History

/-- The rules that are there after a history: those committed last. -/
def rulesAfter {level : HistoryLevel} (history : History level) (rules : List Rule) : List Rule :=
  history.snapshots.getLastD rules

@[simp] theorem rulesAfter_nothing {level : HistoryLevel} (rules : List Rule) :
    (nothing : History level).rulesAfter rules = rules := rfl

@[simp] theorem rulesAfter_commit (committed rules : List Rule) (calls : History .calls)
    (rest : History .commits) :
    (commit committed calls rest).rulesAfter rules =
      rest.rulesAfter (calls.rulesAfter committed) := by
  simp only [rulesAfter, snapshots, List.getLastD_eq_getLast?]
  rw [List.getLast?_cons, List.getLast?_append]
  cases rest.snapshots.getLast? <;> simp

@[simp] theorem rulesAfter_call (listener : Listener) (commits : History .commits)
    (rest : History .calls) (rules : List Rule) :
    (call listener commits rest).rulesAfter rules =
      rest.rulesAfter (commits.rulesAfter rules) := by
  simp only [rulesAfter, snapshots, List.getLastD_eq_getLast?]
  rw [List.getLast?_append]
  cases rest.snapshots.getLast? <;> simp

end History

namespace Runs

variable {World : Type} {audience : Audience World} {level : HistoryLevel}
  {task : Task World level} {s s' : Session World} {history : History level}
  {reason : Option (Option Text)}

theorem told_eq (hruns : Runs audience task s history s' reason) :
    history.told = task.listeners := by
  induction hruns with
  | put _ ih => exact ih
  | listen _ ih => exact ih
  | unlisten _ ih => exact ih
  | ignored _ _ ih => exact ih
  | call _ _ _ ih => simpa [History.told, Task.listeners] using ih
  | _ => rfl

/-- The session keeps a record of the history, the latest first. -/
theorem events_eq (hruns : Runs audience task s history s' reason) :
    s'.events = (history.events task.rules).reverse ++ s.events := by
  induction hruns with
  | done => rfl
  | fail => rfl
  | put _ ih => exact ih
  | listen _ ih => exact ih
  | unlisten _ ih => exact ih
  | rejected => rfl
  | ignored _ _ ih => exact ih
  | commit _ _ _ ihCalls ihRest =>
      rw [ihRest, ihCalls]
      simp [History.events, Task.rules, Session.committing]
  | nobody => rfl
  | call _ _ ihCall ihRest =>
      rw [ihRest, Session.returned_events, ihCall]
      simp [History.events, Task.rules, Session.calling]

theorem registry_rules_eq (hruns : Runs audience task s history s' reason) :
    s'.registry.rules = history.rulesAfter s.registry.rules := by
  induction hruns with
  | done => rfl
  | fail => rfl
  | put _ ih => exact ih
  | listen _ ih => exact ih
  | unlisten _ ih => exact ih
  | rejected => rfl
  | ignored _ _ ih => exact ih
  | commit _ _ _ ihCalls ihRest =>
      rw [ihRest, ihCalls, History.rulesAfter_commit]
      rfl
  | nobody => rfl
  | call _ _ ihCall ihRest =>
      rw [ihRest, Session.returned_registry, ihCall, History.rulesAfter_call]
      rfl

end Runs

namespace Performs

variable {World : Type} {audience : Audience World} {operation : Operation} {s : Session World}
  {history : History .commits} {result : Except RuleError Unit × Session World}

theorem events_eq (hperforms : Performs audience operation s history result) :
    result.2.events = (history.events []).reverse ++ s.events := by
  cases hperforms with
  | rejected => rfl
  | ignored => rfl
  | commit _ hcalls =>
      rw [hcalls.events_eq]
      simp [History.events, Task.rules, Session.committing]

theorem registry_rules_eq (hperforms : Performs audience operation s history result) :
    result.2.registry.rules = history.rulesAfter s.registry.rules := by
  cases hperforms with
  | rejected => rfl
  | ignored => rfl
  | commit _ hcalls =>
      rw [hcalls.registry_rules_eq, History.rulesAfter_commit]
      rfl

end Performs

end HeaderAudit
