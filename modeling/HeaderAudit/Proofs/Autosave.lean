import HeaderAudit.Proofs.OtherListeners

/-!
# Autosave

A store is attached to a registry, taken off and attached again, while rules come and go and other
listeners hear of it.  Two things hold at every step: the store is registered once exactly when it
is attached, and the file can be written.  A commit is told to the listeners in front of the store,
then to the store, then to those behind it.  If nobody in front writes back, the store hears the
rules that the registry holds, and whatever is committed by those behind it is saved in its turn.
-/

namespace HeaderAudit
namespace Autosave

variable {env : Environment} {path : Path}
  {others : Text → List Rule → Registry → World → Reaction World}

/-! ## The store in the list of listeners -/

/-- Nobody who is registered in front of the store writes back. -/
def WritersBehind (others : Text → List Rule → Registry → World → Reaction World)
    (listeners : List Listener) : Prop :=
  ∀ front behind, listeners = front ++ .store :: behind → ∀ name, .named name ∈ front →
    ∀ rules registry world, (others name rules registry world).Silent

/-- The store is registered once and nobody in front of it writes back. -/
def Leads (others : Text → List Rule → Registry → World → Reaction World)
    (listeners : List Listener) : Prop :=
  ∃ front behind, listeners = front ++ .store :: behind ∧ .store ∉ behind ∧
    ∀ listener ∈ front, ∃ name, listener = .named name ∧
      ∀ rules registry world, (others name rules registry world).Silent

theorem leads_of_count {listeners : List Listener} (hcount : listeners.count .store = 1)
    (hwriters : WritersBehind others listeners) : Leads others listeners := by
  have hmem : .store ∈ listeners := List.count_pos_iff.mp (by omega)
  obtain ⟨front, behind, rfl⟩ := List.append_of_mem hmem
  rw [List.count_append, List.count_cons_self] at hcount
  have hfront : .store ∉ front := List.count_eq_zero.mp (by omega)
  have hbehind : .store ∉ behind := List.count_eq_zero.mp (by omega)
  refine ⟨front, behind, rfl, hbehind, ?_⟩
  intro listener hlistener
  cases listener with
  | store => contradiction
  | named name => exact ⟨name, rfl, hwriters front behind rfl name hlistener⟩

theorem Leads.store_mem {listeners : List Listener} (hleads : Leads others listeners) :
    .store ∈ listeners := by
  obtain ⟨front, behind, rfl, -, -⟩ := hleads
  simp

theorem Leads.listen {listeners : List Listener} (hleads : Leads others listeners) (name : Text) :
    Leads others (listeners ++ [.named name]) := by
  obtain ⟨front, behind, rfl, hbehind, hfront⟩ := hleads
  refine ⟨front, behind ++ [.named name], by simp, ?_, hfront⟩
  simp [hbehind]

theorem Leads.unlisten {listeners : List Listener} (hleads : Leads others listeners) (name : Text) :
    Leads others (listeners.erase (.named name)) := by
  obtain ⟨front, behind, rfl, hbehind, hfront⟩ := hleads
  rw [List.erase_append]
  by_cases hmem : .named name ∈ front
  · rw [if_pos hmem]
    refine ⟨front.erase (.named name), behind, rfl, hbehind, ?_⟩
    intro listener hlistener
    exact hfront listener (List.mem_of_mem_erase hlistener)
  · rw [if_neg hmem, List.erase_cons_tail (by simp)]
    refine ⟨front, behind.erase (.named name), rfl, ?_, hfront⟩
    intro hstore
    exact hbehind (List.mem_of_mem_erase hstore)

/-! ## What is kept -/

/-- The store is registered that often, the rules can be stored, and the file can be written. -/
structure Steady (env : Environment) (path : Path) (count : Nat) (s : Session World) : Prop where
  count_eq : s.registry.listeners.count .store = count
  storable : ∀ rule ∈ s.registry.rules, rule.Storable
  writable : RuleFile.Writable env path s.world.disk

theorem kept_steady (count : Nat) : Kept env path True (Steady env path count) where
  record := fun s events hs => ⟨hs.count_eq, hs.storable, hs.writable⟩
  leavingDisk := by
    intro s world hdisk hs
    refine ⟨hs.count_eq, hs.storable, ?_⟩
    rw [hdisk]
    exact hs.writable
  listening := by
    intro s name hs
    refine ⟨?_, hs.storable, hs.writable⟩
    simpa [Registry.listen, List.count_append] using hs.count_eq
  unlistening := by
    intro s name hs
    refine ⟨?_, hs.storable, hs.writable⟩
    rw [Registry.unlisten, List.count_erase_of_ne (by simp)]
    exact hs.count_eq
  committing := by
    intro s operation rules hoperation happly hs
    exact ⟨hs.count_eq, Registry.apply_storable hoperation hs.storable happly, hs.writable⟩
  saving := by
    intro _ s rules world hdisk hs
    refine ⟨hs.count_eq, hs.storable, ?_⟩
    rw [hdisk]
    exact hs.writable.save rules
  toldBy := fun _ _ _ => trivial

theorem kept_disk (disk : Disk) :
    Kept env path False fun s => .store ∉ s.registry.listeners ∧ s.world.disk = disk where
  record := fun s events hs => hs
  leavingDisk := fun s world hdisk hs => ⟨hs.1, hdisk.trans hs.2⟩
  listening := by
    intro s name hs
    refine ⟨?_, hs.2⟩
    simpa [Registry.listen] using hs.1
  unlistening := by
    intro s name hs
    exact ⟨fun hmem => hs.1 (List.mem_of_mem_erase hmem), hs.2⟩
  committing := fun s operation rules hoperation happly hs => hs
  saving := fun htold => htold.elim
  toldBy := fun s hs hmem => hs.1 hmem

/-- The store leads, and the file can be written. -/
structure Leading (env : Environment) (path : Path)
    (others : Text → List Rule → Registry → World → Reaction World) (s : Session World) : Prop where
  leads : Leads others s.registry.listeners
  writable : RuleFile.Writable env path s.world.disk

theorem kept_leading : Kept env path True (Leading env path others) where
  record := fun s events hs => ⟨hs.leads, hs.writable⟩
  leavingDisk := by
    intro s world hdisk hs
    refine ⟨hs.leads, ?_⟩
    rw [hdisk]
    exact hs.writable
  listening := fun s name hs => ⟨hs.leads.listen name, hs.writable⟩
  unlistening := fun s name hs => ⟨hs.leads.unlisten name, hs.writable⟩
  committing := fun s operation rules hoperation happly hs => ⟨hs.leads, hs.writable⟩
  saving := by
    intro _ s rules world hdisk hs
    refine ⟨hs.leads, ?_⟩
    rw [hdisk]
    exact hs.writable.save rules
  toldBy := fun _ _ _ => trivial

/-! ## What is saved -/

/-- The file holds the rules of the registry. -/
def Saved (env : Environment) (path : Path) (s : Session World) : Prop :=
  RuleFile.Contains env path s.registry.rules s.world.disk

theorem Saved.of_disk_eq {s : Session World} {world : World} (hsaved : Saved env path s)
    (hdisk : world.disk = s.world.disk) : Saved env path { s with world := world } := by
  rw [Saved, hdisk]
  exact hsaved

/-- Where a task starts, so that the rules are saved when it is done: they are saved already, and
the store is not told of others, or it is about to be told of them. -/
def Ready (env : Environment) (path : Path)
    (others : Text → List Rule → Registry → World → Reaction World) (s : Session World) :
    {level : HistoryLevel} → Task World level → Prop
  | _, .react reaction => reaction.Considerate s.world.disk ∧ Saved env path s
  | _, .tell rules listeners =>
      (Saved env path s ∧ .store ∉ listeners) ∨
        (Leads others listeners ∧ rules = s.registry.rules)

theorem Ready.next {s mid : Session World} {rules : List Rule} {listener : Listener}
    {listeners : List Listener} {commits reason} (hothers : Considerate others)
    (hleading : Leading env path others s)
    (hready : Ready env path others s (.tell rules (listener :: listeners)))
    (hcall : Runs (Store.audienceWith env path others)
      (.react ((Store.audienceWith env path others).hear listener rules s.registry s.world))
      (s.calling listener rules) commits mid reason)
    (hsaved : Ready env path others (s.calling listener rules)
        (.react ((Store.audienceWith env path others).hear listener rules s.registry s.world)) →
      Saved env path mid) :
    Ready env path others (mid.returned (Store.audienceWith env path others) listener reason)
      (.tell rules listeners) := by
  have hreturned : Saved env path mid →
      Saved env path (mid.returned (Store.audienceWith env path others) listener reason) := by
    intro hmid
    rw [Saved, Session.returned_registry, Session.returned_world_disk]
    exact hmid
  rcases hready with ⟨hs, habsent⟩ | ⟨⟨front, behind, hsplit, hbehind, hfront⟩, hrules⟩
  · simp only [List.mem_cons, not_or] at habsent
    cases listener with
    | store => exact absurd rfl habsent.1
    | named name =>
        exact .inl ⟨hreturned (hsaved ⟨hothers name rules s.registry s.world, hs⟩), habsent.2⟩
  · cases front with
    | nil =>
        obtain ⟨rfl, rfl⟩ := List.cons.inj hsplit
        obtain ⟨-, hregistry, -, hdisk⟩ :=
          Runs.hear_cases (s := s.calling .store rules) hcall
        refine .inl ⟨hreturned ?_, hbehind⟩
        rw [Saved, hregistry, hdisk, hrules]
        exact (hleading.writable s.registry.rules).2
    | cons first front =>
        obtain ⟨rfl, rfl⟩ := List.cons.inj hsplit
        obtain ⟨name, rfl, hsilent⟩ := hfront listener List.mem_cons_self
        refine .inr ⟨⟨front, behind, rfl, hbehind, ?_⟩, ?_⟩
        · intro other hother
          exact hfront other (List.mem_cons_of_mem _ hother)
        · rw [Session.returned_registry,
            hcall.registry_rules_eq_of_silent (hsilent rules s.registry s.world)]
          exact hrules

theorem saved_of_runs (hothers : Considerate others) {level : HistoryLevel}
    {task : Task World level} {s s' : Session World} {history reason}
    (hruns : Runs (Store.audienceWith env path others) task s history s' reason)
    (hleading : Leading env path others s) (hready : Ready env path others s task) :
    Saved env path s' := by
  induction hruns with
  | done => exact hready.2
  | fail => exact hready.2
  | @put s s' world next history reason _ ih =>
      obtain ⟨⟨hdisk, hnext⟩, hs⟩ := hready
      refine ih (kept_leading.leavingDisk s world hdisk hleading) ⟨?_, hs.of_disk_eq hdisk⟩
      rw [hdisk]
      exact hnext
  | @listen s s' listener next history reason _ ih =>
      obtain ⟨⟨hlistener, hnext⟩, hs⟩ := hready
      cases listener with
      | store => contradiction
      | named name => exact ih (kept_leading.listening s name hleading) ⟨hnext, hs⟩
  | @unlisten s s' listener next history reason _ ih =>
      obtain ⟨⟨hlistener, hnext⟩, hs⟩ := hready
      cases listener with
      | store => contradiction
      | named name => exact ih (kept_leading.unlistening s name hleading) ⟨hnext, hs⟩
  | rejected => exact hready.2
  | @ignored s s' operation next history reason _ _ ih =>
      exact ih hleading ⟨hready.1.2 s.registry s.world, hready.2⟩
  | @commit s mid s' operation rules next calls rest reason _ hcalls _ ihCalls ihRest =>
      obtain ⟨⟨_, hnext⟩, -⟩ := hready
      have hcommitted : Leading env path others (s.committing rules) :=
        ⟨hleading.leads, hleading.writable⟩
      have hmid := ihCalls hcommitted (.inr ⟨hleading.leads, rfl⟩)
      have hmidLeading := kept_leading.runs hothers hcalls trivial (fun _ => trivial) hcommitted
      exact ihRest hmidLeading ⟨hnext mid.registry mid.world, hmid⟩
  | nobody =>
      rcases hready with ⟨hs, -⟩ | ⟨hleads, -⟩
      · exact hs
      · simpa using hleads.store_mem
  | @call s mid s' rules listener listeners commits rest reason hcall hrest ihCall ihRest =>
      have hcalling : Leading env path others (s.calling listener rules) :=
        ⟨hleading.leads, hleading.writable⟩
      have hnext := hready.next hothers hleading hcall (ihCall hcalling)
      have hreturned : Leading env path others
          (mid.returned (Store.audienceWith env path others) listener reason) :=
        kept_leading.runs hothers (.call hcall .nobody) trivial (fun _ => trivial) hleading
      exact ihRest hreturned hnext

def Commits (s s' : Session World) : Prop :=
  ∃ rules since, s'.events = since ++ .committed rules :: s.events

theorem not_commits_of_events_eq {s s' : Session World} (hevents : s'.events = s.events) :
    ¬ Commits s s' := by
  rintro ⟨rules, since, hcommits⟩
  have hlength := congrArg List.length hcommits
  simp only [hevents, List.length_append, List.length_cons] at hlength
  omega

theorem saved_of_performs (hothers : Considerate others) {operation : Operation}
    {s : Session World} {history result}
    (hperforms : Performs (Store.audienceWith env path others) operation s history result)
    (hleading : Leading env path others s) (hcommits : Commits s result.2) :
    Saved env path result.2 := by
  cases hperforms with
  | rejected => exact absurd hcommits (not_commits_of_events_eq rfl)
  | ignored => exact absurd hcommits (not_commits_of_events_eq rfl)
  | commit _ hcalls =>
      exact saved_of_runs hothers hcalls ⟨hleading.leads, hleading.writable⟩
        (.inr ⟨hleading.leads, rfl⟩)

/-! ## Steps from outside -/

structure State where
  store : Store
  session : Session World

inductive Step where
  | operate (operation : Operation)
  | load
  | attach
  | detach
  | listen (name : Text)
  | unlisten (name : Text)

def Step.Storable : Step → Prop
  | operate operation => operation.Storable
  | _ => True

/-- Taking a step; changes within changes come to an end. -/
inductive Takes (env : Environment)
    (others : Text → List Rule → Registry → World → Reaction World) :
    Step → State → State → Prop where
  | operate {store : Store} {s s' : Session World} {depth : Nat} {operation : Operation} {result} :
      Session.perform (Store.audienceWith env store.path others) depth operation s =
        some (result, s') →
      Takes env others (.operate operation) ⟨store, s⟩ ⟨store, s'⟩
  | load {store store' : Store} {s s' : Session World} {depth : Nat} {result} :
      store.load env (Store.audienceWith env store.path others) depth s =
        some (result, store', s') →
      Takes env others .load ⟨store, s⟩ ⟨store', s'⟩
  | attach {store : Store} {s : Session World} :
      Takes env others .attach ⟨store, s⟩ ⟨(store.attach s).1, (store.attach s).2⟩
  | detach {store : Store} {s : Session World} :
      Takes env others .detach ⟨store, s⟩ ⟨(store.detach s).1, (store.detach s).2⟩
  | listen {store : Store} {s : Session World} {name : Text} :
      Takes env others (.listen name) ⟨store, s⟩
        ⟨store, { s with registry := s.registry.listen (.named name) }⟩
  | unlisten {store : Store} {s : Session World} {name : Text} :
      Takes env others (.unlisten name) ⟨store, s⟩
        ⟨store, { s with registry := s.registry.unlisten (.named name) }⟩

inductive Reaches (env : Environment)
    (others : Text → List Rule → Registry → World → Reaction World) (start : State) :
    State → Prop where
  | start : Reaches env others start start
  | step {state next : State} {step : Step} :
      Reaches env others start state → step.Storable → Takes env others step state next →
      Reaches env others start next

/-- The store is registered once if it is attached, and else not at all. -/
def registrations (store : Store) : Nat := if store.attached then 1 else 0

/-- The state that every step keeps. -/
def Coherent (env : Environment) (state : State) : Prop :=
  Steady env state.store.path (registrations state.store) state.session

/-- A detached store at a file that can be written and read. -/
structure Fresh (env : Environment) (state : State) : Prop where
  detached : state.store.attached = false
  unregistered : .store ∉ state.session.registry.listeners
  storable : ∀ rule ∈ state.session.registry.rules, rule.Storable
  writable : RuleFile.Writable env state.store.path state.session.world.disk

theorem Fresh.coherent {state : State} (hfresh : Fresh env state) : Coherent env state where
  count_eq := by
    rw [registrations, hfresh.detached, List.count_eq_zero.mpr hfresh.unregistered]
    rfl
  storable := hfresh.storable
  writable := hfresh.writable

/-- What a load is made of: the file is read, the registry is filled, and the store is attached. -/
theorem load_cases {store store' : Store} {s s' : Session World} {depth : Nat} {result}
    (hload : store.load env (Store.audienceWith env store.path others) depth s =
      some (result, store', s')) :
    (store' = store ∧ s' = { s with world := (RuleFile.load env store.path s.world).1 }) ∨
      ∃ rules filled, (RuleFile.load env store.path s.world).2 = .ok rules ∧
        (∃ history, Performs (Store.audienceWith env store.path others) (.replaceAll rules)
          { s with world := (RuleFile.load env store.path s.world).1 } history filled) ∧
        (store', s') = store.attach filled.2 := by
  rw [Store.load] at hload
  split at hload
  · rename_i w e hread
    simp only [Option.some.injEq, Prod.mk.injEq] at hload
    obtain ⟨-, rfl, rfl⟩ := hload
    exact .inl ⟨rfl, by rw [hread]⟩
  · rename_i w rules hread
    rw [hread]
    cases hperform : Session.perform (Store.audienceWith env store.path others) depth
        (.replaceAll rules) { s with world := w } with
    | none => simp [hperform] at hload
    | some filled =>
        simp only [hperform, Option.bind_eq_bind, Option.bind_some, Option.some.injEq,
          Prod.mk.injEq] at hload
        exact .inr ⟨rules, filled, rfl, Session.performs_of_perform hperform, hload.2.symm⟩

theorem Coherent.attach {store : Store} {s : Session World}
    (hcoherent : Coherent env ⟨store, s⟩) :
    Coherent env ⟨(store.attach s).1, (store.attach s).2⟩ := by
  rw [Store.attach]
  by_cases hattached : store.attached
  · rw [if_pos hattached]
    exact hcoherent
  · rw [if_neg hattached]
    refine ⟨?_, hcoherent.storable, hcoherent.writable⟩
    have hcount := hcoherent.count_eq
    simp only [registrations, if_neg hattached] at hcount
    simp [registrations, Registry.listen, List.count_append, hcount]

theorem Coherent.detach {store : Store} {s : Session World}
    (hcoherent : Coherent env ⟨store, s⟩) :
    Coherent env ⟨(store.detach s).1, (store.detach s).2⟩ := by
  rw [Store.detach]
  by_cases hattached : store.attached
  · rw [if_pos hattached]
    refine ⟨?_, hcoherent.storable, hcoherent.writable⟩
    have hcount := hcoherent.count_eq
    simp only [registrations, if_pos hattached] at hcount
    simp [registrations, Registry.unlisten, List.count_erase_self, hcount]
  · rw [if_neg hattached]
    exact hcoherent

theorem Coherent.takes (hids : ∀ n, env.idOf n ≠ []) (hothers : Considerate others)
    {step : Step} {state next : State} (hstorable : step.Storable)
    (htakes : Takes env others step state next) (hcoherent : Coherent env state) :
    Coherent env next := by
  cases htakes with
  | operate hperform =>
      obtain ⟨history, hperforms⟩ := Session.performs_of_perform hperform
      exact (kept_steady _).performs hothers hstorable hperforms hcoherent
  | @load store store' s s' depth result hload =>
      obtain ⟨hdisk, hrules⟩ := RuleFile.load_spec hids store.path s.world
      have hread := (kept_steady _).leavingDisk s _ hdisk hcoherent
      rcases load_cases hload with ⟨rfl, rfl⟩ | ⟨rules, filled, hok, ⟨history, hperforms⟩, heq⟩
      · exact hread
      · have hreplace : (Operation.replaceAll rules).Storable := hrules rules hok
        have hfilled : Coherent env ⟨store, filled.2⟩ :=
          (kept_steady _).performs hothers hreplace hperforms hread
        obtain ⟨rfl, rfl⟩ := Prod.mk.inj heq
        exact hfilled.attach
  | attach => exact hcoherent.attach
  | detach => exact hcoherent.detach
  | listen => exact (kept_steady _).listening _ _ hcoherent
  | unlisten => exact (kept_steady _).unlistening _ _ hcoherent

theorem Reaches.coherent (hids : ∀ n, env.idOf n ≠ []) (hothers : Considerate others)
    {start state : State} (hfresh : Fresh env start) (hreaches : Reaches env others start state) :
    Coherent env state := by
  induction hreaches with
  | start => exact hfresh.coherent
  | step _ hstorable htakes ih => exact ih.takes hids hothers hstorable htakes

/-- A step that commits while the store is attached leaves the rules in the file. -/
theorem Coherent.saved_of_takes (hids : ∀ n, env.idOf n ≠ []) (hothers : Considerate others)
    {step : Step} {state next : State} (htakes : Takes env others step state next)
    (hcoherent : Coherent env state) (hattached : state.store.attached)
    (hwriters : WritersBehind others state.session.registry.listeners)
    (hcommits : Commits state.session next.session) :
    Saved env state.store.path next.session := by
  have hcount := hcoherent.count_eq
  rw [registrations, if_pos hattached] at hcount
  have hleading : Leading env state.store.path others state.session :=
    ⟨leads_of_count hcount hwriters, hcoherent.writable⟩
  cases htakes with
  | @operate store s s' depth operation result hperform =>
      obtain ⟨history, hperforms⟩ := Session.performs_of_perform hperform
      have hsaved := saved_of_performs hothers hperforms hleading hcommits
      exact hsaved
  | @load store store' s s' depth result hload =>
      have hread := kept_leading.leavingDisk s _
        (RuleFile.load_spec hids store.path s.world).1 hleading
      rcases load_cases hload with ⟨rfl, rfl⟩ | ⟨rules, filled, hok, ⟨history, hperforms⟩, heq⟩
      · exact absurd hcommits (not_commits_of_events_eq rfl)
      · have hattach : store.attach filled.2 = (store, filled.2) := by
          rw [Store.attach, if_pos hattached]
        rw [hattach] at heq
        obtain ⟨rfl, rfl⟩ := Prod.mk.inj heq
        have hsaved := saved_of_performs hothers hperforms hread hcommits
        exact hsaved
  | attach =>
      rw [Store.attach, if_pos hattached] at hcommits
      exact absurd hcommits (not_commits_of_events_eq rfl)
  | detach =>
      rw [Store.detach, if_pos hattached] at hcommits
      exact absurd hcommits (not_commits_of_events_eq rfl)
  | listen => exact absurd hcommits (not_commits_of_events_eq rfl)
  | unlisten => exact absurd hcommits (not_commits_of_events_eq rfl)

/-- While the store is detached, no step changes the disk. -/
theorem Coherent.disk_eq_of_takes (hids : ∀ n, env.idOf n ≠ []) (hothers : Considerate others)
    {step : Step} {state next : State} (hstorable : step.Storable)
    (htakes : Takes env others step state next) (hcoherent : Coherent env state)
    (hdetached : state.store.attached = false) :
    next.session.world.disk = state.session.world.disk := by
  have habsent : .store ∉ state.session.registry.listeners := by
    have hcount := hcoherent.count_eq
    rw [registrations, hdetached] at hcount
    exact List.count_eq_zero.mp hcount
  cases htakes with
  | @operate store s s' depth operation result hperform =>
      obtain ⟨history, hperforms⟩ := Session.performs_of_perform hperform
      exact ((kept_disk s.world.disk).performs hothers hstorable hperforms ⟨habsent, rfl⟩).2
  | @load store store' s s' depth result hload =>
      obtain ⟨hdisk, hrules⟩ := RuleFile.load_spec hids store.path s.world
      rcases load_cases hload with ⟨rfl, rfl⟩ | ⟨rules, filled, hok, ⟨history, hperforms⟩, heq⟩
      · exact hdisk
      · have hreplace : (Operation.replaceAll rules).Storable := hrules rules hok
        have hfilled := ((kept_disk s.world.disk).performs hothers hreplace hperforms
          ⟨habsent, hdisk⟩).2
        rw [Store.attach, hdetached] at heq
        obtain ⟨rfl, rfl⟩ := Prod.mk.inj heq
        exact hfilled
  | attach => rw [Store.attach, hdetached]; rfl
  | detach => rw [Store.detach, hdetached]; rfl
  | listen => rfl
  | unlisten => rfl

/-- Autosave is coherent over whole runs.  In every state that steps lead to, the store is
registered once if it is attached and else not at all.  A step that commits while the store is
attached leaves a file from which the rules of the registry are read back, in their order and with
nothing noted, as long as those who write back are registered behind the store; and no step changes
the disk while the store is detached. -/
theorem autosave_coherent {start state : State} (hids : ∀ n, env.idOf n ≠ [])
    (hothers : Considerate others) (hfresh : Fresh env start)
    (hreaches : Reaches env others start state) :
    state.session.registry.listeners.count .store = (if state.store.attached then 1 else 0) ∧
    ∀ step next, step.Storable → Takes env others step state next →
      (state.store.attached → WritersBehind others state.session.registry.listeners →
        Commits state.session next.session → RuleFile.ReadsBack next.session.registry.rules →
        RuleFile.load env state.store.path next.session.world =
          (next.session.world, .ok next.session.registry.rules)) ∧
      (state.store.attached = false →
        next.session.world.disk = state.session.world.disk) := by
  have hcoherent := hreaches.coherent hids hothers hfresh
  refine ⟨hcoherent.count_eq, ?_⟩
  intro step next hstorable htakes
  refine ⟨?_, hcoherent.disk_eq_of_takes hids hothers hstorable htakes⟩
  intro hattached hwriters hcommits hreads
  have hsaved := hcoherent.saved_of_takes hids hothers htakes hattached hwriters hcommits
  have hnext := hcoherent.takes hids hothers hstorable htakes
  exact RuleFile.load_of_contains hsaved hreads hnext.storable

/-! ## A listener behind the store that writes back and fails -/

namespace Echo

def home : Environment := ⟨⟨['/'], []⟩, ⟨['/'], []⟩, none, fun n => 'i' :: Text.ofNat n⟩

def firstRule : Rule := ⟨.host, ['a'], ['a']⟩

def secondRule : Rule := ⟨.path, ['b'], ['b']⟩

/-- Whoever hears of fewer than two rules adds one and then fails. -/
def echo (_ : Text) (rules : List Rule) (_ : Registry) (_ : World) : Reaction World :=
  if rules.length < 2 then .change (.add secondRule) fun _ _ => .fail none else .done

def start : State :=
  ⟨⟨⟨[], [['r']]⟩, false⟩, ⟨Registry.empty, ⟨Disk.withStart [], [], 0⟩, []⟩⟩

/-- The store has been attached, and then a listener has been registered. -/
def listening : State :=
  ⟨⟨⟨[], [['r']]⟩, true⟩, ⟨⟨[], [.store, .named ['w']]⟩, ⟨Disk.withStart [], [], 0⟩, []⟩⟩

def outcome : Option (Except RuleError Unit × Session World) :=
  Session.perform (Store.audienceWith home listening.store.path echo) 2 (.add firstRule)
    listening.session

theorem outcome_isSome : outcome.isSome = true := by decide +kernel

def saved : State := ⟨listening.store, (outcome.get outcome_isSome).2⟩

theorem considerate_echo : Considerate echo := by
  intro name rules registry world
  rw [echo]
  by_cases hfew : rules.length < 2
  · rw [if_pos hfew]
    exact ⟨⟨by decide, by decide⟩, fun _ _ => trivial⟩
  · rw [if_neg hfew]
    trivial

theorem writersBehind_listening : WritersBehind echo listening.session.registry.listeners := by
  intro front behind hsplit name hname
  cases front with
  | nil => simp at hname
  | cons first front =>
      obtain ⟨-, hrest⟩ := List.cons.inj hsplit
      have hstore : .store ∈ ([.named ['w']] : List Listener) := by
        rw [hrest]
        simp
      simp at hstore

theorem echo_behind_store_is_saved :
    Reaches home echo start listening ∧
      Takes home echo (.operate (.add firstRule)) listening saved ∧
      saved.session.registry.rules = [firstRule, secondRule] ∧
      RuleFile.load home listening.store.path saved.session.world =
        (saved.session.world, .ok saved.session.registry.rules) := by
  have hids : ∀ n, home.idOf n ≠ [] := fun n => List.cons_ne_nil _ _
  have hwritable : RuleFile.Writable home start.store.path start.session.world.disk :=
    fun _ => ⟨rfl, start.store.path, rfl, Disk.hasContent_iff_read.mpr rfl⟩
  have hfresh : Fresh home start := ⟨rfl, by decide, by simp [start, Registry.empty], hwritable⟩
  have hattach : Step.Storable .attach := trivial
  have hlisten : Step.Storable (.listen ['w']) := trivial
  have hfirst : Step.Storable (.operate (.add firstRule)) := ⟨by decide, by decide⟩
  have hreaches : Reaches home echo start listening :=
    (Reaches.start.step hattach .attach).step hlisten .listen
  have htakes : Takes home echo (.operate (.add firstRule)) listening saved :=
    .operate (Option.some_get outcome_isSome).symm
  have hrules : saved.session.registry.rules = [firstRule, secondRule] := by decide +kernel
  have hcommits : Commits listening.session saved.session :=
    ⟨[firstRule],
      [.called (.named ['w']) [firstRule, secondRule], .called .store [firstRule, secondRule],
        .committed [firstRule, secondRule], .called (.named ['w']) [firstRule],
        .called .store [firstRule]], by decide +kernel⟩
  have hreads : RuleFile.ReadsBack saved.session.registry.rules := by
    rw [hrules]
    decide +kernel
  have hclaim := (autosave_coherent hids considerate_echo hfresh hreaches).2 _ _ hfirst htakes
  exact ⟨hreaches, htakes, hrules, hclaim.1 rfl writersBehind_listening hcommits hreads⟩

end Echo

end Autosave
end HeaderAudit
