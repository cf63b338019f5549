import HeaderAudit.Proofs.Autosave
import HeaderAudit.Proofs.Notification

/-!
# Ids that no rule has

To update a rule that is not there changes nothing and is told to nobody.  To remove one leaves the
rules as they are too, but it is told like any other change: each listener is called, and a store
that is attached writes its file anew.  A removal of this kind goes unnoticed exactly if nobody is
registered.
-/

namespace HeaderAudit

/-! ## Who has been called -/

def Event.call? : Event → Option (Listener × List Rule)
  | .committed _ => none
  | .called listener rules => some (listener, rules)

variable {V : Type} {audience : Audience V} {s s' : Session V} {id : Text} {rules : List Rule}

namespace Session

/-- The calls of the listeners, the latest first. -/
def calls (s : Session V) : List (Listener × List Rule) := s.events.filterMap Event.call?

/-- The rules are what they were, and no listener has been called meanwhile. -/
structure Unnoticed (s s' : Session V) : Prop where
  rules_eq : s'.registry.rules = s.registry.rules
  calls_eq : s'.calls = s.calls

end Session

/-- A commit that is told to somebody does not go unnoticed. -/
theorem Performs.not_unnoticed {operation : Operation} {calls : History .calls}
    {result : Except RuleError Unit × Session V}
    (hperforms : Performs audience operation s (.commit rules calls .nothing) result)
    (htold : calls.told ≠ []) : ¬ s.Unnoticed result.2 := by
  intro hunnoticed
  have hevents := hperforms.events_eq
  cases calls with
  | nothing => exact htold rfl
  | call listener commits rest =>
      -- The record has grown by the first call at least.
      have hcalls := hunnoticed.calls_eq
      rw [Session.calls, hevents, List.filterMap_append, ← Session.calls,
        List.append_left_eq_self, List.filterMap_reverse, List.reverse_eq_nil_iff] at hcalls
      simp [History.events, Event.call?] at hcalls

/-! ## Listeners that do not write back -/

def Audience.Silent (audience : Audience V) : Prop :=
  ∀ listener rules registry world, (audience.hear listener rules registry world).Silent

namespace Session

variable {change : Operation → Session V → Option (Except RuleError Unit × Session V)}

theorem follow_of_silent {reaction : Reaction V} (hsilent : reaction.Silent) (s : Session V) :
    ∃ s' ending, follow change reaction s = some (s', ending) ∧
      s'.registry.rules = s.registry.rules ∧ s'.events = s.events := by
  induction reaction generalizing s with
  | done => exact ⟨s, none, rfl, rfl, rfl⟩
  | fail reason => exact ⟨s, some reason, rfl, rfl, rfl⟩
  | put world next ih => exact ih hsilent { s with world := world }
  | change _ _ => exact hsilent.elim
  | listen listener next ih =>
      exact ih hsilent { s with registry := s.registry.listen listener }
  | unlisten listener next ih =>
      exact ih hsilent { s with registry := s.registry.unlisten listener }

theorem tell_of_silent (hsilent : audience.Silent) (listener : Listener) (s : Session V) :
    ∃ s', tell audience change rules s listener = some s' ∧
      s'.registry.rules = s.registry.rules ∧
      s'.events = .called listener rules :: s.events := by
  obtain ⟨mid, ending, hfollow, hrules, hevents⟩ :=
    @follow_of_silent V change _ (hsilent listener rules s.registry s.world)
      { s with events := .called listener rules :: s.events }
  rw [tell, hfollow]
  cases ending with
  | none => exact ⟨mid, rfl, hrules, hevents⟩
  | some reason => exact ⟨_, rfl, hrules, hevents⟩

/-- Whoever does not write back is called once, and the rules stay what they are. -/
theorem tellAll_of_silent (hsilent : audience.Silent) (listeners : List Listener)
    (s : Session V) :
    ∃ s', tellAll audience change rules listeners s = some s' ∧
      s'.registry.rules = s.registry.rules ∧
      s'.events = (listeners.map (Event.called · rules)).reverse ++ s.events := by
  induction listeners generalizing s with
  | nil => exact ⟨s, rfl, rfl, rfl⟩
  | cons listener rest ih =>
      obtain ⟨mid, htell, hmidRules, hmidEvents⟩ := @tell_of_silent V audience rules change hsilent
        listener s
      obtain ⟨s', hrest, hrules, hevents⟩ := ih mid
      refine ⟨s', ?_, hrules.trans hmidRules, ?_⟩
      · rw [tellAll, htell]
        exact hrest
      · rw [hevents, hmidEvents]
        simp

end Session

/-! ## Removals that find no rule -/

theorem Registry.apply_remove_of_unknown (hunknown : ∀ rule ∈ rules, rule.id ≠ id) :
    Registry.apply (.remove id) rules = .ok (some rules) := by
  have hkept : rules.filter (·.id ≠ id) = rules := by
    rw [List.filter_eq_self]
    simpa using hunknown
  rw [Registry.apply, hkept]

namespace Session

/-- Before listeners that do not write back, an operation leaves the rules that it makes. -/
theorem perform_of_silent {operation : Operation} (hsilent : audience.Silent)
    (happly : Registry.apply operation s.registry.rules = .ok (some rules)) (depth : Nat) :
    ∃ s', perform audience (depth + 1) operation s = some (.ok (), s') ∧
      s'.registry.rules = rules ∧
      s'.events = (s.registry.listeners.map (Event.called · rules)).reverse ++
        .committed rules :: s.events := by
  obtain ⟨s', htold, hrules, hevents⟩ :=
    @tellAll_of_silent V audience rules (perform audience depth) hsilent s.registry.listeners
      (s.committing rules)
  have hcommit : commit audience (perform audience depth) rules s = some s' := htold
  refine ⟨s', ?_, hrules, hevents⟩
  rw [perform, happly]
  simp only [hcommit, Option.map_some]

theorem exists_unnoticed_remove_iff (hunknown : ∀ rule ∈ s.registry.rules, rule.id ≠ id) :
    (∃ depth answer s', perform audience depth (.remove id) s = some (answer, s') ∧
      s.Unnoticed s') ↔ s.registry.listeners = [] := by
  have happly := Registry.apply_remove_of_unknown hunknown
  constructor
  · rintro ⟨depth, answer, s', hperform, hunnoticed⟩
    obtain ⟨history, hperforms⟩ := performs_of_perform hperform
    obtain ⟨calls, rfl, -, htold⟩ := hperforms.exists_calls happly
    by_contra hlisteners
    exact hperforms.not_unnoticed (htold ▸ hlisteners) hunnoticed
  · intro hnobody
    have hcommit : commit audience (perform audience 0) s.registry.rules s =
        some (s.committing s.registry.rules) := by
      rw [commit, hnobody]
      rfl
    refine ⟨1, .ok (), s.committing s.registry.rules, ?_, rfl, rfl⟩
    rw [perform, happly]
    simp only [hcommit, Option.map_some]

end Session

/-! ## A store among the listeners -/

namespace Autosave

variable {env : Environment} {path : Path} {s s' : Session World}
  {others : Text → List Rule → Registry → World → Reaction World}

theorem silent_audience (hothers : ∀ name rules registry world,
    (others name rules registry world).Silent) : (Store.audienceWith env path others).Silent := by
  intro listener rules registry world
  cases listener with
  | named name => exact hothers name rules registry world
  | store =>
      unfold Store.audienceWith Store.hear
      dsimp only
      split <;> trivial

theorem commits_of_performs {audience : Audience World} {operation : Operation}
    {rules : List Rule} {calls : History .calls} {result}
    (hperforms : Performs audience operation s (.commit rules calls .nothing) result) :
    Commits s result.2 := by
  refine ⟨rules, (calls.events rules).reverse, ?_⟩
  rw [hperforms.events_eq]
  simp [History.events]

/-- A removal writes the file if the store is registered, whether it finds a rule or not. -/
theorem disk_of_remove (hothers : Considerate others) {depth : Nat} {answer : Except RuleError Unit}
    (hperform : Session.perform (Store.audienceWith env path others) depth (.remove id) s =
      some (answer, s')) :
    (.store ∉ s.registry.listeners → s'.world.disk = s.world.disk) ∧
      (Leading env path others s → Saved env path s') := by
  obtain ⟨history, hperforms⟩ := Session.performs_of_perform hperform
  have hstorable : (Operation.remove id).Storable := trivial
  constructor
  · intro habsent
    exact ((kept_disk s.world.disk).performs hothers hstorable hperforms ⟨habsent, rfl⟩).2
  · intro hleading
    have happly : Registry.apply (.remove id) s.registry.rules =
      .ok (some (s.registry.rules.filter (·.id ≠ id))) := rfl
    obtain ⟨calls, rfl, -, -⟩ := hperforms.exists_calls happly
    have hcommits := commits_of_performs hperforms
    have hsaved := saved_of_performs hothers hperforms hleading hcommits
    exact hsaved

/-- An update that finds no rule is not noticed.  A removal that finds none is noticed by everyone
who is registered: it is committed with the rules that are there and told once to each listener, and
if those do not write back it returns with the same rules.  It goes unnoticed exactly if nobody is
registered.  The disk is left alone if the store is not, and a store in front of those who write
back has written its file. -/
theorem unknown_id_is_unnoticed_iff (hunknown : ∀ rule ∈ s.registry.rules, rule.id ≠ id) :
    let audience := Store.audienceWith env path others
    (∀ depth kind pattern,
      Session.perform audience (depth + 1) (.update id kind pattern) s = some (.ok (), s)) ∧
    ((∃ depth answer s', Session.perform audience depth (.remove id) s = some (answer, s') ∧
      s.Unnoticed s') ↔ s.registry.listeners = []) ∧
    ((∀ name rules registry world, (others name rules registry world).Silent) →
      ∀ depth, ∃ s', Session.perform audience (depth + 1) (.remove id) s = some (.ok (), s') ∧
        s'.registry.rules = s.registry.rules ∧
        s'.events = (s.registry.listeners.map (Event.called · s.registry.rules)).reverse ++
          .committed s.registry.rules :: s.events) ∧
    ∀ depth answer s', Session.perform audience depth (.remove id) s = some (answer, s') →
      answer = .ok () ∧
      (∃ calls : History .calls, Performs audience (.remove id) s
        (.commit s.registry.rules calls .nothing) (answer, s') ∧
        calls.told = s.registry.listeners) ∧
      (Considerate others →
        (.store ∉ s.registry.listeners → s'.world.disk = s.world.disk) ∧
        (Leading env path others s → Saved env path s')) := by
  intro audience
  refine ⟨fun depth kind pattern => Session.perform_update_of_unknown kind pattern hunknown depth,
    Session.exists_unnoticed_remove_iff hunknown, ?_, ?_⟩
  · intro hothers depth
    exact Session.perform_of_silent (silent_audience hothers)
      (Registry.apply_remove_of_unknown hunknown) depth
  · intro depth answer s' hperform
    obtain ⟨history, hperforms⟩ := Session.performs_of_perform hperform
    obtain ⟨calls, rfl, hanswer, htold⟩ :=
      hperforms.exists_calls (Registry.apply_remove_of_unknown hunknown)
    exact ⟨hanswer, ⟨calls, hperforms, htold⟩, fun hothers => disk_of_remove hothers hperform⟩

/-! ## A watcher behind a store -/

namespace Stray

open HeaderAudit.Autosave.Echo (home firstRule)

def file : Path := Echo.listening.store.path

def watcher : Listener := .named ['w']

/-- There is a rule, a store and a watcher, and no file yet. -/
def start : Session World := ⟨⟨[firstRule], [.store, watcher]⟩, ⟨Disk.withStart [], [], 0⟩, []⟩

theorem unknown : ∀ rule ∈ start.registry.rules, rule.id ≠ ['z'] := by decide

theorem removal_of_unknown_id_is_told :
    (∀ rule ∈ start.registry.rules, rule.id ≠ ['z']) ∧
      (start.world.disk.read file).toOption = none ∧
      (Session.perform (Store.audience home file) 1 (.remove ['z']) start).map
          (fun result => (result.2.calls, (result.2.world.disk.read file).toOption)) =
        some ([(watcher, [firstRule]), (.store, [firstRule])],
          some (RuleFile.bytesOf [firstRule])) := by
  decide +kernel

theorem watcher_and_store_notice_unknown_id :
    (∀ rule ∈ start.registry.rules, rule.id ≠ ['z']) ∧
      Session.perform (Store.audience home file) 1 (.update ['z'] .null none) start =
        some (.ok (), start) ∧
      ∃ s', Session.perform (Store.audience home file) 1 (.remove ['z']) start =
          some (.ok (), s') ∧
        s'.registry.rules = [firstRule] ∧
        s'.events = [.called watcher [firstRule], .called .store [firstRule],
          .committed [firstRule]] ∧
        Saved home file s' ∧ ¬ start.Unnoticed s' := by
  have hleads : Leads (fun _ _ _ _ => .done) start.registry.listeners :=
    ⟨[], [watcher], rfl, by decide, by simp⟩
  have hleading : Leading home file (fun _ _ _ _ => .done) start :=
    ⟨hleads, fun _ => ⟨rfl, file, rfl, Disk.hasContent_iff_read.mpr rfl⟩⟩
  obtain ⟨hupdate, hquiet, hremove, htold⟩ :=
    @unknown_id_is_unnoticed_iff ['z'] home file start (fun _ _ _ _ => .done) unknown
  obtain ⟨s', hperform, hrules, hevents⟩ := hremove (fun _ _ _ _ => trivial) 0
  obtain ⟨-, -, hdisk⟩ := htold 1 _ _ hperform
  have hsaved := (hdisk fun _ _ _ _ => trivial).2 hleading
  refine ⟨unknown, hupdate 0 .null none, s', hperform, hrules, hevents, hsaved, ?_⟩
  intro hunnoticed
  cases hquiet.mp ⟨1, _, s', hperform, hunnoticed⟩

end Stray

end Autosave

end HeaderAudit
