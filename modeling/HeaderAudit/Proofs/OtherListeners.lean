import HeaderAudit.Proofs.ChangeHistory
import HeaderAudit.Proofs.LoadedRules
import HeaderAudit.Store

/-!
# The store among other listeners

Other listeners may fail, come and go, and write back into the registry.  They are considerate when
they leave the disk alone and neither register the store nor take it out.  What is left to the store
then follows from one induction over what happens: a property of sessions is kept by everything if
it is kept by each thing that the store or a considerate listener can do.
-/

namespace HeaderAudit

/-! ## Rules that can be stored -/

def Operation.Storable : Operation → Prop
  | .add rule => rule.Storable
  | .remove _ => True
  | .update _ _ pattern => pattern ≠ some []
  | .clear => True
  | .replaceAll rules => ∀ rule ∈ rules, rule.Storable

namespace Registry

variable {rules changed : List Rule}

theorem mem_replaceFirst {id : Text} {new rule : Rule} (hrule : rule ∈ replaceFirst id new rules) :
    rule = new ∨ rule ∈ rules := by
  induction rules with
  | nil => simp [replaceFirst] at hrule
  | cons first rest ih =>
      rw [replaceFirst] at hrule
      by_cases hfirst : first.id = id
      · rw [if_pos hfirst] at hrule
        rcases List.mem_cons.mp hrule with rfl | hrest
        · exact .inl rfl
        · exact .inr (List.mem_cons_of_mem first hrest)
      · rw [if_neg hfirst] at hrule
        rcases List.mem_cons.mp hrule with rfl | hrest
        · exact .inr List.mem_cons_self
        · rcases ih hrest with rfl | hmem
          · exact .inl rfl
          · exact .inr (List.mem_cons_of_mem first hmem)

theorem mem_replaceFirst_self {new : Rule} (hid : new.id ∈ rules.map Rule.id) :
    new ∈ replaceFirst new.id new rules := by
  induction rules with
  | nil => cases hid
  | cons first rest ih =>
      rw [replaceFirst]
      by_cases hfirst : first.id = new.id
      · rw [if_pos hfirst]
        exact List.mem_cons_self
      · rw [if_neg hfirst]
        rw [List.map_cons, List.mem_cons] at hid
        exact List.mem_cons_of_mem first (ih (hid.resolve_left (Ne.symm hfirst)))

theorem ofDraft_spec {kind : Json} {pattern : Option Text} {id : Text} {new : Rule}
    (hdraft : Rule.ofDraft ⟨kind, pattern, some id⟩ = .ok new) :
    new.id = id ∧ pattern = some new.pattern := by
  cases pattern with
  | none => simp [Rule.ofDraft] at hdraft
  | some pattern =>
      by_cases hnull : kind = .null
      · simp [Rule.ofDraft, hnull] at hdraft
      · have hread : Rule.ofDraft ⟨kind, some pattern, some id⟩ =
            (Rule.readKind (.text (Text.lower kind.plain))).map (⟨·, pattern, id⟩) := by
          cases kind with
          | null => contradiction
          | _ => rfl
        rw [hread] at hdraft
        cases hkind : Rule.readKind (.text (Text.lower kind.plain)) with
        | error e => simp [hkind, Except.map] at hdraft
        | ok read =>
            simp only [hkind, Except.map, Except.ok.injEq] at hdraft
            subst hdraft
            exact ⟨rfl, rfl⟩

theorem apply_storable {operation : Operation} (hoperation : operation.Storable)
    (hrules : ∀ rule ∈ rules, rule.Storable)
    (happly : apply operation rules = .ok (some changed)) : ∀ rule ∈ changed, rule.Storable := by
  cases operation with
  | add rule =>
      simp only [apply, Except.ok.injEq, Option.some.injEq] at happly
      subst happly
      intro other hother
      rcases List.mem_append.mp hother with hother | hother
      · exact hrules other hother
      · rw [List.mem_singleton.mp hother]
        exact hoperation
  | remove id =>
      simp only [apply, Except.ok.injEq, Option.some.injEq] at happly
      subst happly
      intro other hother
      exact hrules other (List.mem_of_mem_filter hother)
  | update id kind pattern =>
      rw [apply] at happly
      by_cases hany : rules.any (·.id = id)
      · rw [if_pos hany] at happly
        cases hdraft : Rule.ofDraft ⟨kind, pattern, some id⟩ with
        | error e => simp [hdraft, bind, Except.bind] at happly
        | ok new =>
            simp only [hdraft, bind, Except.bind, Except.ok.injEq, Option.some.injEq] at happly
            subst happly
            obtain ⟨hid, hpattern⟩ := ofDraft_spec hdraft
            obtain ⟨old, hold, holdId⟩ := List.any_eq_true.mp hany
            have hnew : new.Storable := by
              refine ⟨?_, ?_⟩
              · rw [hid, ← of_decide_eq_true holdId]
                exact (hrules old hold).id_ne_nil
              · intro hempty
                exact hoperation (by rw [hpattern, hempty])
            intro other hother
            rcases mem_replaceFirst hother with rfl | hother
            · exact hnew
            · exact hrules other hother
      · rw [if_neg hany] at happly
        simp at happly
  | clear =>
      simp only [apply, Except.ok.injEq, Option.some.injEq] at happly
      subst happly
      simp
  | replaceAll new =>
      simp only [apply, Except.ok.injEq, Option.some.injEq] at happly
      subst happly
      exact hoperation

end Registry

/-! ## Listeners that leave the store alone -/

namespace Reaction

/-- The reaction leaves the disk and the registration of the store as they are, and what it puts
into the registry can be stored. -/
def Considerate : Reaction World → Disk → Prop
  | .done, _ => True
  | .fail _, _ => True
  | .put world next, disk => world.disk = disk ∧ next.Considerate disk
  | .change operation next, _ =>
      operation.Storable ∧ ∀ registry world, (next registry world).Considerate world.disk
  | .listen listener next, disk => listener ≠ .store ∧ next.Considerate disk
  | .unlisten listener next, disk => listener ≠ .store ∧ next.Considerate disk

/-- The reaction does not write back into the registry. -/
def Silent {World : Type} : Reaction World → Prop
  | .done => True
  | .fail _ => True
  | .put _ next => next.Silent
  | .change _ _ => False
  | .listen _ next => next.Silent
  | .unlisten _ next => next.Silent

end Reaction

def Considerate (others : Text → List Rule → Registry → World → Reaction World) : Prop :=
  ∀ name rules registry world, (others name rules registry world).Considerate world.disk

theorem Runs.registry_rules_eq_of_silent {World : Type} {audience : Audience World}
    {reaction : Reaction World} {s s' : Session World} {history reason}
    (hruns : Runs audience (.react reaction) s history s' reason) (hsilent : reaction.Silent) :
    s'.registry.rules = s.registry.rules := by
  induction reaction generalizing s with
  | done => cases hruns with | done => rfl
  | fail _ => cases hruns with | fail => rfl
  | put world next ih =>
      cases hruns with
      | put hnext =>
          have hrules := ih hnext hsilent
          exact hrules
  | listen listener next ih =>
      cases hruns with
      | listen hnext =>
          have hrules := ih hnext hsilent
          exact hrules
  | unlisten listener next ih =>
      cases hruns with
      | unlisten hnext =>
          have hrules := ih hnext hsilent
          exact hrules
  | change _ _ => exact hsilent.elim

section Kept

variable {env : Environment} {path : Path}
  {others : Text → List Rule → Registry → World → Reaction World} {P : Session World → Prop}
  {told : Prop}

/-- A property that everything keeps which the store and considerate listeners do.  The store need
not keep it if it is never told. -/
structure Kept (env : Environment) (path : Path) (told : Prop) (P : Session World → Prop) :
    Prop where
  record : ∀ s events, P s → P { s with events := events }
  leavingDisk : ∀ s world, world.disk = s.world.disk → P s → P { s with world := world }
  listening : ∀ s name, P s → P { s with registry := s.registry.listen (.named name) }
  unlistening : ∀ s name, P s → P { s with registry := s.registry.unlisten (.named name) }
  committing : ∀ s operation rules, operation.Storable →
    Registry.apply operation s.registry.rules = .ok (some rules) → P s → P (s.committing rules)
  saving : told → ∀ s rules world, world.disk = (RuleFile.save env path rules s.world.disk).1 →
    P s → P { s with world := world }
  toldBy : ∀ s, P s → .store ∈ s.registry.listeners → told

/-- What the store does when it is told: the rules are written, and nothing else changes. -/
theorem Runs.hear_cases {rules : List Rule} {s s' : Session World} {history reason}
    (hruns : Runs (Store.audienceWith env path others)
      (.react (Store.hear env path rules s.world)) s history s' reason) :
    history = .nothing ∧ s'.registry = s.registry ∧ s'.events = s.events ∧
      s'.world.disk = (RuleFile.save env path rules s.world.disk).1 := by
  rw [Store.hear.eq_def] at hruns
  split at hruns
  · rename_i disk hsave
    cases hruns with
    | put hnext => cases hnext with | done => exact ⟨rfl, rfl, rfl, by simp [hsave, World.note]⟩
  · rename_i disk e hsave
    cases hruns with
    | put hnext => cases hnext with | fail => exact ⟨rfl, rfl, rfl, by simp [hsave]⟩

theorem Session.returned_world_disk {listener : Listener} {reason : Option (Option Text)}
    (s : Session World) :
    (s.returned (Store.audienceWith env path others) listener reason).world.disk =
      s.world.disk := by
  cases reason <;> rfl

theorem Kept.returned (hkept : Kept env path told P) {listener : Listener}
    {reason : Option (Option Text)} {s : Session World} (hs : P s) :
    P (s.returned (Store.audienceWith env path others) listener reason) := by
  cases reason with
  | none => exact hs
  | some reason => exact hkept.leavingDisk s _ rfl hs

def Task.Considerate : {level : HistoryLevel} → Task World level → Disk → Prop
  | _, .react reaction, disk => reaction.Considerate disk
  | _, .tell _ _, _ => True

/-- A kept property holds after whatever happens. -/
theorem Kept.runs (hkept : Kept env path told P) (hothers : Considerate others)
    {level : HistoryLevel} {task : Task World level} {s s' : Session World} {history reason}
    (hruns : Runs (Store.audienceWith env path others) task s history s' reason)
    (htask : task.Considerate s.world.disk) (htold : .store ∈ task.listeners → told)
    (hs : P s) : P s' := by
  induction hruns with
  | done => exact hs
  | fail => exact hs
  | @put s s' world next history reason _ ih =>
      obtain ⟨hdisk, hnext⟩ := htask
      exact ih (by rw [hdisk]; exact hnext) htold (hkept.leavingDisk s world hdisk hs)
  | @listen s s' listener next history reason _ ih =>
      obtain ⟨hlistener, hnext⟩ := htask
      cases listener with
      | store => contradiction
      | named name => exact ih hnext htold (hkept.listening s name hs)
  | @unlisten s s' listener next history reason _ ih =>
      obtain ⟨hlistener, hnext⟩ := htask
      cases listener with
      | store => contradiction
      | named name => exact ih hnext htold (hkept.unlistening s name hs)
  | rejected => exact hs
  | @ignored s s' operation next history reason _ _ ih =>
      exact ih (htask.2 s.registry s.world) htold hs
  | @commit s mid s' operation rules next calls rest reason happly _ _ ihCalls ihRest =>
      have hcommitted := hkept.committing s operation rules htask.1 happly hs
      have hmid := ihCalls trivial (fun hmem => hkept.toldBy s hs hmem) hcommitted
      exact ihRest (htask.2 mid.registry mid.world) (by simp [Task.listeners]) hmid
  | nobody => exact hs
  | @call s mid s' rules listener listeners commits rest reason hcall _ ihCall ihRest =>
      have hcalling : P (s.calling listener rules) := hkept.record s _ hs
      have hmid : P mid := by
        cases listener with
        | named name =>
            exact ihCall (hothers name rules s.registry s.world) (by simp [Task.listeners]) hcalling
        | store =>
            obtain ⟨-, hregistry, hevents, hdisk⟩ :=
              Runs.hear_cases (s := s.calling .store rules) hcall
            have hsaved := hkept.saving (htold List.mem_cons_self) _ rules mid.world hdisk hcalling
            obtain ⟨registry, world, events⟩ := mid
            simp only at hregistry hevents
            rw [hregistry, hevents]
            exact hsaved
      exact ihRest trivial (fun hmem => htold (List.mem_cons_of_mem listener hmem))
        (hkept.returned hmid)

theorem Kept.performs (hkept : Kept env path told P) (hothers : Considerate others)
    {operation : Operation} (hoperation : operation.Storable) {s : Session World} {history result}
    (hperforms : Performs (Store.audienceWith env path others) operation s history result)
    (hs : P s) : P result.2 := by
  cases hperforms with
  | rejected => exact hs
  | ignored => exact hs
  | commit happly hcalls =>
      exact hkept.runs hothers hcalls trivial (fun hmem => hkept.toldBy s hs hmem)
        (hkept.committing s operation _ hoperation happly hs)

end Kept

end HeaderAudit
