import HeaderAudit.Proofs.Lockstep

/-!
# Whom a commit is told

Every commit is told once to each listener that is registered at that moment, in the order of
registration and with the rules of that commit, whatever the listeners do while they are told.  The
commits that a listener makes belong to its call and are told meanwhile.  A listener that fails is
noted in the world, and nobody else can tell it from one that returns.
-/

namespace HeaderAudit

namespace History

/-- The commits that the listeners of a row of calls make, one history for each call. -/
def within : {level : HistoryLevel} → History level → List (History .commits)
  | _, nothing => []
  | _, commit .. => []
  | _, call _ commits rest => commits :: within rest

theorem length_within {level : HistoryLevel} (history : History level) :
    history.within.length = history.told.length := by
  induction history with
  | nothing => rfl
  | commit => rfl
  | call _ _ _ _ ih => simp [within, told, ih]

/-- A row of calls tells each of its listeners of the rules, and then of what that listener
commits. -/
theorem events_calls (rules : List Rule) (calls : History .calls) :
    calls.events rules =
      (List.zipWith (fun listener commits => Event.called listener rules :: commits.events [])
        calls.told calls.within).flatten := by
  cases calls with
  | nothing => rfl
  | call listener commits rest =>
      rw [events, told, within, List.zipWith_cons_cons, List.flatten_cons, events_calls rules rest]
      rfl

end History

section Round

variable {V : Type} {audience : Audience V} {operation : Operation} {s : Session V}

/-- The history of an operation that is carried out is its commit with a call for every listener. -/
theorem Performs.exists_calls {rules : List Rule} {history : History .commits}
    {result : Except RuleError Unit × Session V}
    (happly : Registry.apply operation s.registry.rules = .ok (some rules))
    (hperforms : Performs audience operation s history result) :
    ∃ calls, history = .commit rules calls .nothing ∧ result.1 = .ok () ∧
      calls.told = s.registry.listeners := by
  cases hperforms with
  | rejected hrejected => simp [hrejected] at happly
  | ignored hignored => simp [hignored] at happly
  | commit hcommitted hcalls =>
      obtain rfl := by simpa [hcommitted] using happly
      exact ⟨_, rfl, rfl, hcalls.told_eq⟩

theorem Performs.events_commit {rules : List Rule} {calls : History .calls}
    {result : Except RuleError Unit × Session V}
    (hperforms : Performs audience operation s (.commit rules calls .nothing) result) :
    result.2.events.reverse = s.events.reverse ++ .committed rules ::
      (List.zipWith (fun listener commits => Event.called listener rules :: commits.events [])
        calls.told calls.within).flatten := by
  rw [hperforms.events_eq, History.events, History.events_calls]
  simp [History.events]

namespace Session

theorem perform_update_of_unknown {id : Text} (kind : Json) (pattern : Option Text)
    (hunknown : ∀ rule ∈ s.registry.rules, rule.id ≠ id) (depth : Nat) :
    perform audience (depth + 1) (.update id kind pattern) s = some (.ok (), s) := by
  have hany : s.registry.rules.any (·.id = id) = false := by simpa using hunknown
  have happly : Registry.apply (.update id kind pattern) s.registry.rules = .ok none := by
    simp [Registry.apply, hany]
  rw [perform, happly]

theorem perform_update_of_rejected {id : Text} {kind : Json} {pattern : Option Text}
    {e : RuleError} (hknown : ∃ rule ∈ s.registry.rules, rule.id = id)
    (hdraft : Rule.ofDraft ⟨kind, pattern, some id⟩ = .error e) (depth : Nat) :
    perform audience (depth + 1) (.update id kind pattern) s = some (.error e, s) := by
  have hany : s.registry.rules.any (·.id = id) = true := by simpa using hknown
  have happly : Registry.apply (.update id kind pattern) s.registry.rules = .error e := by
    rw [Registry.apply, if_pos hany, hdraft]
    rfl
  rw [perform, happly]

/-- It does not matter whether listeners fail or return: with the same changes before another
audience there are the same rules, the same listeners and the same calls. -/
theorem exists_perform_of_lockstep {W : Type} {other : Audience W} {R : V → W → Prop}
    {t : Session W} {depth : Nat} {answer : Except RuleError Unit} {s' : Session V}
    (hlock : Lockstep audience other R fun _ _ => True) (halike : s.Alike R t)
    (hperform : perform audience depth operation s = some (answer, s')) :
    ∃ t', perform other depth operation t = some (answer, t') ∧
      t'.registry = s'.registry ∧ t'.events = s'.events := by
  have hboth := perform_alike hlock depth operation halike
  rw [hperform] at hboth
  generalize perform other depth operation t = result at hboth ⊢
  cases hboth with
  | @some _ result h =>
      obtain ⟨answer', t'⟩ := result
      obtain ⟨hanswer, hsessions⟩ := h
      simp only at hanswer hsessions
      exact ⟨t', by rw [hanswer], hsessions.registry.symm, hsessions.events.symm⟩

/-- A commit is told once to each listener of that moment, in their order and with its rules; what a
listener commits meanwhile is told within its call.  An update that finds no rule or is rejected
tells nobody.  And if listeners that fail return in its place, nothing changes but their failures. -/
theorem each_listener_is_told_once (audience : Audience V) :
    (∀ depth operation s rules answer s',
      Registry.apply operation s.registry.rules = .ok (some rules) →
      perform audience depth operation s = some (answer, s') →
      answer = .ok () ∧ ∃ calls : History .calls,
        Performs audience operation s (.commit rules calls .nothing) (answer, s') ∧
        calls.told = s.registry.listeners ∧ calls.within.length = s.registry.listeners.length ∧
        s'.events.reverse = s.events.reverse ++ .committed rules ::
          (List.zipWith (fun listener commits => Event.called listener rules :: commits.events [])
            s.registry.listeners calls.within).flatten) ∧
    (∀ depth id kind pattern s,
      ((∀ rule ∈ s.registry.rules, rule.id ≠ id) →
        perform audience (depth + 1) (.update id kind pattern) s = some (.ok (), s)) ∧
      ∀ e, (∃ rule ∈ s.registry.rules, rule.id = id) →
        Rule.ofDraft ⟨kind, pattern, some id⟩ = .error e →
        perform audience (depth + 1) (.update id kind pattern) s = some (.error e, s)) ∧
    ∀ {W : Type} (other : Audience W) (R : V → W → Prop),
      Lockstep audience other R (fun _ _ => True) →
      ∀ depth operation s t answer s', s.Alike R t →
        perform audience depth operation s = some (answer, s') →
        ∃ t', perform other depth operation t = some (answer, t') ∧
          t'.registry = s'.registry ∧ t'.events = s'.events := by
  refine ⟨?_, ?_, ?_⟩
  · intro depth operation s rules answer s' happly hperform
    obtain ⟨history, hperforms⟩ := performs_of_perform hperform
    obtain ⟨calls, rfl, hanswer, htold⟩ := hperforms.exists_calls happly
    refine ⟨hanswer, calls, hperforms, htold, ?_, ?_⟩
    · rw [History.length_within, htold]
    · rw [← htold]
      exact hperforms.events_commit
  · intro depth id kind pattern s
    exact ⟨fun hunknown => perform_update_of_unknown kind pattern hunknown depth,
      fun e hknown hdraft => perform_update_of_rejected hknown hdraft depth⟩
  · intro W other R hlock depth operation s t answer s' halike hperform
    exact exists_perform_of_lockstep hlock halike hperform

end Session

end Round

namespace Corrector

/-- Nobody can tell a corrector that fails from one that returns. -/
theorem lockstep_done : Lockstep (audience (.fail none)) (audience .done) (fun _ _ => True)
    (fun _ _ => True) where
  hear listener rules registry v w _ := by
    by_cases hstale : listener = corrector ∧ rules.any (·.pattern = stale.pattern)
    · simp only [audience, if_pos hstale]
      exact .change trivial fun _ _ _ _ => .change trivial fun _ _ _ _ =>
        .stop rfl rfl trivial trivial
    · simp only [audience, if_neg hstale]
      exact .stop rfl rfl trivial trivial
  worldAfter _ _ _ _ _ _ _ := trivial
  rejected _ := trivial

theorem corrector_and_watcher_are_told_once :
    Registry.apply (.add stale) session.registry.rules = .ok (some [stale]) ∧
      Session.perform (audience (.fail none)) 2 (.add stale) session = some (.ok (), corrected) ∧
      (∃ calls : History .calls, calls.told = [corrector, watcher] ∧
        corrected.events.reverse = .committed [stale] ::
          (List.zipWith (fun listener commits => Event.called listener [stale] :: commits.events [])
            [corrector, watcher] calls.within).flatten) ∧
      Session.perform (audience (.fail none)) 1 (.update ['z'] .null none) corrected =
        some (.ok (), corrected) ∧
      Session.perform (audience (.fail none)) 1 (.update fresh.id .null none) corrected =
        some (.error .missingPart, corrected) ∧
      ∃ t', Session.perform (audience .done) 2 (.add stale) session = some (.ok (), t') ∧
        t'.registry = corrected.registry ∧ t'.events = corrected.events := by
  have happly : Registry.apply (.add stale) session.registry.rules = .ok (some [stale]) := rfl
  have hperform : Session.perform (audience (.fail none)) 2 (.add stale) session =
      some (.ok (), corrected) := rfl
  have hunknown : ∀ rule ∈ corrected.registry.rules, rule.id ≠ ['z'] := by decide
  have hknown : ∃ rule ∈ corrected.registry.rules, rule.id = fresh.id := by decide
  obtain ⟨htold, hrefused, hfailing⟩ := Session.each_listener_is_told_once (audience (.fail none))
  obtain ⟨-, calls, -, hlisteners, -, hevents⟩ := htold 2 _ _ _ _ _ happly hperform
  exact ⟨happly, hperform, ⟨calls, hlisteners, hevents⟩,
    (hrefused 0 ['z'] .null none corrected).1 hunknown,
    (hrefused 0 fresh.id .null none corrected).2 .missingPart hknown rfl,
    hfailing _ _ lockstep_done 2 _ session session _ _ ⟨rfl, rfl, trivial⟩ hperform⟩

end Corrector

end HeaderAudit
