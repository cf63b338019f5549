import HeaderAudit.Proofs.Lockstep

/-!
# One chain of commits

However deeply changes are nested within one another, the registry is never set back: the snapshots
are those that the same operations give when they are carried out one after another and nobody
listens, in the order in which they were asked for.  To say which operations these are, an audience
may note each operation in its world before it asks for it.  Noting changes nothing else.
-/

namespace HeaderAudit

/-! ## Operations on their own -/

/-- What an operation makes of a list of rules. -/
inductive Operation.Yields : Operation → List Rule → List Rule → Prop where
  | add (rule : Rule) (rules : List Rule) : Yields (.add rule) rules (rules ++ [rule])
  | remove (id : Text) (rules : List Rule) : Yields (.remove id) rules (rules.filter (·.id ≠ id))
  | update {id : Text} {kind : Json} {pattern : Option Text} {before after : List Rule}
      {old new : Rule} :
      (∀ rule ∈ before, rule.id ≠ id) → old.id = id →
      Rule.ofDraft ⟨kind, pattern, some id⟩ = .ok new →
      Yields (.update id kind pattern) (before ++ old :: after) (before ++ new :: after)
  | clear (rules : List Rule) : Yields .clear rules []
  | replaceAll (new rules : List Rule) : Yields (.replaceAll new) rules new

namespace Registry

variable {rules changed : List Rule} {operation : Operation}

theorem replaceFirst_append {id : Text} {before after : List Rule} {old : Rule} (new : Rule)
    (hbefore : ∀ rule ∈ before, rule.id ≠ id) (hold : old.id = id) :
    replaceFirst id new (before ++ old :: after) = before ++ new :: after := by
  induction before with
  | nil => simp [replaceFirst, hold]
  | cons rule before ih =>
      rw [List.forall_mem_cons] at hbefore
      simp [replaceFirst, hbefore.1, ih hbefore.2]

theorem apply_update_iff {id : Text} {kind : Json} {pattern : Option Text} :
    apply (.update id kind pattern) rules = .ok (some changed) ↔
      ∃ before old after new, rules = before ++ old :: after ∧ (∀ rule ∈ before, rule.id ≠ id) ∧
        old.id = id ∧ Rule.ofDraft ⟨kind, pattern, some id⟩ = .ok new ∧
        changed = before ++ new :: after := by
  constructor
  · intro happly
    rw [apply] at happly
    by_cases hany : rules.any (·.id = id)
    · rw [if_pos hany] at happly
      obtain ⟨old, hfind⟩ := Option.isSome_iff_exists.mp (List.find?_isSome.mpr
        (by simpa using hany) : (rules.find? (·.id = id)).isSome)
      obtain ⟨hold, before, after, rfl, hbefore⟩ := List.find?_eq_some_iff_append.mp hfind
      cases hdraft : Rule.ofDraft ⟨kind, pattern, some id⟩ with
      | error e => simp [hdraft, bind, Except.bind] at happly
      | ok new =>
          simp only [hdraft, bind, Except.bind, Except.ok.injEq, Option.some.injEq] at happly
          have hfirst : ∀ rule ∈ before, rule.id ≠ id := by simpa using hbefore
          have hid : old.id = id := by simpa using hold
          rw [replaceFirst_append new hfirst hid] at happly
          exact ⟨before, old, after, new, rfl, hfirst, hid, rfl, happly.symm⟩
    · rw [if_neg hany] at happly
      simp at happly
  · rintro ⟨before, old, after, new, rfl, hbefore, hold, hdraft, rfl⟩
    have hany : (before ++ old :: after).any (·.id = id) := by simp [hold]
    rw [apply, if_pos hany, hdraft, ← replaceFirst_append new hbefore hold]
    rfl

/-- An operation that is carried out makes of the rules what it yields, and nothing else. -/
theorem apply_eq_some_iff :
    apply operation rules = .ok (some changed) ↔ operation.Yields rules changed := by
  cases operation with
  | update id kind pattern =>
      rw [apply_update_iff]
      constructor
      · rintro ⟨before, old, after, new, rfl, hbefore, hold, hdraft, rfl⟩
        exact .update hbefore hold hdraft
      · intro hyields
        cases hyields with
        | update hbefore hold hdraft =>
            exact ⟨_, _, _, _, rfl, hbefore, hold, hdraft, rfl⟩
  | _ =>
      simp only [apply, Except.ok.injEq, Option.some.injEq]
      constructor
      · rintro rfl
        constructor
      · intro hyields
        cases hyields
        rfl

/-- The operations among these that change the rules when they are carried out one after another,
each with the rules that it leaves. -/
def commits : List Rule → List Operation → List (Operation × List Rule)
  | _, [] => []
  | rules, operation :: rest =>
    match apply operation rules with
    | .ok (some changed) => (operation, changed) :: commits changed rest
    | _ => commits rules rest

/-- The rules after the operations: those of the last commit. -/
def after (rules : List Rule) (operations : List Operation) : List Rule :=
  ((commits rules operations).map Prod.snd).getLastD rules

/-- Each operation yields its rules from those in front of it. -/
def Chain : List Rule → List (Operation × List Rule) → Prop
  | _, [] => True
  | rules, (operation, changed) :: rest => operation.Yields rules changed ∧ Chain changed rest

theorem chain_commits (rules : List Rule) (operations : List Operation) :
    Chain rules (commits rules operations) := by
  induction operations generalizing rules with
  | nil => trivial
  | cons operation rest ih =>
      rw [commits]
      split
      · next changed happly => exact ⟨apply_eq_some_iff.mp happly, ih changed⟩
      · exact ih rules

theorem commits_cons_of_apply (happly : apply operation rules = .ok (some changed))
    (rest : List Operation) :
    commits rules (operation :: rest) = (operation, changed) :: commits changed rest := by
  rw [commits, happly]

theorem after_cons_of_apply (happly : apply operation rules = .ok (some changed))
    (rest : List Operation) : after rules (operation :: rest) = after changed rest := by
  rw [after, commits_cons_of_apply happly, List.map_cons, List.getLastD_cons, after]

theorem commits_append (rules : List Rule) (operations more : List Operation) :
    commits rules (operations ++ more) =
      commits rules operations ++ commits (after rules operations) more := by
  induction operations generalizing rules with
  | nil => rfl
  | cons operation rest ih =>
      cases happly : apply operation rules with
      | error e => simp [after, commits, happly, ih]
      | ok changed? =>
          cases changed? with
          | none => simp [after, commits, happly, ih]
          | some changed =>
              rw [List.cons_append, commits_cons_of_apply happly, commits_cons_of_apply happly,
                after_cons_of_apply happly, ih, List.cons_append]

theorem after_append (rules : List Rule) (operations more : List Operation) :
    after rules (operations ++ more) = after (after rules operations) more := by
  rw [after, commits_append, List.map_append, after.eq_def (after rules operations)]
  generalize (commits (after rules operations) more).map Prod.snd = later
  rw [after]
  simp only [List.getLastD_eq_getLast?, List.getLast?_append]
  cases later.getLast? <;> rfl

end Registry

/-! ## Operations noted as they are asked for -/

variable {W : Type}

/-- The reaction with a note of every operation, made just before the registry is changed.  The world
is followed on the way, together with the operations noted so far. -/
def Reaction.noting : Reaction W → W × List Operation → Reaction (W × List Operation)
  | .done, _ => .done
  | .fail reason, _ => .fail reason
  | .put world next, now => .put (world, now.2) (next.noting (world, now.2))
  | .listen listener next, now => .listen listener (next.noting now)
  | .unlisten listener next, now => .unlisten listener (next.noting now)
  | .change operation next, now =>
    .put (now.1, now.2 ++ [operation])
      (.change operation fun registry now => (next registry now.1).noting now)

def Audience.noting (audience : Audience W) : Audience (W × List Operation) where
  hear listener rules registry now := (audience.hear listener rules registry now.1).noting now
  noteFailure listener reason now := (audience.noteFailure listener reason now.1, now.2)

theorem Reaction.alike_noting (reaction : Reaction W) (now : W × List Operation) :
    Reaction.Alike (fun world now => world = now.1) Eq now.1 reaction now
      (reaction.noting now) := by
  induction reaction generalizing now with
  | done => exact .stop rfl rfl rfl rfl
  | fail reason => exact .stop rfl rfl rfl rfl
  | put world next ih => exact .putFirst (.putSecond (ih (world, now.2)))
  | listen listener next ih => exact .listen (ih now)
  | unlisten listener next ih => exact .unlisten (ih now)
  | change operation next ih =>
      refine .putSecond (.change rfl ?_)
      rintro registry _ now rfl
      exact ih registry now.1 now

theorem Audience.lockstep_noting (audience : Audience W) :
    Lockstep audience audience.noting (fun world now => world = now.1) Eq where
  hear listener rules registry world now hworld := by
    subst hworld
    exact Reaction.alike_noting _ now
  worldAfter listener ending ending' world now hending hworld := by
    subst hending hworld
    cases ending <;> rfl
  rejected _ := rfl

namespace Session

/-- The session with so many operations noted. -/
def noting (operations : List Operation) (s : Session W) : Session (W × List Operation) :=
  ⟨s.registry, (s.world, operations), s.events⟩

end Session

def Event.committed? : Event → Option (List Rule)
  | .committed rules => some rules
  | .called .. => none

namespace Session

/-- The snapshots in the order in which they were committed. -/
def committed (s : Session W) : List (List Rule) := s.events.reverse.filterMap Event.committed?

/-- From the one session to the other the registry has taken the operations one after another. -/
structure Advances (operations : List Operation) (s s' : Session W) : Prop where
  committed : s'.committed =
    s.committed ++ (Registry.commits s.registry.rules operations).map Prod.snd
  rules : s'.registry.rules = Registry.after s.registry.rules operations

theorem Advances.refl (s : Session W) : s.Advances [] s := ⟨by simp [Registry.commits], rfl⟩

theorem Advances.trans {operations more : List Operation} {s mid s' : Session W}
    (hfirst : s.Advances operations mid) (hsecond : mid.Advances more s') :
    s.Advances (operations ++ more) s' := by
  constructor
  · rw [hsecond.committed, hfirst.committed, hfirst.rules, Registry.commits_append,
      List.map_append, List.append_assoc]
  · rw [hsecond.rules, hfirst.rules, Registry.after_append]

theorem committed_committing (rules : List Rule) (s : Session W) :
    (s.committing rules).committed = s.committed ++ [rules] := by
  simp [committed, committing, Event.committed?]

theorem committed_calling (listener : Listener) (rules : List Rule) (s : Session W) :
    (s.calling listener rules).committed = s.committed := by
  simp [committed, calling, Event.committed?]

variable {audience : Audience W} {s s' : Session (W × List Operation)}
  {change : Operation → Session (W × List Operation) →
    Option (Except RuleError Unit × Session (W × List Operation))}

/-- What has been noted since is what the registry has taken. -/
def Noted (s s' : Session (W × List Operation)) : Prop :=
  ∃ operations, s'.world.2 = s.world.2 ++ operations ∧ s.Advances operations s'

theorem noted_of_same (hcommitted : s'.committed = s.committed)
    (hrules : s'.registry.rules = s.registry.rules) (hnotes : s'.world.2 = s.world.2) :
    s.Noted s' :=
  ⟨[], by simp [hnotes], by simp [hcommitted, Registry.commits], hrules⟩

theorem Noted.trans {mid : Session (W × List Operation)} (hfirst : s.Noted mid)
    (hsecond : mid.Noted s') : s.Noted s' := by
  obtain ⟨operations, hnotes, hadvances⟩ := hfirst
  obtain ⟨more, hmore, hrest⟩ := hsecond
  exact ⟨operations ++ more, by rw [hmore, hnotes, List.append_assoc], hadvances.trans hrest⟩

theorem noted_calling (listener : Listener) (rules : List Rule) :
    s.Noted (s.calling listener rules) :=
  noted_of_same (committed_calling listener rules s) rfl rfl

section Change

variable (hchange : ∀ operation s answer s', change operation s = some (answer, s') →
  ∃ nested, s'.world.2 = s.world.2 ++ nested ∧ s.Advances (operation :: nested) s')
include hchange

theorem noted_of_follow {reaction : Reaction W} {ending : Option (Option Text)}
    (hfollow : follow change (reaction.noting s.world) s = some (s', ending)) : s.Noted s' := by
  induction reaction generalizing s with
  | done =>
      obtain ⟨rfl, -⟩ := by simpa [Reaction.noting, follow] using hfollow
      exact noted_of_same rfl rfl rfl
  | fail reason =>
      obtain ⟨rfl, -⟩ := by simpa [Reaction.noting, follow] using hfollow
      exact noted_of_same rfl rfl rfl
  | put world next ih =>
      rw [Reaction.noting, follow] at hfollow
      have hnext := @ih { s with world := (world, s.world.2) } hfollow
      refine Noted.trans ?_ hnext
      exact noted_of_same rfl rfl rfl
  | listen listener next ih =>
      rw [Reaction.noting, follow] at hfollow
      have hnext := @ih { s with registry := s.registry.listen listener } hfollow
      refine Noted.trans ?_ hnext
      exact noted_of_same rfl rfl rfl
  | unlisten listener next ih =>
      rw [Reaction.noting, follow] at hfollow
      have hnext := @ih { s with registry := s.registry.unlisten listener } hfollow
      refine Noted.trans ?_ hnext
      exact noted_of_same rfl rfl rfl
  | change operation next ih =>
      rw [Reaction.noting, follow, follow] at hfollow
      cases hanswer :
          change operation { s with world := (s.world.1, s.world.2 ++ [operation]) } with
      | none => simp [hanswer] at hfollow
      | some answer =>
          obtain ⟨result, mid⟩ := answer
          rw [hanswer] at hfollow
          obtain ⟨nested, hnotes, hadvances⟩ := hchange _ _ _ _ hanswer
          -- The operation has been noted, and then carried out before its nested ones.
          have hmid : s.Noted mid :=
            ⟨operation :: nested, by simpa using hnotes, hadvances.committed, hadvances.rules⟩
          cases result with
          | error e =>
              obtain ⟨rfl, -⟩ := by simpa using hfollow
              exact hmid
          | ok _ => exact hmid.trans (ih _ _ hfollow)

theorem noted_of_tellAll {rules : List Rule} {listeners : List Listener}
    (htell : tellAll audience.noting change rules listeners s = some s') : s.Noted s' := by
  induction listeners generalizing s with
  | nil =>
      obtain rfl := by simpa [tellAll] using htell
      exact noted_of_same rfl rfl rfl
  | cons listener listeners ih =>
      rw [tellAll, tell_eq] at htell
      cases hending : follow change (audience.noting.hear listener rules s.registry s.world)
          (s.calling listener rules) with
      | none => simp [hending] at htell
      | some ending =>
          obtain ⟨mid, reason⟩ := ending
          rw [hending] at htell
          have hcall : (s.calling listener rules).Noted mid :=
            noted_of_follow hchange (s := s.calling listener rules) hending
          have hnotes : (audience.noting.worldAfter listener reason mid.world).2 = mid.world.2 := by
            cases reason <;> rfl
          have hreturn : mid.Noted
              { mid with world := audience.noting.worldAfter listener reason mid.world } :=
            noted_of_same rfl rfl hnotes
          exact ((noted_calling listener rules).trans hcall).trans (hreturn.trans (ih htell))

end Change

/-- Whatever is asked for within a change is noted, and the registry takes the change and then what
has been noted. -/
theorem advances_of_perform {depth : Nat} {operation : Operation} {answer : Except RuleError Unit}
    (hperform : perform audience.noting depth operation s = some (answer, s')) :
    ∃ nested, s'.world.2 = s.world.2 ++ nested ∧ s.Advances (operation :: nested) s' := by
  induction depth generalizing operation s answer s' with
  | zero => simp [perform] at hperform
  | succ depth ih =>
      rw [perform] at hperform
      cases happly : Registry.apply operation s.registry.rules with
      | error e =>
          obtain ⟨-, rfl⟩ := by simpa [happly] using hperform
          exact ⟨[], by simp, by simp [Registry.commits, happly],
            by simp [Registry.after, Registry.commits, happly]⟩
      | ok changed =>
          cases changed with
          | none =>
              obtain ⟨-, rfl⟩ := by simpa [happly] using hperform
              exact ⟨[], by simp, by simp [Registry.commits, happly],
                by simp [Registry.after, Registry.commits, happly]⟩
          | some rules =>
              simp only [happly, Option.map_eq_some_iff, Prod.mk.injEq] at hperform
              obtain ⟨told, htold, -, rfl⟩ := hperform
              obtain ⟨nested, hnotes, hadvances⟩ :=
                noted_of_tellAll (fun _ _ _ _ h => ih h) (s := s.committing rules) htold
              refine ⟨nested, hnotes, ?_, ?_⟩
              · rw [hadvances.committed, committed_committing,
                  Registry.commits_cons_of_apply happly]
                simp [committing]
              · rw [hadvances.rules, Registry.after_cons_of_apply happly]
                rfl

theorem Alike.eq_noting {world : Session W} {noted : Session (W × List Operation)}
    (halike : Alike (fun world now => world = now.1) world noted) :
    noted = world.noting noted.world.2 := by
  obtain ⟨hregistry, hevents, hworld⟩ := halike
  rw [noting, hregistry, hevents, hworld]

/-- However many changes a change sets off, none of them is lost.  The operations asked for within
it are noted in `nested`, and the snapshots committed are a chain in which every operation yields its
rules from those committed just before.  In the end the registry holds the last of them. -/
theorem commits_form_one_chain {audience : Audience W} {depth : Nat} {operation : Operation}
    {s s' : Session W} {answer : Except RuleError Unit}
    (hperform : perform audience depth operation s = some (answer, s')) :
    ∃ nested,
      perform audience.noting depth operation (s.noting []) = some (answer, s'.noting nested) ∧
      s'.committed = s.committed ++
        (Registry.commits s.registry.rules (operation :: nested)).map Prod.snd ∧
      Registry.Chain s.registry.rules (Registry.commits s.registry.rules (operation :: nested)) ∧
      s'.registry.rules =
        ((Registry.commits s.registry.rules (operation :: nested)).map Prod.snd).getLastD
          s.registry.rules := by
  have hstart : Alike (fun world now => world = now.1) s (s.noting []) := ⟨rfl, rfl, rfl⟩
  have hnoting := perform_alike audience.lockstep_noting depth operation hstart
  rw [hperform] at hnoting
  generalize hnoted : perform audience.noting depth operation (s.noting []) = noted at hnoting ⊢
  cases hnoting with
  | @some _ noted h =>
      obtain ⟨answer', noted⟩ := noted
      obtain ⟨hanswer, halike⟩ := h
      simp only at hanswer halike
      subst hanswer
      obtain ⟨nested, hnotes, hadvances⟩ := advances_of_perform hnoted
      have hnested : noted.world.2 = nested := by simpa [noting] using hnotes
      have hend : noted = s'.noting nested := by rw [← hnested, ← halike.eq_noting]
      subst hend
      exact ⟨nested, rfl, hadvances.committed, Registry.chain_commits _ _, hadvances.rules⟩

end Session

namespace Corrector

theorem correction_is_kept :
    Session.perform (audience (.fail none)) 2 (.add stale) session = some (.ok (), corrected) ∧
      Session.perform (audience (.fail none)).noting 2 (.add stale) (session.noting []) =
        some (.ok (), corrected.noting [correction, .add other]) ∧
      corrected.committed = [[stale], [fresh], [fresh, other]] ∧
      Registry.Chain [] (Registry.commits [] [.add stale, correction, .add other]) ∧
      corrected.registry.rules = [fresh, other] := by
  have hperform : Session.perform (audience (.fail none)) 2 (.add stale) session =
      some (.ok (), corrected) := rfl
  obtain ⟨nested, hnoting, hcommitted, hchain, hrules⟩ := Session.commits_form_one_chain hperform
  have hrun : Session.perform (audience (.fail none)).noting 2 (.add stale) (session.noting []) =
      some (.ok (), corrected.noting [correction, .add other]) := rfl
  have hnested : [correction, .add other] = nested := by
    have hsame := hrun.symm.trans hnoting
    simp only [Option.some.injEq, Prod.mk.injEq, Session.noting, Session.mk.injEq] at hsame
    exact hsame.2.2.1.2
  subst hnested
  exact ⟨hperform, hnoting, hcommitted, hchain, hrules⟩

end Corrector

end HeaderAudit
