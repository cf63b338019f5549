import HeaderAudit.Proofs.ChangeHistory

/-!
# The order in which listeners hear of commits

The commits of a history are numbered as they are made, and each call tells of one of them.  A
listener hears in commit order when the numbers never go down.  A listener that writes back tells
the whole audience of its own commit before those behind it hear of the earlier one, so a listener
hears in commit order exactly if none of those told before it writes back.
-/

namespace HeaderAudit

/-- The rules that an event tells a listener. -/
def Event.heardBy? (listener : Listener) : Event → Option (List Rule)
  | .committed _ => none
  | .called other rules => if other = listener then some rules else none

def Session.lastHeard? {World : Type} (listener : Listener) (s : Session World) :
    Option (List Rule) :=
  s.events.findSome? (Event.heardBy? listener)

namespace History

/-- The calls of a listener, each with the number and the rules of the commit that it tells of.  A
row of calls tells of the commit `telling`; `count` commits have been made before. -/
def heardFrom (listener : Listener) : {level : HistoryLevel} → Nat × List Rule → Nat →
    History level → List (Nat × List Rule)
  | _, _, _, nothing => []
  | _, _, count, commit rules calls rest =>
      heardFrom listener (count, rules) (count + 1) calls ++
        heardFrom listener (0, []) (count + 1 + calls.snapshots.length) rest
  | _, telling, count, call other commits rest =>
      (if other = listener then [telling] else []) ++
        (heardFrom listener (0, []) count commits ++
          heardFrom listener telling (count + commits.snapshots.length) rest)

/-- The first commit has the number one. -/
def heard (listener : Listener) (history : History .commits) : List (Nat × List Rule) :=
  heardFrom listener (0, []) 1 history

/-- At every commit the listener is among those who are to be told. -/
def StaysRegistered (listener : Listener) : {level : HistoryLevel} → History level → Prop
  | _, nothing => True
  | _, commit _ calls rest =>
      listener ∈ calls.told ∧ StaysRegistered listener calls ∧ StaysRegistered listener rest
  | _, call _ commits rest => StaysRegistered listener commits ∧ StaysRegistered listener rest

/-- Whoever is told of a commit before the listener makes no commit meanwhile. -/
def Undisturbed (listener : Listener) : {level : HistoryLevel} → History level → Prop
  | _, nothing => True
  | _, commit _ calls rest => Undisturbed listener calls ∧ Undisturbed listener rest
  | _, call _ commits rest =>
      (listener ∈ rest.told → commits.snapshots = []) ∧
        Undisturbed listener commits ∧ Undisturbed listener rest

/-- The listener hears of every commit, and never of one after it has heard of a later one. -/
structure HearsInOrder (listener : Listener) (history : History .commits) : Prop where
  complete : ∀ number rules, history.snapshots[number]? = some rules →
    (number + 1, rules) ∈ history.heard listener
  ordered : (history.heard listener).Pairwise fun a b => a.1 ≤ b.1

variable {level : HistoryLevel} {listener : Listener} {telling : Nat × List Rule} {count : Nat}

@[simp] theorem told_commits (history : History .commits) : history.told = [] := by
  cases history <;> rfl

/-! ## Which commits are heard of -/

/-- A call tells of the commit to which its row belongs, or of one made within the history. -/
theorem mem_heardFrom {history : History level} {entry : Nat × List Rule}
    (hentry : entry ∈ heardFrom listener telling count history) :
    (listener ∈ history.told ∧ entry = telling) ∨
      (count ≤ entry.1 ∧ history.snapshots[entry.1 - count]? = some entry.2) := by
  induction history generalizing telling count with
  | nothing => simp [heardFrom] at hentry
  | commit rules calls rest ihCalls ihRest =>
      rw [heardFrom, List.mem_append] at hentry
      right
      rcases hentry with hentry | hentry
      · rcases ihCalls hentry with ⟨-, rfl⟩ | ⟨hle, hsnapshot⟩
        · simp [snapshots]
        · obtain ⟨hlt, -⟩ := List.getElem?_eq_some_iff.mp hsnapshot
          refine ⟨by omega, ?_⟩
          rw [snapshots, show entry.1 - count = entry.1 - (count + 1) + 1 by omega,
            List.getElem?_cons_succ, List.getElem?_append_left hlt, hsnapshot]
      · rcases ihRest hentry with ⟨hmem, -⟩ | ⟨hle, hsnapshot⟩
        · simp at hmem
        · refine ⟨by omega, ?_⟩
          rw [snapshots, show entry.1 - count = entry.1 - (count + 1) + 1 by omega,
            List.getElem?_cons_succ, List.getElem?_append_right (by omega),
            show entry.1 - (count + 1) - calls.snapshots.length =
              entry.1 - (count + 1 + calls.snapshots.length) by omega, hsnapshot]
  | call other commits rest ihCommits ihRest =>
      rw [heardFrom, List.mem_append, List.mem_append] at hentry
      rcases hentry with hentry | hentry | hentry
      · left
        by_cases hsame : other = listener
        · rw [if_pos hsame] at hentry
          exact ⟨by simp [told, hsame], by simpa using hentry⟩
        · simp [hsame] at hentry
      · rcases ihCommits hentry with ⟨hmem, -⟩ | ⟨hle, hsnapshot⟩
        · simp at hmem
        · obtain ⟨hlt, -⟩ := List.getElem?_eq_some_iff.mp hsnapshot
          right
          exact ⟨hle, by rw [snapshots, List.getElem?_append_left hlt, hsnapshot]⟩
      · rcases ihRest hentry with ⟨hmem, heq⟩ | ⟨hle, hsnapshot⟩
        · exact .inl ⟨by simp [told, hmem], heq⟩
        · right
          refine ⟨by omega, ?_⟩
          rw [snapshots, List.getElem?_append_right (by omega),
            show entry.1 - count - commits.snapshots.length =
              entry.1 - (count + commits.snapshots.length) by omega, hsnapshot]

theorem telling_mem_heardFrom {history : History level} (hmem : listener ∈ history.told) :
    telling ∈ heardFrom listener telling count history := by
  induction history generalizing telling count with
  | nothing => simp [told] at hmem
  | commit => simp at hmem
  | call other commits rest _ ihRest =>
      rw [heardFrom, List.mem_append, List.mem_append]
      rcases List.mem_cons.mp hmem with hhead | hrest
      · simp [hhead]
      · exact .inr (.inr (ihRest hrest))

/-- A listener that stays registered hears of every commit. -/
theorem mem_heardFrom_of_snapshot {history : History level}
    (hstays : history.StaysRegistered listener) {number : Nat} {rules : List Rule}
    (hsnapshot : history.snapshots[number]? = some rules) :
    (count + number, rules) ∈ heardFrom listener telling count history := by
  induction history generalizing telling count number with
  | nothing => simp [snapshots] at hsnapshot
  | commit committed calls rest ihCalls ihRest =>
      obtain ⟨hmem, hcalls, hrest⟩ := hstays
      rw [heardFrom, List.mem_append]
      cases number with
      | zero =>
          left
          have hcommitted : committed = rules := by simpa [snapshots] using hsnapshot
          rw [← hcommitted]
          exact telling_mem_heardFrom hmem
      | succ number =>
          rw [snapshots, List.getElem?_cons_succ] at hsnapshot
          by_cases hside : number < calls.snapshots.length
          · rw [List.getElem?_append_left hside] at hsnapshot
            left
            rw [show count + (number + 1) = count + 1 + number by omega]
            exact ihCalls hcalls hsnapshot
          · rw [List.getElem?_append_right (by omega)] at hsnapshot
            right
            rw [show count + (number + 1) = count + 1 + calls.snapshots.length +
              (number - calls.snapshots.length) by omega]
            exact ihRest hrest hsnapshot
  | call other commits rest ihCommits ihRest =>
      obtain ⟨hcommits, hrest⟩ := hstays
      rw [heardFrom, List.mem_append, List.mem_append]
      rw [snapshots] at hsnapshot
      by_cases hside : number < commits.snapshots.length
      · rw [List.getElem?_append_left hside] at hsnapshot
        exact .inr (.inl (ihCommits hcommits hsnapshot))
      · rw [List.getElem?_append_right (by omega)] at hsnapshot
        right
        right
        rw [show count + number = count + commits.snapshots.length +
          (number - commits.snapshots.length) by omega]
        exact ihRest hrest hsnapshot

/-! ## When the numbers never go down -/

/-- In a row of calls, what a call commits comes before the rest of the row, and the rest tells of
the earlier commit if the listener is in it. -/
theorem commits_le_rest_iff {commits : History .commits} {rest : History .calls}
    (hcount : telling.1 < count) (hstays : commits.StaysRegistered listener) :
    (∀ a ∈ heardFrom listener (0, []) count commits,
        ∀ b ∈ heardFrom listener telling (count + commits.snapshots.length) rest, a.1 ≤ b.1) ↔
      (listener ∈ rest.told → commits.snapshots = []) := by
  constructor
  · intro hle hmem
    cases hcommits : commits.snapshots with
    | nil => rfl
    | cons rules snapshots =>
        have hfirst : (count + 0, rules) ∈ heardFrom listener (0, []) count commits :=
          mem_heardFrom_of_snapshot hstays (by simp [hcommits])
        have hlate := hle _ hfirst telling (telling_mem_heardFrom hmem)
        simp only at hlate
        omega
  · intro hquiet a ha b hb
    rcases mem_heardFrom ha with ⟨hmem, -⟩ | ⟨hle, hsnapshot⟩
    · simp at hmem
    · obtain ⟨hlt, -⟩ := List.getElem?_eq_some_iff.mp hsnapshot
      rcases mem_heardFrom hb with ⟨hmem, -⟩ | ⟨hge, -⟩
      · rw [hquiet hmem] at hlt
        simp at hlt
      · omega

theorem heardFrom_ordered_iff {history : History level} (hcount : telling.1 < count)
    (hstays : history.StaysRegistered listener) :
    (heardFrom listener telling count history).Pairwise (fun a b => a.1 ≤ b.1) ↔
      history.Undisturbed listener := by
  induction history generalizing telling count with
  | nothing => simp [heardFrom, Undisturbed]
  | commit rules calls rest ihCalls ihRest =>
      obtain ⟨-, hcalls, hrest⟩ := hstays
      have hcountCalls : (count, rules).1 < count + 1 := Nat.lt_succ_self count
      have hcountRest : (0, ([] : List Rule)).1 < count + 1 + calls.snapshots.length := by
        simp only
        omega
      rw [heardFrom, List.pairwise_append, ihCalls hcountCalls hcalls, ihRest hcountRest hrest,
        Undisturbed]
      refine ⟨fun h => ⟨h.1, h.2.1⟩, fun h => ⟨h.1, h.2, ?_⟩⟩
      intro a ha b hb
      rcases mem_heardFrom hb with ⟨hmem, -⟩ | ⟨hge, -⟩
      · simp at hmem
      · rcases mem_heardFrom ha with ⟨-, rfl⟩ | ⟨hle, hsnapshot⟩
        · simp only
          omega
        · obtain ⟨hlt, -⟩ := List.getElem?_eq_some_iff.mp hsnapshot
          omega
  | call other commits rest ihCommits ihRest =>
      obtain ⟨hcommits, hrest⟩ := hstays
      have hhead : ∀ a ∈ (if other = listener then [telling] else []),
          ∀ b ∈ heardFrom listener (0, []) count commits ++
            heardFrom listener telling (count + commits.snapshots.length) rest, a.1 ≤ b.1 := by
        intro a ha b hb
        obtain rfl : a = telling := by
          by_cases hsame : other = listener <;> simp [hsame] at ha
          exact ha
        rcases List.mem_append.mp hb with hb | hb
        · rcases mem_heardFrom hb with ⟨hmem, -⟩ | ⟨hge, -⟩
          · simp at hmem
          · omega
        · rcases mem_heardFrom hb with ⟨-, rfl⟩ | ⟨hge, -⟩
          · exact Nat.le_refl _
          · omega
      have hsingle : (if other = listener then [telling] else []).Pairwise
          (fun a b => a.1 ≤ b.1) := by
        by_cases hsame : other = listener <;> simp [hsame]
      have hcountCommits : (0, ([] : List Rule)).1 < count := by
        simp only
        omega
      rw [heardFrom, List.pairwise_append, List.pairwise_append, ihCommits hcountCommits hcommits,
        ihRest (by omega) hrest, commits_le_rest_iff hcount hcommits, Undisturbed]
      constructor
      · rintro ⟨-, ⟨hfirst, hsecond, hquiet⟩, -⟩
        exact ⟨hquiet, hfirst, hsecond⟩
      · rintro ⟨hquiet, hfirst, hsecond⟩
        exact ⟨hsingle, ⟨hfirst, hsecond, hquiet⟩, hhead⟩

theorem hearsInOrder_iff {history : History .commits}
    (hstays : history.StaysRegistered listener) :
    history.HearsInOrder listener ↔ history.Undisturbed listener := by
  have hordered : (history.heard listener).Pairwise (fun a b => a.1 ≤ b.1) ↔
      history.Undisturbed listener :=
    heardFrom_ordered_iff (Nat.lt_succ_self 0) hstays
  constructor
  · intro horder
    exact hordered.mp horder.ordered
  · intro hquiet
    refine ⟨?_, hordered.mpr hquiet⟩
    intro number rules hsnapshot
    rw [Nat.add_comm]
    exact mem_heardFrom_of_snapshot hstays hsnapshot

/-! ## What is heard last -/

theorem filterMap_heardBy (history : History level) :
    (history.events telling.2).filterMap (Event.heardBy? listener) =
      (heardFrom listener telling count history).map Prod.snd := by
  induction history generalizing telling count with
  | nothing => rfl
  | commit rules calls rest ihCalls ihRest =>
      have hcalls := @ihCalls (count, rules) (count + 1)
      have hrest := @ihRest (0, []) (count + 1 + calls.snapshots.length)
      simp only at hcalls hrest
      simp only [events, heardFrom, List.filterMap_cons, Event.heardBy?, List.filterMap_append,
        hcalls, hrest, List.map_append]
  | call other commits rest ihCommits ihRest =>
      have hcommits := @ihCommits (0, []) count
      have hrest := @ihRest telling (count + commits.snapshots.length)
      simp only at hcommits
      by_cases hsame : other = listener <;>
        simp [events, heardFrom, Event.heardBy?, hcommits, hrest, hsame]

/-- Heard in order, the last thing heard is the last commit. -/
theorem HearsInOrder.getLast?_heard {history : History .commits}
    (horder : history.HearsInOrder listener) {rules : List Rule}
    (hlast : history.snapshots.getLast? = some rules) :
    ((history.heard listener).map Prod.snd).getLast? = some rules := by
  have hpos : 0 < history.snapshots.length := by
    rw [List.length_pos_iff]
    rintro hempty
    simp [hempty] at hlast
  have hsnapshot : history.snapshots[history.snapshots.length - 1]? = some rules := by
    rw [← List.getLast?_eq_getElem?, hlast]
  have hheard := horder.complete _ _ hsnapshot
  have hordered := horder.ordered
  rcases List.eq_nil_or_concat (history.heard listener) with hempty | ⟨before, entry, happend⟩
  · simp [hempty] at hheard
  · rw [happend, List.concat_eq_append] at hheard hordered
    have hentry : entry ∈ heardFrom listener (0, []) 1 history := by
      rw [← heard, happend]
      simp
    have hle : history.snapshots.length - 1 + 1 ≤ entry.1 := by
      rcases List.mem_append.mp hheard with hbefore | hsame
      · exact (List.pairwise_append.mp hordered).2.2 _ hbefore entry (by simp)
      · exact Nat.le_of_eq (congrArg Prod.fst (List.mem_singleton.mp hsame))
    rcases mem_heardFrom hentry with ⟨hmem, -⟩ | ⟨-, hentrySnapshot⟩
    · simp at hmem
    · obtain ⟨hlt, -⟩ := List.getElem?_eq_some_iff.mp hentrySnapshot
      rw [show entry.1 - 1 = history.snapshots.length - 1 by omega, hsnapshot] at hentrySnapshot
      rw [happend, List.concat_eq_append, List.map_append, List.map_singleton,
        List.getLast?_append]
      simpa using hentrySnapshot.symm

end History

theorem Performs.lastHeard?_eq {World : Type} {audience : Audience World}
    {operation : Operation} {s : Session World} {history : History .commits}
    {result : Except RuleError Unit × Session World}
    (hperforms : Performs audience operation s history result) {listener : Listener}
    (horder : history.HearsInOrder listener) (hcommits : history.snapshots ≠ []) :
    result.2.lastHeard? listener = some result.2.registry.rules := by
  have hlast : history.snapshots.getLast? = some result.2.registry.rules := by
    rw [hperforms.registry_rules_eq, History.rulesAfter, List.getLastD_eq_getLast?]
    rw [List.getLast?_eq_some_getLast hcommits]
    rfl
  have hheard := horder.getLast?_heard hlast
  rw [History.heard, ← History.filterMap_heardBy] at hheard
  rw [Session.lastHeard?, hperforms.events_eq, List.findSome?_append]
  rw [← List.head?_filterMap, List.filterMap_reverse, List.head?_reverse, hheard]
  rfl

/-- A listener that is registered at every commit of a change hears the snapshots in commit order
exactly if nobody who is told before it writes back, and then the last snapshot it has received is
what the registry holds. -/
theorem hears_in_commit_order_iff_undisturbed {World : Type} {audience : Audience World}
    {depth : Nat} {operation : Operation} {s : Session World}
    {result : Except RuleError Unit × Session World}
    (hperform : Session.perform audience depth operation s = some result) :
    (∃ history, Performs audience operation s history result) ∧
    ∀ history, Performs audience operation s history result →
      result.2.events = (history.events []).reverse ++ s.events ∧
      ∀ listener, history.StaysRegistered listener →
        (history.HearsInOrder listener ↔ history.Undisturbed listener) ∧
        (history.Undisturbed listener → history.snapshots ≠ [] →
          result.2.lastHeard? listener = some result.2.registry.rules) := by
  refine ⟨Session.performs_of_perform hperform, ?_⟩
  intro history hperforms
  refine ⟨hperforms.events_eq, ?_⟩
  intro listener hstays
  have horder := History.hearsInOrder_iff hstays
  refine ⟨horder, ?_⟩
  intro hquiet hcommits
  exact hperforms.lastHeard?_eq (horder.mpr hquiet) hcommits

/-! ## A listener and one that writes back -/

namespace Echo

def writer : Listener := .named ['w']

def watcher : Listener := .named ['o']

def firstRule : Rule := ⟨.host, ['a'], ['a']⟩

def secondRule : Rule := ⟨.path, ['b'], ['b']⟩

/-- The writer adds a rule when there is only one, and everyone else does nothing. -/
def audience : Audience Unit where
  hear listener rules _ _ :=
    if listener = writer ∧ rules.length < 2 then .change (.add secondRule) fun _ _ => .done
    else .done
  noteFailure _ _ world := world

def session (listeners : List Listener) : Session Unit := ⟨⟨[], listeners⟩, (), []⟩

/-- What happens when the watcher is in front of the writer. -/
def quietHistory : History .commits :=
  .commit [firstRule]
    (.call watcher .nothing
      (.call writer
        (.commit [firstRule, secondRule] (.call watcher .nothing (.call writer .nothing .nothing))
          .nothing)
        .nothing))
    .nothing

/-- In front of the writer the watcher hears both snapshots in order. -/
theorem watcher_in_front_hears_in_order :
    ∃ result, Session.perform audience 2 (.add firstRule) (session [watcher, writer]) =
        some result ∧
      Performs audience (.add firstRule) (session [watcher, writer]) quietHistory result ∧
      quietHistory.StaysRegistered watcher ∧
      quietHistory.HearsInOrder watcher ∧
      result.2.lastHeard? watcher = some result.2.registry.rules := by
  have hperforms : Performs audience (.add firstRule) (session [watcher, writer]) quietHistory _ :=
    .commit rfl (.call .done (.call (.commit rfl (.call .done (.call .done .nobody)) .done)
      .nobody))
  have hstays : quietHistory.StaysRegistered watcher := by
    simp [quietHistory, History.StaysRegistered, History.told]
  have hquiet : quietHistory.Undisturbed watcher := by
    simp [quietHistory, History.Undisturbed, History.told, History.snapshots]
  have hperform : Session.perform audience 2 (.add firstRule) (session [watcher, writer]) =
      some (.ok (), _) := rfl
  have hclaim := (hears_in_commit_order_iff_undisturbed hperform).2 _ hperforms
  obtain ⟨horder, hlast⟩ := hclaim.2 watcher hstays
  exact ⟨_, hperform, hperforms, hstays, horder.mpr hquiet,
    hlast hquiet (by simp [quietHistory, History.snapshots])⟩

/-- Behind the writer the watcher hears of the second commit first, and what it hears last is not
what the registry holds. -/
theorem watcher_behind_writer_hears_late :
    ∃ s', Session.perform audience 2 (.add firstRule) (session [writer, watcher]) =
        some (.ok (), s') ∧
      s'.registry.listeners = [writer, watcher] ∧
      s'.registry.rules = [firstRule, secondRule] ∧
      s'.events.reverse.filterMap (Event.heardBy? writer) =
        [[firstRule], [firstRule, secondRule]] ∧
      s'.events.reverse.filterMap (Event.heardBy? watcher) =
        [[firstRule, secondRule], [firstRule]] ∧
      s'.lastHeard? watcher ≠ some s'.registry.rules :=
  ⟨_, rfl, rfl, rfl, rfl, rfl, by decide⟩

end Echo

end HeaderAudit
