import HeaderAudit.Proofs.ExitCodes

/-!
# Rules that a command writes

A rule is looked at before a command saves it, and its entry is looked at again when the file is
loaded.  A new rule passes both: its pattern must not be blank, and an id is made up if it has none.
But an update takes any pattern.  So a rule can be updated to an empty pattern, and then its entry
is refused by the next load, which leaves the rule out.
-/

namespace HeaderAudit

namespace RuleRequest

variable {request : RuleRequest} {rules : List Rule} {rule : Rule}

/-- The rule that comes to stand in the file, unless the request only takes rules away. -/
def rule? : RuleRequest → Option Rule
  | .add rule | .update rule => some rule
  | .remove _ | .clear => none

theorem mem_result_of_fits (hrule : request.rule? = some rule) (hfits : request.Fits rules) :
    rule ∈ request.result rules := by
  cases request with
  | add new =>
      cases hrule
      exact List.mem_append_right _ List.mem_cons_self
  | update new =>
      cases hrule
      exact Registry.mem_replaceFirst_self hfits
  | remove id => cases hrule
  | clear => cases hrule

/-- What is there after the request is the rule that it writes, or was there before. -/
theorem mem_result (hrule : request.rule? = some rule) {other : Rule}
    (hother : other ∈ request.result rules) : other = rule ∨ other ∈ rules := by
  cases request with
  | add new =>
      cases hrule
      rcases List.mem_append.mp hother with hold | hnew
      · exact .inr hold
      · exact .inl (List.mem_singleton.mp hnew)
  | update new =>
      cases hrule
      exact Registry.mem_replaceFirst hother
  | remove id => cases hrule
  | clear => cases hrule

end RuleRequest

namespace CommandLine

variable {p : Process} {path : Path} {disk : Disk} {request : RuleRequest} {rules : List Rule}
  {rule : Rule}

/-- What the process asks for fits the rules in the file, and what comes of them has been saved in a
file that may be read. -/
structure Process.Saves (p : Process) (path : Path) (disk : Disk) (request : RuleRequest)
    (rules : List Rule) : Prop where
  asks : p.Asks path disk request
  loaded : (RuleFile.load p.setting.env path (Process.begin disk)).2 = .ok rules
  fits : request.Fits rules
  saved : (RuleFile.save p.setting.env path (request.result rules) disk).2 = .ok ()
  readable : RuleFile.Readable p.setting.env path (p.run disk).world.disk

namespace Process.Saves

theorem contains (hsaves : p.Saves path disk request rules) :
    RuleFile.Contains p.setting.env path (request.result rules) (p.run disk).world.disk := by
  rcases hsaves.asks.cases with ⟨others, before, hothers, -, hdisk, -, hworld, -⟩ | ⟨hunfit, -⟩
  · rw [hsaves.loaded, Except.ok.injEq] at hothers
    subst hothers
    have hreadable := hsaves.readable
    rw [hworld, afterSave_disk, hdisk] at hreadable ⊢
    exact RuleFile.contains_save hsaves.saved hreadable
  · exact absurd hsaves.fits (hunfit rules hsaves.loaded)

/-- A rule that is written has an id: a new one is given one, and an old one was loaded with it. -/
theorem id_ne_nil (hids : ∀ n, p.setting.env.idOf n ≠ []) (hsaves : p.Saves path disk request rules)
    (hrule : request.rule? = some rule) : rule.id ≠ [] := by
  cases request with
  | add new =>
      cases hrule
      exact (hsaves.asks.storable hids hsaves.fits).id_ne_nil
  | update new =>
      cases hrule
      obtain ⟨old, hold, hid⟩ := List.mem_map.mp hsaves.fits
      rw [← hid]
      exact (RuleFile.load_storable hids path _ rules hsaves.loaded old hold).id_ne_nil
  | remove id => cases hrule
  | clear => cases hrule

end Process.Saves

/-- When a command has saved a rule, the next load gives the rules that were saved but for those
without a pattern.  So the rule is loaded with its id, kind and pattern, and no rule is lost,
exactly if its pattern is not empty; the pattern of an added rule never is. -/
theorem written_rule_is_loaded_iff (hids : ∀ n, p.setting.env.idOf n ≠ [])
    (hsaves : p.Saves path disk request rules) (hrule : request.rule? = some rule)
    (hreads : RuleFile.ReadsBack (request.result rules)) {later : Environment} {place : Path}
    (hplace : place.expandHome later.home = path.expandHome p.setting.env.home) {w : World}
    (hdisk : w.disk = (p.run disk).world.disk) :
    ∃ loaded, (RuleFile.load later place w).2 = .ok loaded ∧
      loaded = (request.result rules).filter (fun written => written.pattern ≠ []) ∧
      rule ∈ request.result rules ∧
      (rule ∈ loaded ↔ rule.pattern ≠ []) ∧
      (loaded = request.result rules ↔ rule.pattern ≠ []) ∧
      (request = .add rule → rule.pattern ≠ []) := by
  have hstorable := RuleFile.load_storable hids path _ rules hsaves.loaded
  have hwritten : rule ∈ request.result rules := RuleRequest.mem_result_of_fits hrule hsaves.fits
  have hnamed : ∀ other ∈ request.result rules, other.id ≠ [] := by
    intro other hother
    rcases RuleRequest.mem_result hrule hother with rfl | hold
    · exact hsaves.id_ne_nil hids hrule
    · exact (hstorable other hold).id_ne_nil
  have hcontains : RuleFile.Contains later place (request.result rules) w.disk := by
    obtain ⟨file, hfile, hthere⟩ := hsaves.contains
    rw [hdisk]
    exact ⟨file, hplace.trans hfile, hthere⟩
  refine ⟨_, congrArg Prod.snd (RuleFile.load_contained hcontains hreads hnamed), rfl, hwritten,
    ?_, ?_, ?_⟩
  · simp [RuleFile.withPattern, hwritten]
  · constructor
    · intro hsame
      rw [← hsame, RuleFile.withPattern, List.mem_filter, decide_eq_true_eq] at hwritten
      exact hwritten.2
    · intro hpattern
      apply RuleFile.withPattern_eq_self
      intro other hother
      rcases RuleRequest.mem_result hrule hother with rfl | hold
      · exact hpattern
      · exact (hstorable other hold).pattern_ne_nil
  · rintro rfl
    exact (hsaves.asks.storable hids hsaves.fits).pattern_ne_nil

namespace Diary

theorem updating_saves : updating.Saves rulesFile once (.update updated) [added] := by
  have hload : (RuleFile.load setting.env rulesFile (Process.begin once)).2.toOption =
      some [added] := by decide +kernel
  have hsave : (RuleFile.save setting.env rulesFile [updated] once).2.toOption = some () := by
    decide +kernel
  have hthere : (twice.read rulesFile).toOption = some (RuleFile.bytesOf [updated]) := by
    decide +kernel
  refine ⟨⟨updateChoice, updating_choosesAt once,
    requestOf?_update (by decide +kernel) (.plainly (by decide))⟩, ?_, ?_, ?_, ?_⟩
  · exact eq_ok_of_toOption hload
  · simp [RuleRequest.Fits, added, updated]
  · exact eq_ok_of_toOption hsave
  · exact ⟨rulesFile, _, rfl, eq_ok_of_toOption hthere⟩

theorem updated_rule_is_loaded :
    (∀ n, updating.setting.env.idOf n ≠ []) ∧
      updating.Saves rulesFile once (.update updated) [added] ∧ RuleFile.ReadsBack [updated] ∧
      twice = (updating.run once).world.disk ∧
      ∃ loaded, (RuleFile.load setting.env rulesFile (Process.begin twice)).2 = .ok loaded ∧
        updated ∈ loaded := by
  have hids : ∀ n, updating.setting.env.idOf n ≠ [] := fun n => List.cons_ne_nil 'i' (Text.ofNat n)
  have hreads : RuleFile.ReadsBack [updated] := by decide +kernel
  obtain ⟨loaded, hload, -, -, hmem, -⟩ := written_rule_is_loaded_iff hids updating_saves rfl
    hreads rfl (Process.begin_disk twice)
  exact ⟨hids, updating_saves, hreads, rfl, loaded, hload, hmem.mpr (by decide)⟩

/-- The rule is updated to a pattern with nothing in it. -/
def emptying : Process := ⟨setting, ["rules", "update", "r", "host", ""]⟩

theorem emptied_rule_is_saved_and_not_loaded :
    (emptying.run once).ending.code = 0 ∧
      (emptying.run once).world.disk.read rulesFile = .ok (RuleFile.bytesOf [⟨.host, [], "r"⟩]) ∧
      (RuleFile.load setting.env rulesFile
        (Process.begin (emptying.run once).world.disk)).2.toOption = some [] := by
  decide +kernel

end Diary

end CommandLine

end HeaderAudit
