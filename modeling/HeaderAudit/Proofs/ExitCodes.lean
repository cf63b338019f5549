import HeaderAudit.Proofs.ReadingRuns

/-!
# Exit codes and the rule file

What the exit code of a run says about the rule file.  A run that fails leaves the disk as it was,
with one exception: a request is carried out and saved before its confirmation is printed, and an id
with a bracket may make a markup that cannot be shown.  A run that succeeds has changed the rules in
memory, and the file as well unless the log tells that the store failed.
-/

namespace HeaderAudit.CommandLine

variable {s : Setting} {path : Path} {rules : List Rule} {disk : Disk} {w : World}
  {request : RuleRequest}

/-! ## Commands that ask for nothing -/

namespace Process

variable {p : Process}

/-- The process asks for this of the rules in the file at the path. -/
def Asks (p : Process) (path : Path) (disk : Disk) (request : RuleRequest) : Prop :=
  ∃ choice, p.ChoosesAt path disk choice ∧
    requestOf? p.setting (RuleFile.load p.setting.env path (begin disk)).1 choice.command
      choice.behind = some request

/-- What is asked for is carried out if it fits the rules in the file, and else refused. -/
theorem Asks.cases (hasks : p.Asks path disk request) :
    (∃ rules before, (RuleFile.load p.setting.env path (begin disk)).2 = .ok rules ∧
      request.Fits rules ∧ before.disk = disk ∧
      before.log = (RuleFile.load p.setting.env path (begin disk)).1.log ∧
      (p.run disk).world = afterSave p.setting.env path (request.result rules) before ∧
      ((p.run disk).ending.code = 0 ↔ CanConfirm p.setting request rules)) ∨
    ((∀ rules, (RuleFile.load p.setting.env path (begin disk)).2 = .ok rules →
      ¬ request.Fits rules) ∧ (p.run disk).world.disk = disk ∧ (p.run disk).ending.code ≠ 0) := by
  obtain ⟨choice, hchooses, hrequest⟩ := hasks
  have hconcluded := (run_concluded path choice.command choice.behind (begin disk)).1 _ hrequest
  rw [hchooses.run_eq] at hconcluded
  -- the relation says what the world is, so the cases need a variable in its place
  generalize (p.run disk).world = w at hconcluded
  cases hconcluded with
  | carriedOut hload hfits hdisk hlog hcode =>
      exact .inl ⟨_, _, hload, hfits, hdisk, hlog, rfl, hcode⟩
  | refused hunfit hdisk hcode => exact .inr ⟨hunfit, hdisk, hcode⟩

theorem runRules_disk_or_asks {outer : Choice} {directory : Path}
    (houter : choose disk .main p.words = .ok outer) (hcommand : outer.command = .rules)
    (hdirectory : configDirectory p.setting outer.before = some directory) :
    (runRules p.setting (directory.child rulesFileName) outer.behind (begin disk)).1.disk = disk ∨
      ∃ request, p.Asks (directory.child rulesFileName) disk request := by
  unfold runRules
  rw [begin_disk]
  cases hchoice : choose disk .rules outer.behind with
  | error ended => exact .inl rfl
  | ok choice =>
      have hchooses : p.ChoosesAt (directory.child rulesFileName) disk choice :=
        ⟨outer, directory, houter, hcommand, hdirectory, rfl, hchoice⟩
      have hrun := @run_concluded p.setting (directory.child rulesFileName) choice.command
        choice.behind (begin disk)
      cases hrequest : requestOf? p.setting (RuleFile.load p.setting.env
          (directory.child rulesFileName) (begin disk)).1 choice.command choice.behind with
      | some request => exact .inr ⟨request, choice, hchooses, hrequest⟩
      | none => exact .inl (hrun.2 hrequest)

/-- A process that asks for nothing leaves the disk alone. -/
theorem run_disk_or_asks (p : Process) (disk : Disk) :
    (p.run disk).world.disk = disk ∨ ∃ path request, p.Asks path disk request := by
  cases houter : choose disk .main p.words with
  | error ended =>
      left
      rw [run_world_of_refused houter, begin_disk]
  | ok outer =>
      cases hdirectory : configDirectory p.setting outer.before with
      | none =>
          left
          rw [run_world_of_no_directory houter hdirectory, begin_disk]
      | some directory =>
          rw [run_world_of_choose houter hdirectory]
          rcases main_command_cases houter with hcommand | hcommand | hcommand
          · rw [hcommand]
            exact .inl (runAnalyze_onlyReads _ _ _).disk_eq
          · rw [hcommand]
            exact .inl (runChecks_onlyReads _ _).disk_eq
          · have hrules := runRules_disk_or_asks houter hcommand hdirectory
            rw [hcommand]
            exact hrules.imp_right fun hasks => ⟨_, hasks⟩

end Process

/-! ## A run that fails -/

variable {p : Process}

/-- A run that fails has changed the disk exactly if what it asked for was saved and the
confirmation cannot be printed.  A tag at fault keeps a confirmation from being printed, and only an
id with a bracket can have one. -/
theorem failed_run_changes_disk_iff (p : Process) (disk : Disk) :
    (((p.run disk).ending.code ≠ 0 ∧ (p.run disk).world.disk ≠ disk) ↔
      ∃ path request rules, p.Asks path disk request ∧
        (RuleFile.load p.setting.env path (Process.begin disk)).2 = .ok rules ∧
        request.Fits rules ∧ ¬ CanConfirm p.setting request rules ∧
        (RuleFile.save p.setting.env path (request.result rules) disk).1 ≠ disk) ∧
    ∀ request rules,
      (¬ Console.Markup.WellTagged p.setting.library (confirmation rules request) →
        ¬ CanConfirm p.setting request rules) ∧
      (¬ CanConfirm p.setting request rules → ∃ id ∈ request.id?, '[' ∈ id) := by
  refine ⟨⟨?_, ?_⟩, fun request rules => ⟨fun hfault hconfirm =>
    hfault (wellTagged_of_canConfirm hconfirm), fun hunshown => ?_⟩⟩
  · rintro ⟨hcode, hchanged⟩
    rcases p.run_disk_or_asks disk with hsame | ⟨path, request, hasks⟩
    · exact absurd hsame hchanged
    rcases hasks.cases with
      ⟨rules, before, hload, hfits, hdisk, -, hworld, hconfirmed⟩ | ⟨-, hsame, -⟩
    · rw [hworld, afterSave_disk, hdisk] at hchanged
      exact ⟨path, request, rules, hasks, hload, hfits, fun h => hcode (hconfirmed.mpr h), hchanged⟩
    · exact absurd hsame hchanged
  · rintro ⟨path, request, rules, hasks, hload, hfits, hunshown, hchanged⟩
    rcases hasks.cases with ⟨others, before, hothers, -, hdisk, -, hworld, hconfirmed⟩ | ⟨hunfit, -⟩
    · rw [hload, Except.ok.injEq] at hothers
      subst hothers
      rw [hworld, afterSave_disk, hdisk]
      exact ⟨fun h => hunshown (hconfirmed.mp h), hchanged⟩
    · exact absurd hfits (hunfit rules hload)
  · by_contra hplain
    refine hunshown (canConfirm_of_bracket_not_mem (fun id hid hbracket => hplain ⟨id, hid, hbracket⟩)
      rules)

/-! ## An id that closes a tag -/

namespace Bracket

def setting : Setting :=
  ⟨⟨⟨['/'], []⟩, ⟨['/'], []⟩, none, fun n => 'i' :: Text.ofNat n⟩, Diary.library, 80, []⟩

def rulesFile : Path := ⟨[], ["cfg", rulesFileName]⟩

def adding (id : Text) : Process :=
  ⟨setting, ["-c", "cfg", "rules", "add", "--id", id, "host", "example.com"]⟩

def blank : Disk := Disk.withStart []

theorem closing_tag_is_saved_and_not_shown :
    ((adding "[/x]").run blank).ending.code ≠ 0 ∧ blank.read rulesFile = .error .notFound ∧
      ((adding "[/x]").run blank).world.disk.read rulesFile =
        .ok (RuleFile.bytesOf [⟨.host, "example.com", "[/x]"⟩]) := by
  decide +kernel

end Bracket

/-! ## A rule added -/

theorem mem_log_afterSave_iff {env : Environment} :
    .listenerFailed .store none ∈ (afterSave env path rules w).log ↔
      .listenerFailed .store none ∈ w.log ∨ (RuleFile.save env path rules w.disk).2 ≠ .ok () := by
  unfold afterSave
  cases RuleFile.save env path rules w.disk with
  | mk disk' ended => cases ended <;> simp [World.note]

theorem listenerFailed_not_mem_log_load {env : Environment} (hlog : w.log = []) :
    .listenerFailed .store none ∉ (RuleFile.load env path w).1.log := by
  intro hfailed
  rcases RuleFile.load_log path w _ hfailed with hbefore | (⟨name, hname⟩ | ⟨faults, hfaults⟩)
  · simp [hlog] at hbefore
  · cases hname
  · cases hfaults

theorem Process.Asks.storable {rule : Rule} (hids : ∀ n, p.setting.env.idOf n ≠ [])
    (hasks : p.Asks path disk (.add rule)) (hfits : (RuleRequest.add rule).Fits rules) :
    rule.Storable := by
  obtain ⟨choice, -, hrequest⟩ := hasks
  refine ⟨id_ne_nil_of_requestOf?_add hids hrequest, ?_⟩
  intro hpattern
  have hblank := hfits.1
  rw [hpattern] at hblank
  cases hblank

/-- When the adding of a rule ends well, the log tells whether saving failed.  If it did not, the rule
is loaded from the file behind those that were there, as far as the file may be read; a file that may
be written but not read gives no rules, which is noted. -/
theorem added_rule_is_loaded_or_failure_noted {rule : Rule}
    (hids : ∀ n, p.setting.env.idOf n ≠ []) (hasks : p.Asks path disk (.add rule))
    (hcode : (p.run disk).ending.code = 0) :
    ∃ rules, (RuleFile.load p.setting.env path (Process.begin disk)).2 = .ok rules ∧
      (.listenerFailed .store none ∈ (p.run disk).world.log ↔
        (RuleFile.save p.setting.env path (rules ++ [rule]) disk).2 ≠ .ok ()) ∧
      (.listenerFailed .store none ∉ (p.run disk).world.log →
        RuleFile.ReadsBack (rules ++ [rule]) →
        ∀ w : World, w.disk = (p.run disk).world.disk →
          (RuleFile.Readable p.setting.env path w.disk →
            RuleFile.load p.setting.env path w = (w, .ok (rules ++ [rule]))) ∧
          (¬ RuleFile.Readable p.setting.env path w.disk →
            ∃ file, path.expandHome p.setting.env.home = some file ∧
              RuleFile.load p.setting.env path w =
                (w.note (.rulesUnreadable file.toText), .ok []))) := by
  rcases hasks.cases with ⟨rules, before, hload, hfits, hdisk, hlog, hworld, -⟩ | ⟨-, -, hfailed⟩
  · have hnoted : .listenerFailed .store none ∈ (p.run disk).world.log ↔
        (RuleFile.save p.setting.env path (rules ++ [rule]) disk).2 ≠ .ok () := by
      have hclean : .listenerFailed .store none ∉ before.log := by
        rw [hlog]
        exact listenerFailed_not_mem_log_load rfl
      rw [hworld, mem_log_afterSave_iff, hdisk]
      simp [hclean, RuleRequest.result]
    refine ⟨rules, hload, hnoted, ?_⟩
    intro hunnoted hreads w hw
    have hsave : (RuleFile.save p.setting.env path (rules ++ [rule]) disk).2 = .ok () := by
      by_contra hne
      exact hunnoted (hnoted.mpr hne)
    have hstorable : ∀ other ∈ rules ++ [rule], other.Storable := by
      intro other hother
      rcases List.mem_append.mp hother with hold | hnew
      · exact RuleFile.load_storable hids path _ rules hload other hold
      · rw [List.mem_singleton.mp hnew]
        exact hasks.storable hids hfits
    rw [hworld, afterSave_disk, hdisk, RuleRequest.result] at hw
    refine ⟨fun hreadable => ?_, RuleFile.load_of_not_readable hsave hw⟩
    rw [hw] at hreadable
    have hcontains := RuleFile.contains_save hsave hreadable
    rw [← hw] at hcontains
    exact RuleFile.load_of_contains hcontains hreads hstorable
  · exact absurd hcode hfailed

namespace Diary

theorem added_rule_is_loaded :
    (∀ n, adding.setting.env.idOf n ≠ []) ∧ adding.Asks rulesFile blank (.add added) ∧
      (adding.run blank).ending.code = 0 ∧ RuleFile.ReadsBack [added] ∧
      RuleFile.Readable setting.env rulesFile once ∧
      RuleFile.load setting.env rulesFile (Process.begin once) =
        (Process.begin once, .ok [added]) := by
  have hids : ∀ n, adding.setting.env.idOf n ≠ [] := fun n => List.cons_ne_nil 'i' (Text.ofNat n)
  have hasks : adding.Asks rulesFile blank (.add added) :=
    ⟨addChoice, adding_choosesAt blank,
      requestOf?_add_named (by decide) (by decide +kernel) (by decide)⟩
  have hcode : (adding.run blank).ending.code = 0 := by decide +kernel
  have hreads : RuleFile.ReadsBack [added] := by decide +kernel
  have hunnoted : .listenerFailed .store none ∉ (adding.run blank).world.log := by decide +kernel
  have hempty :
      (RuleFile.load setting.env rulesFile (Process.begin blank)).2.toOption = some [] := by
    decide +kernel
  obtain ⟨rules, hload, -, hloaded⟩ := added_rule_is_loaded_or_failure_noted hids hasks hcode
  have hrules : rules = [] := by
    have hload : (RuleFile.load setting.env rulesFile (Process.begin blank)).2 = .ok rules := hload
    rw [hload] at hempty
    exact Option.some.inj hempty
  subst hrules
  have hthere : (once.read rulesFile).toOption = some (RuleFile.bytesOf [added]) := by
    decide +kernel
  have hreadable : RuleFile.Readable adding.setting.env rulesFile once :=
    ⟨rulesFile, _, rfl, eq_ok_of_toOption hthere⟩
  exact ⟨hids, hasks, hcode, hreads, hreadable,
    (hloaded hunnoted hreads (Process.begin once) rfl).1 hreadable⟩

end Diary

/-- A directory is where the rules should be. -/
def Bracket.blocked : Disk :=
  ⟨[(["cfg"], .directory), (["cfg", rulesFileName], .directory)], [], []⟩

/-- The file of the rules may be written but not read; it has a rule. -/
def Bracket.sealed : Disk :=
  ⟨[(["cfg"], .directory),
    (["cfg", rulesFileName], .file ⟨0o200, RuleFile.bytesOf [⟨.path, "/old", "o"⟩]⟩)], [],
    [(["cfg", rulesFileName], .writeOnly)]⟩

/-- The rule is not saved, or it takes the place of another and cannot be read. -/
theorem Bracket.unsaved_rule_is_reported_added :
    ((adding "r").run blocked).ending.code = 0 ∧
      (RuleFile.load setting.env rulesFile
        (Process.begin ((adding "r").run blocked).world.disk)).2.toOption = some [] ∧
      ((adding "r").run sealed).ending.code = 0 ∧
      .listenerFailed .store none ∉ ((adding "r").run sealed).world.log ∧
      ((adding "r").run sealed).world.disk.node? ["cfg", rulesFileName] =
        some (.file ⟨0o200, RuleFile.bytesOf [⟨.host, "example.com", "r"⟩]⟩) ∧
      (RuleFile.load setting.env rulesFile
        (Process.begin ((adding "r").run sealed).world.disk)).2.toOption = some [] := by
  decide +kernel

end HeaderAudit.CommandLine
