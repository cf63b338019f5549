import HeaderAudit.Proofs.RuleRuns

/-!
# Runs that only read

The commands that judge a response, list the rules or list the checks open the store on the rule
file like those that change it, and from then on the store listens to the registry.  But the rules
of the file are in the registry before the store listens, and these commands change nothing
afterwards.  So nothing is ever told to the store: whatever the file holds and however the run
ends, the disk stays as it was, and the log says nothing about saving.
-/

namespace HeaderAudit

/-- The store has heard of rules, and has saved them or has failed to. -/
def LogEntry.TellsOfSaving : LogEntry → Prop
  | .rulesSaved .. | .listenerFailed .store _ => True
  | _ => False

namespace World

/-- From one world to a later one nothing is saved: the disk is the same, and no new entry of the
log tells of saving. -/
structure OnlyReads (before after : World) : Prop where
  disk_eq : after.disk = before.disk
  log_silent : ∀ line ∈ after.log, line ∈ before.log ∨ ¬ line.TellsOfSaving

theorem OnlyReads.refl (w : World) : OnlyReads w w := ⟨rfl, fun _ hline => .inl hline⟩

theorem OnlyReads.trans {w w' w'' : World} (hfirst : OnlyReads w w') (hthen : OnlyReads w' w'') :
    OnlyReads w w'' := by
  refine ⟨hthen.disk_eq.trans hfirst.disk_eq, ?_⟩
  intro line hline
  rcases hthen.log_silent line hline with hold | hsilent
  · exact hfirst.log_silent line hold
  · exact .inr hsilent

theorem onlyReads_note {entry : LogEntry} (hentry : ¬ entry.TellsOfSaving) (w : World) :
    OnlyReads w (w.note entry) := by
  refine ⟨rfl, ?_⟩
  intro line hline
  rcases RuleFile.mem_log_note hline with hold | rfl
  · exact .inl hold
  · exact .inr hentry

theorem onlyReads_foldl_note {entries : List LogEntry}
    (hentries : ∀ entry ∈ entries, ¬ entry.TellsOfSaving) (w : World) :
    OnlyReads w (entries.foldl (fun w entry => w.note entry) w) := by
  induction entries generalizing w with
  | nil => exact .refl w
  | cons entry rest ih =>
      rw [List.forall_mem_cons] at hentries
      exact (onlyReads_note hentries.1 w).trans (ih hentries.2 _)

end World

open World (OnlyReads)

theorem RuleFile.onlyReads_load (env : Environment) (path : Path) (w : World) :
    OnlyReads w (load env path w).1 := by
  refine ⟨load_disk path w, ?_⟩
  intro line hline
  rcases load_log path w line hline with hold | (⟨name, rfl⟩ | ⟨faults, rfl⟩)
  · exact .inl hold
  · exact .inr id
  · exact .inr id

namespace CommandLine

variable {s : Setting} {path : Path} {disk : Disk} {w : World}

/-! ## The commands -/

/-- Opening the store only reads, so a command only reads if it does once the store is open. -/
theorem withStore_onlyReads {act : OpenStore → World × Ended}
    (hact : ∀ rules w', OnlyReads w' (act (openOn path rules w')).1) :
    OnlyReads w (RulesCommand.withStore s path act w).1 := by
  have hread := RuleFile.onlyReads_load s.env path w
  cases hload : RuleFile.load s.env path w with
  | mk w' loaded =>
      rw [hload] at hread
      cases loaded with
      | ok rules =>
          rw [withStore_of_load_ok hload]
          exact hread.trans (hact rules w')
      | error cause =>
          rw [withStore_of_load_error hload]
          exact hread

/-- Only the checks that failed are noted once the store is open, and it is detached first. -/
theorem analyzeHead_onlyReads (line : Words) (head : Headers) (rules : List Rule) (w : World) :
    OnlyReads w (analyzeHead s line head (openOn path rules w)).1 := by
  refine World.onlyReads_foldl_note ?_ w
  intro entry hentry
  obtain ⟨⟨check, e⟩, -, rfl⟩ := List.mem_map.mp hentry
  exact id

theorem runAnalyze_onlyReads (usual : Path) (words : List Text) (w : World) :
    OnlyReads w (runAnalyze s usual words w).1 := by
  unfold runAnalyze
  cases readLine w.disk s.input .analyze words with
  | error ended => exact .refl w
  | ok line =>
      simp only
      split
      · exact .refl w
      · cases exclusionsPath s usual line with
        | none => exact .refl w
        | some path => exact withStore_onlyReads (analyzeHead_onlyReads line _)

theorem runChecks_onlyReads (words : List Text) (w : World) :
    OnlyReads w (runChecks s words w).1 := by
  unfold runChecks
  split
  · exact .refl w
  · split <;> exact .refl w

theorem list_onlyReads (line : Words) (rules : List Rule) (w : World) :
    OnlyReads w (RulesCommand.list s line (openOn path rules w)).1 := by
  unfold RulesCommand.list openOn
  simp only
  split
  · exact .refl w
  · split <;> exact .refl w

theorem run_rulesList_onlyReads (path : Path) (words : List Text) (w : World) :
    OnlyReads w (RulesCommand.run s path .rulesList words w).1 := by
  rw [RulesCommand.run, if_neg (by decide)]
  cases readLine w.disk s.input .rulesList words with
  | error ended => exact .refl w
  | ok line => exact withStore_onlyReads (list_onlyReads line)

/-! ## The command that is run -/

theorem command_mem_of_choose {group : Command} {words : List Text} {choice : Choice}
    (hchoose : choose disk group words = .ok choice) :
    choice.command ∈ group.members.map Prod.snd := by
  unfold choose at hchoose
  by_cases hwords : words.isEmpty
  · simp [hwords] at hchoose
  · rw [if_neg hwords] at hchoose
    cases hvalues : readValues disk [] group words with
    | error ended => simp [hvalues, bind, Except.bind] at hchoose
    | ok given =>
        simp only [hvalues, bind, Except.bind] at hchoose
        cases hrest : given.rest with
        | nil => simp [hrest, refuse] at hchoose
        | cons name behind =>
            simp only [hrest] at hchoose
            cases hname : group.members.lookup name with
            | some command =>
                simp only [hname, Except.ok.injEq] at hchoose
                obtain ⟨front, rear, hmembers, -⟩ := List.lookup_eq_some_iff.mp hname
                rw [← hchoose, hmembers]
                simp
            | none =>
                simp only [hname, refuse] at hchoose
                by_cases hoption : Words.isOption name
                · cases hagain : readValues disk [] group (name :: behind) <;>
                    simp [hoption, hagain] at hchoose
                · simp [hoption] at hchoose

/-- The command has no business with the rules in the file but to look at them. -/
def Command.isReader : Command → Bool
  | .analyze | .checks | .rulesList => true
  | _ => false

namespace Process

/-- The command that the words choose, if they choose one. -/
def command? (p : Process) (disk : Disk) : Option Command :=
  match choose disk .main p.words with
  | .error _ => none
  | .ok outer =>
    if outer.command = .rules then (choose disk .rules outer.behind).toOption.map (·.command)
    else some outer.command

variable {p : Process}

theorem run_world_of_choose {outer : Choice} {directory : Path}
    (houter : choose disk .main p.words = .ok outer)
    (hdirectory : configDirectory p.setting outer.before = some directory) :
    (p.run disk).world = (runCommand p.setting (directory.child rulesFileName) outer.command
      outer.behind (begin disk)).1 := by
  unfold run CommandLine.run
  rw [begin_disk, houter]
  simp only [hdirectory]

/-- Nothing is done as long as no command is chosen or no place for the rules is known. -/
theorem run_world_of_no_directory {outer : Choice} (houter : choose disk .main p.words = .ok outer)
    (hdirectory : configDirectory p.setting outer.before = none) :
    (p.run disk).world = begin disk := by
  unfold run CommandLine.run
  rw [begin_disk, houter]
  simp only [hdirectory]

theorem run_world_of_refused {ended : Ended} (houter : choose disk .main p.words = .error ended) :
    (p.run disk).world = begin disk := by
  unfold run CommandLine.run
  rw [begin_disk, houter]

theorem main_command_cases {outer : Choice} (houter : choose disk .main p.words = .ok outer) :
    outer.command = .analyze ∨ outer.command = .checks ∨ outer.command = .rules := by
  simpa [Command.members] using command_mem_of_choose houter

theorem runRules_onlyReads {outer : Choice} (houter : choose disk .main p.words = .ok outer)
    (hrules : outer.command = .rules) (hreader : ∀ command ∈ p.command? disk, command.isReader)
    (path : Path) :
    OnlyReads (begin disk) (runRules p.setting path outer.behind (begin disk)).1 := by
  unfold runRules
  rw [begin_disk]
  cases hchoice : choose disk .rules outer.behind with
  | error ended => exact .refl _
  | ok choice =>
      have hcommand : choice.command ∈ p.command? disk := by
        simp [command?, houter, hrules, hchoice, Except.toOption]
      have hmember : choice.command ∈ Command.rules.members.map Prod.snd :=
        command_mem_of_choose hchoice
      have hlist : choice.command = .rulesList := by
        have hread := hreader _ hcommand
        revert hread hmember
        cases choice.command <;> simp [Command.members, Command.isReader]
      simp only [hlist]
      exact run_rulesList_onlyReads path choice.behind (begin disk)

theorem run_onlyReads (hreader : ∀ command ∈ p.command? disk, command.isReader) :
    OnlyReads (begin disk) (p.run disk).world := by
  cases houter : choose disk .main p.words with
  | error ended =>
      rw [run_world_of_refused houter]
      exact .refl _
  | ok outer =>
      cases hdirectory : configDirectory p.setting outer.before with
      | none =>
          rw [run_world_of_no_directory houter hdirectory]
          exact .refl _
      | some directory =>
          rw [run_world_of_choose houter hdirectory]
          rcases main_command_cases houter with hcommand | hcommand | hcommand
          · rw [hcommand]
            exact runAnalyze_onlyReads _ _ _
          · rw [hcommand]
            exact runChecks_onlyReads _ _
          · have hrules := runRules_onlyReads houter hcommand hreader
            rw [hcommand]
            exact hrules _

/-- A run that judges a response, lists the rules or lists the checks leaves the disk as it was,
whatever is on it and however the run ends, and the store is never told to save. -/
theorem reading_run_saves_nothing (p : Process) (disk : Disk)
    (hreader : ∀ command ∈ p.command? disk, command.isReader) :
    (p.run disk).world.disk = disk ∧ ∀ line ∈ (p.run disk).world.log, ¬ line.TellsOfSaving := by
  obtain ⟨hdisk, hlog⟩ := run_onlyReads hreader
  refine ⟨hdisk, ?_⟩
  intro line hline
  rcases hlog line hline with hbefore | hsilent
  · cases hbefore
  · exact hsilent

end Process

/-! ## A file with an entry that has no id -/

namespace Patchwork

def setting : Setting :=
  ⟨⟨⟨['/'], []⟩, ⟨['/'], []⟩, none, fun n => 'i' :: Text.ofNat n⟩, Diary.library, 80,
    Text.encodeUtf8 "Set-Cookie: a=b\n"⟩

/-- The rules in a file by its name, for a request to the host in the first of them. -/
def analyzing : Process :=
  ⟨setting, ["analyze", "-", "--exclusions", "/r", "--url", "http://a.example/"]⟩

/-- An entry without an id, one with a number for an id, and one with an unknown kind. -/
def content : Text :=
  "- {type: host, pattern: a.example}\n- {id: 7, type: path, pattern: /b}\n- {type: query}\n"

def patched : Disk := ⟨[(["r"], .file ⟨Disk.ownerOnly, Text.encodeUtf8 content⟩)], [], []⟩

theorem made_up_id_is_not_saved :
    analyzing.command? patched = some .analyze ∧ (analyzing.run patched).ending.code = 0 ∧
      (analyzing.run patched).world.idsMade = 1 ∧ (analyzing.run patched).world.disk = patched ∧
      ∀ line ∈ (analyzing.run patched).world.log, ¬ line.TellsOfSaving := by
  have hcommand : analyzing.command? patched = some .analyze := by decide +kernel
  have hcode : (analyzing.run patched).ending.code = 0 := by decide +kernel
  have hmade : (analyzing.run patched).world.idsMade = 1 := by decide +kernel
  refine ⟨hcommand, hcode, hmade, analyzing.reading_run_saves_nothing patched ?_⟩
  rw [hcommand]
  rintro command ⟨⟩
  rfl

end Patchwork

end CommandLine

end HeaderAudit
