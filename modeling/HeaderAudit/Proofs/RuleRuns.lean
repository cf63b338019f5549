import HeaderAudit.CommandLine.Run
import HeaderAudit.Proofs.RuleCommands
import HeaderAudit.Proofs.RuleWords

/-!
# Runs of the program on one rule file

Nothing but the file leads from one run of the program to the next.  The file is absent at first; a
command on rules opens the store on it and answers its request, if it makes one.  However many runs
there are, the file holds the list that the requests make of the empty list in memory, as long as
YAML reads what it has written.
-/

namespace HeaderAudit.CommandLine

variable {s : Setting} {path file : Path} {rules : List Rule} {disk start : Disk} {w : World}
  {request : RuleRequest}

/-! ## One command -/

theorem runClear_concluded (path : Path) (words : List Text) (w : World) :
    (∀ request, requestOf? s (RuleFile.load s.env path w).1 .rulesClear words = some request →
      Concluded s path request w (RulesCommand.runClear s path words w)) ∧
    (requestOf? s (RuleFile.load s.env path w).1 .rulesClear words = none →
      (RulesCommand.runClear s path words w).1.disk = w.disk) := by
  unfold requestOf? RulesCommand.runClear
  rw [if_pos rfl, RuleFile.load_disk]
  cases hline : readValues w.disk s.input .rulesClear words with
  | error ended => simp
  | ok line =>
      cases hconsent : RulesCommand.consent s line with
      | error ended => simp [hconsent]
      | ok printed =>
          cases hextra : line.extraMisuse? .rulesClear with
          | some misuse => simp [hconsent, hextra]
          | none =>
              simp only [hconsent, hextra]
              refine ⟨?_, by simp⟩
              rintro request hrequest
              cases hrequest
              exact clear_concluded.after printed

/-- A command that requests something of the rules in the file concludes the request; another leaves
the disk alone. -/
theorem run_concluded (path : Path) (command : Command) (words : List Text) (w : World) :
    (∀ request, requestOf? s (RuleFile.load s.env path w).1 command words = some request →
      Concluded s path request w (RulesCommand.run s path command words w)) ∧
    (requestOf? s (RuleFile.load s.env path w).1 command words = none →
      (RulesCommand.run s path command words w).1.disk = w.disk) := by
  by_cases hclear : command = .rulesClear
  · subst hclear
    rw [RulesCommand.run, if_pos rfl]
    exact runClear_concluded path words w
  · unfold requestOf? RulesCommand.run
    rw [if_neg hclear, if_neg hclear, RuleFile.load_disk]
    cases hline : readLine w.disk s.input command words with
    | error ended => simp
    | ok line =>
        have hlist : (RulesCommand.withStore s path (RulesCommand.list s line) w).1.disk = w.disk :=
          withStore_disk (fun rules w' => by
            unfold RulesCommand.list openOn
            simp only
            split
            · rfl
            · split <;> rfl)
        cases command with
        | rulesAdd =>
            have hkind := ruleKind?_of_readLine (n := 0) hline rfl
            simp only [requestedBy?, hkind, Option.map_some]
            refine ⟨?_, by simp⟩
            rintro request hrequest
            cases hrequest
            by_cases hblank : Text.blank (line.argument 1) = true
            · rw [if_pos hblank]
              refine .refused ?_ rfl (by decide)
              intro rules _ hfits
              simp [hblank, RuleRequest.Fits] at hfits
            · rw [if_neg hblank]
              rw [Bool.not_eq_true] at hblank
              exact add_concluded hblank
        | rulesUpdate =>
            have hkind := ruleKind?_of_readLine (n := 1) hline rfl
            simp only [requestedBy?, hkind, Option.map_some]
            refine ⟨?_, by simp⟩
            rintro request hrequest
            cases hrequest
            exact update_concluded line
        | rulesRemove =>
            simp only [requestedBy?]
            refine ⟨?_, by simp⟩
            rintro request hrequest
            cases hrequest
            exact remove_concluded line
        | rulesClear => exact absurd rfl hclear
        | _ => simp [requestedBy?, hlist]

/-- On a file that stands for the rules, a command that requests something answers the request;
another leaves the disk alone. -/
theorem run_spec (hfile : path.expandHome s.env.home = some file)
    (hstands : StandsFor file rules w.disk) (hreads : RuleFile.ReadsBack rules)
    (command : Command) (words : List Text) :
    (∀ request, requestOf? s w command words = some request → request.Admissible →
      Answered file request rules w.disk (RulesCommand.run s path command words w)) ∧
    (requestOf? s w command words = none →
      (RulesCommand.run s path command words w).1.disk = w.disk) := by
  have hload : RuleFile.load s.env path w = (w, .ok rules) :=
    load_of_holds hfile hstands.holds hreads hstands.storable
  obtain ⟨hconcluded, hnone⟩ := @run_concluded s path command words w
  rw [hload] at hconcluded hnone
  refine ⟨?_, hnone⟩
  intro request hrequest hadmissible
  exact (hconcluded request hrequest).answered hadmissible hfile hstands hreads

theorem StandsFor.answered (hstands : StandsFor file rules disk) (hadmissible : request.Admissible)
    {result : World × Ended} (hanswered : Answered file request rules disk result) :
    StandsFor file (request.after rules) result.1.disk := by
  unfold RuleRequest.after
  cases hanswered with
  | @accepted changed w ended hanswer hdeposit hthere hcode =>
      rw [hanswer, Option.getD_some]
      refine ⟨.inr hthere, ?_, ?_, ?_⟩
      · intro others
        obtain ⟨again, hagain, hkept⟩ :=
          Disk.exists_deposit_of_deposit hdeposit (RuleFile.bytesOf others)
        exact ⟨again, hagain, hkept hthere⟩
      · obtain ⟨hfits, rfl⟩ := (RuleRequest.answer?_eq_some_iff hstands.nodup).mp hanswer
        exact RuleRequest.storable_result hadmissible hstands.storable hfits
      · exact RuleRequest.nodup_answer hstands.nodup hanswer
  | @refused w ended hanswer hdisk hcode =>
      rw [hanswer, Option.getD_none, hdisk]
      exact hstands

/-! ## One run of the program -/

/-- A process that is to run the program: what it has at hand, and the words of its command line. -/
structure Process where
  setting : Setting
  words : List Text

namespace Process

/-- The program starts with nothing in the log and no id made up. -/
def begin (disk : Disk) : World := ⟨disk, [], 0⟩

theorem begin_disk (disk : Disk) : (begin disk).disk = disk := rfl

def run (p : Process) (disk : Disk) : Answer := CommandLine.run p.setting p.words (begin disk)

/-- The words choose a command on the rules in the file at the path. -/
def Chooses (p : Process) (file : Path) (disk : Disk) (choice : Choice) : Prop :=
  ∃ outer directory, choose disk .main p.words = .ok outer ∧ outer.command = .rules ∧
    configDirectory p.setting outer.before = some directory ∧
    (directory.child rulesFileName).expandHome p.setting.env.home = some file ∧
    choose disk .rules outer.behind = .ok choice

def request? (p : Process) (disk : Disk) (choice : Choice) : Option RuleRequest :=
  requestOf? p.setting (begin disk) choice.command choice.behind

/-- The same for a path as it is spelled, which may still begin with the home directory. -/
def ChoosesAt (p : Process) (path : Path) (disk : Disk) (choice : Choice) : Prop :=
  ∃ outer directory, choose disk .main p.words = .ok outer ∧ outer.command = .rules ∧
    configDirectory p.setting outer.before = some directory ∧
    directory.child rulesFileName = path ∧ choose disk .rules outer.behind = .ok choice

variable {p : Process} {choice : Choice}

theorem Chooses.exists_choosesAt (hchooses : p.Chooses file disk choice) :
    ∃ path, path.expandHome p.setting.env.home = some file ∧ p.ChoosesAt path disk choice := by
  obtain ⟨outer, directory, houter, hcommand, hdirectory, hfile, hchoice⟩ := hchooses
  exact ⟨_, hfile, outer, directory, houter, hcommand, hdirectory, rfl, hchoice⟩

theorem ChoosesAt.run_eq (hchooses : p.ChoosesAt path disk choice) :
    RulesCommand.run p.setting path choice.command choice.behind (begin disk) =
      ((p.run disk).world, ⟨(p.run disk).output, (p.run disk).ending⟩) := by
  obtain ⟨outer, directory, houter, hcommand, hdirectory, rfl, hchoice⟩ := hchooses
  have houter : choose (begin disk).disk .main p.words = .ok outer := houter
  have hchoice : choose (begin disk).disk .rules outer.behind = .ok choice := hchoice
  unfold run CommandLine.run
  simp only [houter, hdirectory, hcommand, runCommand, runRules, hchoice]

theorem ChoosesAt.chooses (hchooses : p.ChoosesAt path disk choice)
    (hfile : path.expandHome p.setting.env.home = some file) : p.Chooses file disk choice := by
  obtain ⟨outer, directory, houter, hcommand, hdirectory, rfl, hchoice⟩ := hchooses
  exact ⟨outer, directory, houter, hcommand, hdirectory, hfile, hchoice⟩

theorem choosesAt_of_plain {directory : Path} {setting : Setting} {command : Command} {name : Text}
    {words : List Text} (hplain : Words.isOption name = false)
    (hname : Command.rules.members.lookup name = some command)
    (hdirectory : setting.env.configDirectory = some directory)
    (hpath : directory.child rulesFileName = path) :
    ChoosesAt ⟨setting, "rules" :: name :: words⟩ path disk
      ⟨⟨[], name :: words⟩, command, words⟩ := by
  have houter : choose disk .main ("rules" :: name :: words) =
      .ok ⟨⟨[], "rules" :: name :: words⟩, .rules, name :: words⟩ :=
    choose_of_plain rfl rfl (by decide) (by decide)
  exact ⟨_, directory, houter, rfl, hdirectory, hpath, choose_of_plain rfl rfl hplain hname⟩

end Process

/-! ## Any number of runs -/

/-- The disks that runs of the program lead to, with the list in memory that answers the same
requests. -/
inductive Reached (file : Path) (start : Disk) : Disk → List Rule → Prop where
  | start : Reached file start start []
  | run {disk : Disk} {rules : List Rule} (p : Process) {choice : Choice} :
      Reached file start disk rules → RuleFile.ReadsBack rules → p.Chooses file disk choice →
      (∀ request, p.request? disk choice = some request → request.Admissible) →
      Reached file start (p.run disk).world.disk
        ((p.request? disk choice).elim rules fun request => request.after rules)

variable {p : Process} {choice : Choice}

theorem Process.Chooses.answered (hchooses : p.Chooses file disk choice)
    (hstands : StandsFor file rules disk) (hreads : RuleFile.ReadsBack rules)
    (hrequest : p.request? disk choice = some request) (hadmissible : request.Admissible) :
    ∃ ended : Ended, ended.ending = (p.run disk).ending ∧
      Answered file request rules disk ((p.run disk).world, ended) := by
  obtain ⟨path, hfile, hchoosesAt⟩ := hchooses.exists_choosesAt
  have hanswered := (run_spec hfile (w := Process.begin disk) hstands hreads _ _).1 _ hrequest
    hadmissible
  rw [hchoosesAt.run_eq] at hanswered
  exact ⟨_, rfl, hanswered⟩

theorem Process.Chooses.standsFor (hchooses : p.Chooses file disk choice)
    (hstands : StandsFor file rules disk) (hreads : RuleFile.ReadsBack rules)
    (hadmissible : ∀ request, p.request? disk choice = some request → request.Admissible) :
    StandsFor file ((p.request? disk choice).elim rules fun request => request.after rules)
      (p.run disk).world.disk := by
  cases hrequest : p.request? disk choice with
  | some request =>
      obtain ⟨ended, -, hanswered⟩ :=
        hchooses.answered hstands hreads hrequest (hadmissible request hrequest)
      exact hstands.answered (hadmissible request hrequest) hanswered
  | none =>
      obtain ⟨path, hfile, hchoosesAt⟩ := hchooses.exists_choosesAt
      have hdisk := (run_spec hfile (w := Process.begin disk) hstands hreads _ _).2 hrequest
      rw [hchoosesAt.run_eq] at hdisk
      simp only at hdisk
      rw [hdisk]
      exact hstands

theorem standsFor_of_reached (habsent : start.find file = .error .notFound)
    (hcan : CanWrite file start) (hreached : Reached file start disk rules) :
    StandsFor file rules disk := by
  induction hreached with
  | start => exact ⟨.inl ⟨habsent, rfl⟩, hcan, by simp, List.nodup_nil⟩
  | run p _ hreads hchooses hadmissible ih => exact hchooses.standsFor ih hreads hadmissible

/-- After any number of runs, the file holds the list in memory, every id in it once, and the next
command ends well exactly if its request is not refused in memory. -/
theorem rule_file_refines_ledger (habsent : start.find file = .error .notFound)
    (hcan : CanWrite file start) (hreached : Reached file start disk rules) :
    (rules.map Rule.id).Nodup ∧
      (RuleFile.ReadsBack rules →
        (∀ (env : Environment) (path : Path) (w : World), path.expandHome env.home = some file →
          w.disk = disk → RuleFile.load env path w = (w, .ok rules)) ∧
        ∀ (p : Process) (choice : Choice) (request : RuleRequest), p.Chooses file disk choice →
          p.request? disk choice = some request → request.Admissible →
          ((p.run disk).ending.code = 0 ↔ (request.answer? rules).isSome = true)) := by
  have hstands := standsFor_of_reached habsent hcan hreached
  refine ⟨hstands.nodup, ?_⟩
  intro hreads
  constructor
  · rintro env path w hfile rfl
    exact load_of_holds hfile hstands.holds hreads hstands.storable
  · intro p choice request hchooses hrequest hadmissible
    obtain ⟨ended, hending, hanswered⟩ := hchooses.answered hstands hreads hrequest hadmissible
    rw [← hending]
    cases hanswered with
    | accepted hanswer hdeposit hthere hcode => simp [hanswer, hcode]
    | refused hanswer hdisk hcode => simp [hanswer, hcode]

/-! ## A rule added and updated -/

namespace Diary

/-- No name stands for a picture, and no parameters are complained about. -/
def library : Console.Library := ⟨fun _ => none, fun _ => none⟩

def setting : Setting :=
  ⟨⟨⟨['/'], []⟩, ⟨['/'], []⟩, some "/d", fun n => 'i' :: Text.ofNat n⟩, library, 80, []⟩

def rulesFile : Path := ⟨['/'], ["d", rulesFileName]⟩

def blank : Disk := Disk.withStart []

def addWords : List Text := [idOption.long, "r", "HOST", "a.example"]

def updateWords : List Text := ["r", "Path", "/b"]

def adding : Process := ⟨setting, "rules" :: "add" :: addWords⟩

def updating : Process := ⟨setting, "rules" :: "update" :: updateWords⟩

def addChoice : Choice := ⟨⟨[], "add" :: addWords⟩, .rulesAdd, addWords⟩

def updateChoice : Choice := ⟨⟨[], "update" :: updateWords⟩, .rulesUpdate, updateWords⟩

def added : Rule := ⟨.host, "a.example", "r"⟩

def updated : Rule := ⟨.path, "/b", "r"⟩

def once : Disk := (adding.run blank).world.disk

def twice : Disk := (updating.run once).world.disk

theorem adding_choosesAt (disk : Disk) : adding.ChoosesAt rulesFile disk addChoice :=
  Process.choosesAt_of_plain (by decide) rfl rfl rfl

theorem adding_chooses (disk : Disk) : adding.Chooses rulesFile disk addChoice :=
  (adding_choosesAt disk).chooses rfl

theorem updating_choosesAt (disk : Disk) : updating.ChoosesAt rulesFile disk updateChoice :=
  Process.choosesAt_of_plain (by decide) rfl rfl rfl

theorem updating_chooses (disk : Disk) : updating.Chooses rulesFile disk updateChoice :=
  (updating_choosesAt disk).chooses rfl

theorem adding_requests (disk : Disk) : adding.request? disk addChoice = some (.add added) :=
  requestOf?_add_named (by decide) (by decide +kernel) (by decide)

theorem updating_requests (disk : Disk) :
    updating.request? disk updateChoice = some (.update updated) :=
  requestOf?_update (by decide +kernel) (.plainly (by decide))

theorem canWrite_blank : CanWrite rulesFile blank := by
  have hwritten : ((blank.deposit rulesFile []).toOption.bind
      fun disk => (disk.read rulesFile).toOption) = some [] := by decide +kernel
  intro rules
  cases hdeposit : blank.deposit rulesFile [] with
  | error e => simp [hdeposit, Except.toOption] at hwritten
  | ok disk =>
      have hread : (disk.read rulesFile).toOption = some [] := by
        simpa [hdeposit, Except.toOption] using hwritten
      obtain ⟨written, hother, hthere⟩ :=
        Disk.exists_deposit_of_other hdeposit (RuleFile.bytesOf rules)
      exact ⟨written, hother, hthere (Disk.hasContent_iff_read.mpr (eq_ok_of_toOption hread))⟩

theorem add_admissible : (RuleRequest.add added).Admissible := ⟨⟨by decide, by decide⟩, by decide⟩

theorem once_reached : Reached rulesFile blank once [added] := by
  have hreads : RuleFile.ReadsBack [] := by decide +kernel
  have hafter : (RuleRequest.add added).after [] = [added] := by decide +kernel
  have hstart : Reached rulesFile blank blank [] := .start
  have hrun := hstart.run adding hreads (adding_chooses blank) (by
    intro request hrequest
    rw [adding_requests] at hrequest
    cases hrequest
    exact add_admissible)
  rw [adding_requests, Option.elim_some, hafter] at hrun
  exact hrun

theorem twice_reached : Reached rulesFile blank twice [updated] := by
  have hreads : RuleFile.ReadsBack [added] := by decide +kernel
  have hafter : (RuleRequest.update updated).after [added] = [updated] := by decide +kernel
  have hrun := once_reached.run updating hreads (updating_chooses once) (by
    intro request hrequest
    rw [updating_requests] at hrequest
    cases hrequest
    exact ⟨by decide, by decide⟩)
  rw [updating_requests, Option.elim_some, hafter] at hrun
  exact hrun

theorem rule_updated_after_two_runs :
    blank.find rulesFile = .error .notFound ∧ CanWrite rulesFile blank ∧
      Reached rulesFile blank twice [updated] ∧ RuleFile.ReadsBack [updated] ∧
      RuleFile.load setting.env rulesFile (Process.begin twice) =
        (Process.begin twice, .ok [updated]) ∧
      (adding.run twice).ending.code ≠ 0 := by
  have habsent : blank.find rulesFile = .error .notFound := by decide +kernel
  have hreads : RuleFile.ReadsBack [updated] := by decide +kernel
  have hrefused : ((RuleRequest.add added).answer? [updated]).isSome = false := by decide +kernel
  obtain ⟨hload, hcode⟩ :=
    (rule_file_refines_ledger habsent canWrite_blank twice_reached).2 hreads
  have hread := hload setting.env rulesFile (Process.begin twice) rfl (Process.begin_disk twice)
  have hagain := hcode adding addChoice _ (adding_chooses twice) (adding_requests twice)
    add_admissible
  refine ⟨habsent, canWrite_blank, twice_reached, hreads, hread, ?_⟩
  intro hzero
  have haccepted := hagain.mp hzero
  rw [hrefused] at haccepted
  cases haccepted

end Diary

end HeaderAudit.CommandLine
