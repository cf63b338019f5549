import HeaderAudit.Proofs.ExitCodes
import HeaderAudit.Proofs.FaithfulReports
import HeaderAudit.Proofs.RuleIds

/-!
# Ids from one run to the next

The rules are listed with their ids, by which a later run is told of a rule to be removed or
updated.  An id that an entry says is in the file, and the later run finds it there.  An id that was
made up is only in the list: listing does not write, and the later run makes up another one.
-/

namespace HeaderAudit

open Console.Emoji (Pictures)
open Json (Legible Unpictured)

/-! ## The ids in a printed list -/

/-- The ids that are read in a printed list of rules. -/
def printedIds (printed : Text) : List Text :=
  match Json.read? printed with
  | some (.list items) => items.filterMap fun item => (item.field? "id").bind Json.text?
  | _ => []

theorem mapItems_toJson (seen : Text → Text) (rules : List Rule) :
    (Json.mapItems seen (rules.map Rule.toJson)).filterMap
        (fun item => (item.field? "id").bind Json.text?) =
      rules.map fun rule => seen rule.id := by
  induction rules with
  | nil => rfl
  | cons rule rest ih =>
      rw [List.map_cons, List.map_cons, Json.mapItems, List.filterMap_cons, ih]
      rfl

/-- Every rule is listed with its id, which is seen as it is unless a picture is shown in it. -/
theorem exists_printedIds_eq {pictures : Pictures} (hlegible : Legible pictures)
    (rules : List Rule) :
    ∃ seen : Text → Text, (∀ t, seen t = t ↔ Unpictured pictures t) ∧
      printedIds (printRulesDocument pictures rules) = rules.map fun rule => seen rule.id := by
  choose seen hseen using Json.exists_spelt hlegible
  have hread : Json.read? (printRulesDocument pictures rules) =
      some (.list (Json.mapItems seen (rules.map Rule.toJson))) :=
    Json.read?_printRaw hlegible (fun t => (hseen t).1) (Rule.tidy_listToJson rules)
  refine ⟨seen, fun t => (hseen t).2.2, ?_⟩
  rw [printedIds, hread]
  exact mapItems_toJson seen rules

/-- The id of the rule that has to be there for the request. -/
def RuleRequest.knownId? : RuleRequest → Option Text
  | .update rule => some rule.id
  | .remove id => some id
  | .add _ | .clear => none

theorem RuleRequest.fits_iff_of_knownId? {request : RuleRequest} {rules : List Rule} {id : Text}
    (hknown : request.knownId? = some id) : request.Fits rules ↔ id ∈ rules.map Rule.id := by
  cases request with
  | update rule =>
      cases hknown
      exact Iff.rfl
  | remove own =>
      cases hknown
      exact Iff.rfl
  | add rule => cases hknown
  | clear => cases hknown

namespace CommandLine

variable {s : Setting} {p : Process} {path place file : Path} {disk : Disk} {w : World}
  {rules : List Rule} {request : RuleRequest} {id : Text}

/-! ## Listing -/

/-- The process lists the rules in the file at the path as a document. -/
def Process.ListsDocument (p : Process) (path : Path) (disk : Disk) : Prop :=
  ∃ choice line, p.ChoosesAt path disk choice ∧ choice.command = .rulesList ∧
    readLine disk p.setting.input .rulesList choice.behind = .ok line ∧ line.has jsonOption = true

theorem Process.ListsDocument.run_spec (hlists : p.ListsDocument path disk)
    (hload : (RuleFile.load p.setting.env path (Process.begin disk)).2 = .ok rules) :
    (p.run disk).ending = .exit 0 ∧ (p.run disk).output = printRulesDocument p.setting.library.pictures rules ∧
      (p.run disk).world.disk = disk := by
  obtain ⟨choice, line, hchooses, hlist, hline, hjson⟩ := hlists
  have hlisted : RulesCommand.run p.setting path choice.command choice.behind
      (Process.begin disk) = ((RuleFile.load p.setting.env path (Process.begin disk)).1,
        ⟨printRulesDocument p.setting.library.pictures rules, .exit 0⟩) := by
    rw [hlist, RulesCommand.run, if_neg (by decide), Process.begin_disk, hline]
    simp only
    rw [withStore_of_loaded hload, RulesCommand.list, if_pos hjson]
    rfl
  rw [hchooses.run_eq, Prod.mk.injEq, Ended.mk.injEq] at hlisted
  obtain ⟨hworld, houtput, hending⟩ := hlisted
  refine ⟨hending, houtput, ?_⟩
  rw [hworld, RuleFile.load_disk, Process.begin_disk]

/-! ## Looking for an id -/

/-- A command that is told of a rule looks for it first. -/
theorem run_of_knownId? {command : Command} {words : List Text}
    (hrequest : requestOf? s (RuleFile.load s.env path w).1 command words = some request)
    (hknown : request.knownId? = some id) :
    ∃ act, RulesCommand.run s path command words w = RulesCommand.withStore s path act w ∧
      ∀ rules w', act (openOn path rules w') =
        if ((openOn path rules w').2.registry.get? id).isSome then
          changeAndConfirm s (openOn path rules w') request.operation (confirmation rules request)
        else (w', ⟨[], .refused (.noSuchRule id)⟩) := by
  have hclear : request ≠ .clear := by
    rintro rfl
    cases hknown
  obtain ⟨hcommand, line, hline, hrequested⟩ := exists_line_of_requestOf? hrequest hclear
  rw [RuleFile.load_disk] at hline
  rw [RulesCommand.run, if_neg hcommand, hline]
  cases command with
  | rulesUpdate =>
      rw [requestedBy?, Option.map_eq_some_iff] at hrequested
      obtain ⟨kind, hkind, rfl⟩ := hrequested
      obtain rfl : line.argument 0 = id := Option.some.inj hknown
      have hnamed : RulesCommand.kindAt 1 line = kind := by
        rw [RulesCommand.kindAt, hkind, Option.getD_some]
      rw [← hnamed]
      exact ⟨RulesCommand.update s line, rfl, fun _ _ => rfl⟩
  | rulesRemove =>
      obtain rfl : .remove (line.argument 0) = request := Option.some.inj hrequested
      obtain rfl : line.argument 0 = id := Option.some.inj hknown
      exact ⟨RulesCommand.remove s line, rfl, fun _ _ => rfl⟩
  | rulesAdd =>
      rw [requestedBy?, Option.map_eq_some_iff] at hrequested
      obtain ⟨kind, -, rfl⟩ := hrequested
      cases hknown
  | _ => cases hrequested

theorem changeAndConfirm_ending_ne (opened : OpenStore) (operation : Operation) (markup : Text)
    (refusal : Refusal) :
    (changeAndConfirm s opened operation markup).2.ending ≠ .refused refusal := by
  unfold changeAndConfirm
  split
  · unfold confirm
    split <;> simp
  · simp

/-- The command is refused for want of the rule exactly if no rule in the file has the id. -/
theorem run_refused_iff {command : Command} {words : List Text}
    (hrequest : requestOf? s (RuleFile.load s.env path w).1 command words = some request)
    (hknown : request.knownId? = some id) (hload : (RuleFile.load s.env path w).2 = .ok rules) :
    (RulesCommand.run s path command words w).2.ending = .refused (.noSuchRule id) ↔
      id ∉ rules.map Rule.id := by
  obtain ⟨act, hrun, hact⟩ := run_of_knownId? hrequest hknown
  have hget : ((openOn path rules (RuleFile.load s.env path w).1).2.registry.get? id).isSome =
      true ↔ id ∈ rules.map Rule.id := get?_isSome_iff
  rw [hrun, withStore_of_loaded hload, hact]
  by_cases hid : id ∈ rules.map Rule.id
  · rw [if_pos (hget.mpr hid)]
    exact iff_of_false (changeAndConfirm_ending_ne _ _ _ _) (not_not_intro hid)
  · rw [if_neg fun h => hid (hget.mp h)]
    exact iff_of_true rfl hid

namespace Process

/-- The process makes up the id for an entry of the file that says none. -/
def MakesUp (p : Process) (file : Path) (disk : Disk) (id : Text) : Prop :=
  ∃ n, 0 < n ∧ n ≤ RuleFile.namelessAt file disk ∧ p.setting.env.idOf n = id

/-- The process finds a rule with the id in the file at the path, carries out what it is asked for
and saves what comes of it. -/
def Finds (p : Process) (path : Path) (disk : Disk) (request : RuleRequest) (id : Text) : Prop :=
  ∃ rules, (RuleFile.load p.setting.env path (begin disk)).2 = .ok rules ∧
    id ∈ rules.map Rule.id ∧
    (p.run disk).world.disk = (RuleFile.save p.setting.env path (request.result rules) disk).1 ∧
    ((p.run disk).ending.code = 0 ↔ CanConfirm p.setting request rules)

/-- In the rules that the process loads, an id is said by the file or made up by the process. -/
theorem mem_ids_iff (hfile : path.expandHome p.setting.env.home = some file)
    (hload : (RuleFile.load p.setting.env path (begin disk)).2 = .ok rules) (id : Text) :
    id ∈ rules.map Rule.id ↔ RuleFile.SaysIn file disk id ∨ p.MakesUp file disk id := by
  obtain ⟨-, rfl⟩ := (RuleFile.load_eq_ok_iff hfile).mp hload
  rw [RuleFile.mem_ids_named_iff, RuleFile.saysIn_iff, MakesUp, RuleFile.namelessAt]
  simp [begin]

theorem exists_load_of_loadable (hplace : place.expandHome p.setting.env.home = some file)
    (hloadable : RuleFile.Loadable file disk) :
    ∃ rules, (RuleFile.load p.setting.env place (begin disk)).2 = .ok rules :=
  ⟨_, (RuleFile.load_eq_ok_iff (w := begin disk) hplace).mpr ⟨hloadable, rfl⟩⟩

/-- A process that is told of an id finds it if the file says it or the process makes it up. -/
theorem Asks.finds (hasks : p.Asks place disk request) (hknown : request.knownId? = some id)
    (hplace : place.expandHome p.setting.env.home = some file)
    (hloadable : RuleFile.Loadable file disk)
    (hid : RuleFile.SaysIn file disk id ∨ p.MakesUp file disk id) :
    p.Finds place disk request id := by
  obtain ⟨rules, hload⟩ := exists_load_of_loadable hplace hloadable
  have hmem : id ∈ rules.map Rule.id := (mem_ids_iff hplace hload id).mpr hid
  have hfits : request.Fits rules := (RuleRequest.fits_iff_of_knownId? hknown).mpr hmem
  rcases hasks.cases with ⟨found, before, hfound, -, hdisk, -, hworld, hcode⟩ | ⟨hunfit, -⟩
  · rw [hload, Except.ok.injEq] at hfound
    subst hfound
    refine ⟨_, hload, hmem, ?_, hcode⟩
    rw [hworld, afterSave_disk, hdisk]
  · exact absurd hfits (hunfit rules hload)

theorem Asks.refused (hasks : p.Asks place disk request) (hknown : request.knownId? = some id)
    (hplace : place.expandHome p.setting.env.home = some file)
    (hloadable : RuleFile.Loadable file disk)
    (hid : ¬ (RuleFile.SaysIn file disk id ∨ p.MakesUp file disk id)) :
    (p.run disk).ending = .refused (.noSuchRule id) ∧ (p.run disk).world.disk = disk := by
  obtain ⟨rules, hload⟩ := exists_load_of_loadable hplace hloadable
  rw [← mem_ids_iff hplace hload id] at hid
  constructor
  · obtain ⟨choice, hchooses, hrequest⟩ := hasks
    have hrefused := run_refused_iff hrequest hknown hload
    rw [hchooses.run_eq] at hrefused
    exact hrefused.mpr hid
  · rcases hasks.cases with ⟨found, -, hfound, hfits, -⟩ | ⟨-, hdisk, -⟩
    · rw [hload, Except.ok.injEq] at hfound
      subst hfound
      exact absurd ((RuleRequest.fits_iff_of_knownId? hknown).mp hfits) hid
    · exact hdisk

end Process

namespace Noticeboard

/-- An entry without an id, one with a number for an id, and one with a dash before its id. -/
def content : Text :=
  "- {type: host, pattern: a.example}\n- {id: 7, type: path, pattern: /b}\n" ++
    "- {id: -x, type: path, pattern: /c}\n"

def posted : Disk :=
  ⟨[(["d"], .directory),
    (["d", rulesFileName], .file ⟨Disk.ownerOnly, Text.encodeUtf8 content⟩)], [], []⟩

def listing : Process := ⟨Diary.setting, ["rules", "list", "--json"]⟩

/-- Another run makes up other ids. -/
def laterSetting : Setting :=
  { Diary.setting with env := { Diary.setting.env with idOf := fun n => 'j' :: Text.ofNat n } }

def removing (words : List Text) : Process := ⟨laterSetting, "rules" :: "remove" :: words⟩

def listed : List Rule :=
  [⟨.host, "a.example", "i1"⟩, ⟨.path, "/b", "7"⟩, ⟨.path, "/c", "-x"⟩]

theorem listing_listsDocument : listing.ListsDocument Diary.rulesFile posted :=
  ⟨⟨⟨[], ["list", "--json"]⟩, .rulesList, ["--json"]⟩, ⟨[(jsonOption, [])], []⟩,
    Process.choosesAt_of_plain (by decide) rfl rfl rfl, rfl, rfl, by decide⟩

theorem removing_asks {id : Text} {words : List Text} (hspell : Words.Spell [id] words) :
    (removing words).Asks Diary.rulesFile posted (.remove id) :=
  ⟨⟨⟨[], "remove" :: words⟩, .rulesRemove, words⟩,
    Process.choosesAt_of_plain (by decide) rfl rfl rfl, requestOf?_remove hspell⟩

theorem legible_library : Legible Diary.library.pictures := by
  intro name picture hpicture
  cases hpicture

end Noticeboard

end CommandLine

end HeaderAudit
