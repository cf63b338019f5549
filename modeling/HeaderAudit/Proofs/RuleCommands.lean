import HeaderAudit.CommandLine.Run
import HeaderAudit.Proofs.RuleLedger
import HeaderAudit.Proofs.ShownMarkup

/-!
# The commands on rules as requests

A command on rules reads its words as a request, opens the store, which fills a registry from the
file, and either refuses the request or lets the registry carry it out; the store saves what comes
of it, and only then is the confirmation printed.  As long as the file can be written and is read
back, the command does to the list in the file what the request does to a list in memory.
-/

namespace HeaderAudit.CommandLine

variable {env : Environment} {s : Setting} {path file : Path} {rules changed : List Rule}
  {disk : Disk} {w before : World} {request : RuleRequest}

/-! ## The file of the rules -/

/-- The rules in the file at the path; there are none as long as there is no file. -/
def Holds (file : Path) (rules : List Rule) (disk : Disk) : Prop :=
  (disk.find file = .error .notFound ∧ rules = []) ∨ disk.HasContent file (RuleFile.bytesOf rules)

/-- Whatever rules are written to the file, they are there and can be read. -/
def CanWrite (file : Path) (disk : Disk) : Prop :=
  ∀ rules, ∃ disk', disk.deposit file (RuleFile.bytesOf rules) = .ok disk' ∧
    disk'.HasContent file (RuleFile.bytesOf rules)

/-- The file at the path stands for these rules, whatever is yet to come. -/
structure StandsFor (file : Path) (rules : List Rule) (disk : Disk) : Prop where
  holds : Holds file rules disk
  canWrite : CanWrite file disk
  storable : ∀ rule ∈ rules, rule.Storable
  nodup : (rules.map Rule.id).Nodup

theorem load_of_holds (hfile : path.expandHome env.home = some file)
    (hholds : Holds file rules w.disk) (hreads : RuleFile.ReadsBack rules)
    (hrules : ∀ rule ∈ rules, rule.Storable) :
    RuleFile.load env path w = (w, .ok rules) := by
  rcases hholds with ⟨hfind, rfl⟩ | hcontent
  · rw [RuleFile.load]
    simp only [hfile, hfind]
    rfl
  · exact RuleFile.load_of_contains ⟨file, hfile, hcontent⟩ hreads hrules

/-! ## The open store -/

/-- A store that has just been opened on these rules. -/
def openOn (path : Path) (rules : List Rule) (w : World) : OpenStore :=
  (⟨path, true⟩, ⟨⟨rules, [.store]⟩, w, [.committed rules]⟩)

theorem withStore_of_load_ok {w' : World} (hload : RuleFile.load s.env path w = (w', .ok rules))
    (act : OpenStore → World × Ended) :
    RulesCommand.withStore s path act w = act (openOn path rules w') := by
  have hperform : Session.perform (Store.audience s.env path) 1 (.replaceAll rules)
      ⟨Registry.empty, w', []⟩ = some (.ok (), ⟨⟨rules, []⟩, w', [.committed rules]⟩) := rfl
  have hopen : openStore s.env path w = (w', .ok (openOn path rules w')) := by
    unfold openStore
    simp only [Store.load, hload]
    rw [hperform]
    rfl
  unfold RulesCommand.withStore
  rw [hopen]

theorem withStore_of_loaded (hload : (RuleFile.load s.env path w).2 = .ok rules)
    (act : OpenStore → World × Ended) :
    RulesCommand.withStore s path act w = act (openOn path rules (RuleFile.load s.env path w).1) :=
  withStore_of_load_ok (Prod.ext rfl hload) act

theorem withStore_of_load_error {w' : World} {cause : RuleFileError}
    (hload : RuleFile.load s.env path w = (w', .error cause)) (act : OpenStore → World × Ended) :
    RulesCommand.withStore s path act w = (w', ⟨[], .crashed (.ruleFile cause)⟩) := by
  have hopen : openStore s.env path w = crash w' (.ruleFile cause) := by
    unfold openStore
    simp only [Store.load, hload]
    rfl
  unfold RulesCommand.withStore
  rw [hopen]
  rfl

/-- The world when the store has heard of the rules: they are saved, or the failure is noted. -/
def afterSave (env : Environment) (path : Path) (rules : List Rule) (w : World) : World :=
  match RuleFile.save env path rules w.disk with
  | (disk, .ok ()) => { w with disk := disk }.note (.rulesSaved rules.length path.toText)
  | (disk, .error _) => { w with disk := disk }.note (.listenerFailed .store none)

theorem afterSave_disk (env : Environment) (path : Path) (rules : List Rule) (w : World) :
    (afterSave env path rules w).disk = (RuleFile.save env path rules w.disk).1 := by
  unfold afterSave
  cases RuleFile.save env path rules w.disk with
  | mk disk' ended => cases ended <;> rfl

theorem change_of_apply {operation : Operation}
    (happly : Registry.apply operation rules = .ok (some changed)) :
    ∃ session, change env (openOn path rules w) operation = (.ok (), session) ∧
      session.world = afterSave env path changed w := by
  unfold afterSave
  cases hsave : RuleFile.save env path changed w.disk with
  | mk disk' ended =>
      cases ended with
      | ok done =>
          refine ⟨⟨⟨changed, [.store]⟩,
            { w with disk := disk' }.note (.rulesSaved changed.length path.toText),
            [.called .store changed, .committed changed, .committed rules]⟩, ?_, rfl⟩
          simp only [change, Session.perform, openOn, happly, Session.commit, Session.tellAll,
            Session.tell, Store.audience, Store.audienceWith, Store.hear, hsave, Session.follow,
            Option.map_some, Option.getD_some]
      | error cause =>
          refine ⟨⟨⟨changed, [.store]⟩, { w with disk := disk' }.note (.listenerFailed .store none),
            [.called .store changed, .committed changed, .committed rules]⟩, ?_, rfl⟩
          simp only [change, Session.perform, openOn, happly, Session.commit, Session.tellAll,
            Session.tell, Store.audience, Store.audienceWith, Store.hear, hsave, Session.follow,
            Store.noteFailure, World.note, Option.map_some, Option.getD_some]

theorem get?_isSome_iff {id : Text} {listeners : List Listener} :
    ((⟨rules, listeners⟩ : Registry).get? id).isSome = true ↔ id ∈ rules.map Rule.id := by
  simp [Registry.get?, List.find?_isSome]

/-! ## What is printed -/

open Console.Markup (CanShow Inert greenWord)

variable {library : Console.Library}

theorem canShow_addedMarkup {rule : Rule} (hid : '[' ∉ rule.id) :
    CanShow library (RulesCommand.addedMarkup rule) := by
  have hform : RulesCommand.addedMarkup rule =
      greenWord "Added" (' ' :: (rule.id ++ ' ' :: ' ' :: Console.Markup.escape rule.toText)) := by
    unfold RulesCommand.addedMarkup
    rw [List.append_assoc, List.append_assoc]
    rfl
  have hescaped : Inert (' ' :: Console.Markup.escape rule.toText) :=
    Console.Markup.inert_cons_of_ne (by decide) (by decide)
      (Console.Markup.harmless_escape rule.toText)
  rw [hform]
  exact Console.Markup.canShow_greenWord (by simp)
    (((hescaped.cons (by decide)).append hid).cons (by decide))

theorem canShow_wordAndId {word id : Text} (hword : ∀ c ∈ word, c ≠ '\\' ∧ c ≠ '[')
    (hid : '[' ∉ id) : CanShow library (greenWord word (' ' :: id)) := by
  have hinert := (Console.Markup.inert_of_not_mem hid).cons (c := ' ') (by decide)
  exact Console.Markup.canShow_greenWord hword hinert

theorem canShow_updatedMarkup {id : Text} (hid : '[' ∉ id) :
    CanShow library (RulesCommand.updatedMarkup id) := by
  have hform : RulesCommand.updatedMarkup id = greenWord "Updated" (' ' :: id) := rfl
  rw [hform]
  exact canShow_wordAndId (by simp) hid

theorem canShow_removedMarkup {id : Text} (hid : '[' ∉ id) :
    CanShow library (RulesCommand.removedMarkup id) := by
  have hform : RulesCommand.removedMarkup id = greenWord "Removed" (' ' :: id) := rfl
  rw [hform]
  exact canShow_wordAndId (by simp) hid

theorem canShow_clearedMarkup (count : Nat) : CanShow library (RulesCommand.clearedMarkup count) := by
  have hform : RulesCommand.clearedMarkup count =
      greenWord ("Removed " ++ (Text.ofNat count ++ " rule(s)")) [] := by
    unfold RulesCommand.clearedMarkup greenWord
    rw [List.append_assoc, List.append_assoc, List.append_assoc]
    rfl
  have hdigits : ∀ c ∈ Text.ofNat count, c ≠ '\\' ∧ c ≠ '[' := by
    intro c hc
    have hdigit := Nat.isDigit_of_mem_toDigits (by decide) (by decide) hc
    constructor <;>
      · rintro rfl
        revert hdigit
        decide
  have hwords : ∀ c ∈ (("Removed " : Text) ++ " rule(s)"), c ≠ '\\' ∧ c ≠ '[' := by simp
  rw [hform]
  refine Console.Markup.canShow_greenWord ?_ Console.Markup.inert_nil
  intro c hc
  rcases List.mem_append.mp hc with hc | hc
  · exact hwords c (List.mem_append_left _ hc)
  · rcases List.mem_append.mp hc with hc | hc
    · exact hdigits c hc
    · exact hwords c (List.mem_append_right _ hc)

/-- What is printed when the request has been carried out on the rules. -/
def confirmation (rules : List Rule) : RuleRequest → Text
  | .add rule => RulesCommand.addedMarkup rule
  | .update rule => RulesCommand.updatedMarkup rule.id
  | .remove id => RulesCommand.removedMarkup id
  | .clear => RulesCommand.clearedMarkup rules.length

/-- The confirmation is a markup that can be printed. -/
def CanConfirm (s : Setting) (request : RuleRequest) (rules : List Rule) : Prop :=
  ∃ t, Console.printMarkup s.library s.room (confirmation rules request) = .ok t

/-- No tag can begin in an id without a bracket. -/
theorem canConfirm_of_bracket_not_mem (hid : ∀ id ∈ request.id?, '[' ∉ id) (rules : List Rule) :
    CanConfirm s request rules := by
  refine Console.Markup.exists_printMarkup ?_ s.room
  cases request with
  | add rule => exact canShow_addedMarkup (hid rule.id rfl)
  | update rule => exact canShow_updatedMarkup (hid rule.id rfl)
  | remove id => exact canShow_removedMarkup (hid id rfl)
  | clear => exact canShow_clearedMarkup rules.length

/-- A tag at fault in an id cannot be shown at any width. -/
theorem wellTagged_of_canConfirm (hconfirm : CanConfirm s request rules) :
    Console.Markup.WellTagged s.library (confirmation rules request) := by
  obtain ⟨t, ht⟩ := hconfirm
  exact Console.Markup.exists_render_iff.mp (Console.Markup.exists_render_of_printMarkup ht)

theorem canConfirm_of_admissible (hadmissible : request.Admissible) (rules : List Rule) :
    CanConfirm s request rules := by
  refine canConfirm_of_bracket_not_mem ?_ rules
  intro id hid
  cases request with
  | clear => cases hid
  | add rule =>
      cases hid
      exact hadmissible.2
  | update rule =>
      cases hid
      exact hadmissible.2
  | remove id =>
      cases hid
      exact hadmissible

theorem confirm_spec (s : Setting) (markup : Text) (w : World) :
    (confirm s markup w).1 = w ∧
      ((confirm s markup w).2.ending.code = 0 ↔
        ∃ t, Console.printMarkup s.library s.room markup = .ok t) := by
  unfold confirm
  cases Console.printMarkup s.library s.room markup <;> simp [Ending.code]

/-! ## Requests concluded -/

/-- How a command ends that requests something of the rules in the file: the request is carried out,
told to the store and confirmed, or it is refused and the disk stays as it is. -/
inductive Concluded (s : Setting) (path : Path) (request : RuleRequest) (w : World) :
    World × Ended → Prop where
  | carriedOut {rules : List Rule} {before : World} {ended : Ended} :
      (RuleFile.load s.env path w).2 = .ok rules → request.Fits rules → before.disk = w.disk →
      before.log = (RuleFile.load s.env path w).1.log →
      (ended.ending.code = 0 ↔ CanConfirm s request rules) →
      Concluded s path request w (afterSave s.env path (request.result rules) before, ended)
  | refused {w' : World} {ended : Ended} :
      (∀ rules, (RuleFile.load s.env path w).2 = .ok rules → ¬ request.Fits rules) →
      w'.disk = w.disk → ended.ending.code ≠ 0 → Concluded s path request w (w', ended)

theorem Concluded.after {outcome : World × Ended}
    (hconcluded : Concluded s path request w outcome) (printed : Text) :
    Concluded s path request w (outcome.1, RulesCommand.Ended.after printed outcome.2) := by
  cases hconcluded with
  | carriedOut hload hfits hdisk hlog hcode => exact .carriedOut hload hfits hdisk hlog hcode
  | refused hunfit hdisk hcode => exact .refused hunfit hdisk hcode

theorem concluded_of_unfit {w' : World} {ended : Ended}
    (hload : (RuleFile.load s.env path w).2 = .ok rules) (hunfit : ¬ request.Fits rules)
    (hdisk : w'.disk = w.disk) (hcode : ended.ending.code ≠ 0) :
    Concluded s path request w (w', ended) := by
  refine .refused ?_ hdisk hcode
  intro others hothers
  rw [hload, Except.ok.injEq] at hothers
  rw [← hothers]
  exact hunfit

/-- A file that cannot be loaded ends the command before anything is done. -/
theorem withStore_concluded {act : OpenStore → World × Ended}
    (hact : ∀ rules, (RuleFile.load s.env path w).2 = .ok rules →
      Concluded s path request w (act (openOn path rules (RuleFile.load s.env path w).1))) :
    Concluded s path request w (RulesCommand.withStore s path act w) := by
  have hdisk := @RuleFile.load_disk s.env path w
  cases hload : RuleFile.load s.env path w with
  | mk w' loaded =>
      rw [hload] at hact hdisk
      cases loaded with
      | ok rules =>
          rw [withStore_of_load_ok hload]
          exact hact rules rfl
      | error cause =>
          rw [withStore_of_load_error hload]
          refine .refused ?_ hdisk Nat.one_ne_zero
          simp [hload]

theorem withStore_disk {act : OpenStore → World × Ended}
    (hact : ∀ rules w', (act (openOn path rules w')).1.disk = w'.disk) :
    (RulesCommand.withStore s path act w).1.disk = w.disk := by
  have hdisk := @RuleFile.load_disk s.env path w
  cases hload : RuleFile.load s.env path w with
  | mk w' loaded =>
      rw [hload] at hdisk
      cases loaded with
      | ok rules =>
          rw [withStore_of_load_ok hload, hact]
          exact hdisk
      | error cause =>
          rw [withStore_of_load_error hload]
          exact hdisk

theorem changeAndConfirm_concluded (hload : (RuleFile.load s.env path w).2 = .ok rules)
    (hfits : request.Fits rules) (hdisk : before.disk = w.disk)
    (hlog : before.log = (RuleFile.load s.env path w).1.log) :
    Concluded s path request w
      (changeAndConfirm s (openOn path rules before) request.operation
        (confirmation rules request)) := by
  obtain ⟨session, hchange, hworld⟩ :=
    @change_of_apply s.env path _ _ before _ (RuleRequest.apply_of_fits hfits)
  obtain ⟨hsame, hcode⟩ := confirm_spec s (confirmation rules request) session.world
  rw [changeAndConfirm, hchange]
  simp only
  rw [← Prod.eta (confirm _ _ _), hsame, hworld]
  rw [hworld] at hcode
  exact .carriedOut hload hfits hdisk hlog hcode

theorem newId_spec (line : Words) (w : World) :
    (RulesCommand.newId s line w).2.disk = w.disk ∧
      (RulesCommand.newId s line w).2.log = w.log := by
  rw [RulesCommand.newId.eq_def]
  split <;> exact ⟨rfl, rfl⟩

theorem add_concluded {line : Words} (hpattern : Text.blank (line.argument 1) = false) :
    Concluded s path
      (.add ⟨RulesCommand.kindAt 0 line, line.argument 1,
        (RulesCommand.newId s line (RuleFile.load s.env path w).1).1⟩) w
      (RulesCommand.withStore s path (RulesCommand.add s line) w) := by
  refine withStore_concluded ?_
  intro rules hload
  obtain ⟨hdisk, hlog⟩ := @newId_spec s line (RuleFile.load s.env path w).1
  rw [RuleFile.load_disk] at hdisk
  unfold RulesCommand.add openOn
  simp only
  generalize RulesCommand.newId s line (RuleFile.load s.env path w).1 = made at *
  obtain ⟨id, before⟩ := made
  by_cases hknown : id ∈ rules.map Rule.id
  · rw [if_pos (get?_isSome_iff.mpr hknown)]
    exact concluded_of_unfit hload (fun hfits => hfits.2 hknown) hdisk Nat.one_ne_zero
  · rw [if_neg fun h => hknown (get?_isSome_iff.mp h)]
    exact changeAndConfirm_concluded hload ⟨hpattern, hknown⟩ hdisk hlog

/-- A request about a rule that has to be there is carried out if it is, and else refused. -/
theorem concluded_of_known {id : Text} {refusal : Refusal} {act : OpenStore → World × Ended}
    (hfits : ∀ rules, request.Fits rules ↔ id ∈ rules.map Rule.id)
    (hact : ∀ rules w', act (openOn path rules w') =
      if ((openOn path rules w').2.registry.get? id).isSome then
        changeAndConfirm s (openOn path rules w') request.operation (confirmation rules request)
      else (w', ⟨[], .refused refusal⟩)) :
    Concluded s path request w (RulesCommand.withStore s path act w) := by
  refine withStore_concluded ?_
  intro rules hload
  have hdisk := @RuleFile.load_disk s.env path w
  have hget :
      ((openOn path rules (RuleFile.load s.env path w).1).2.registry.get? id).isSome = true ↔
        request.Fits rules :=
    get?_isSome_iff.trans (hfits rules).symm
  rw [hact]
  by_cases hfit : request.Fits rules
  · rw [if_pos (hget.mpr hfit)]
    exact changeAndConfirm_concluded hload hfit hdisk rfl
  · rw [if_neg fun h => hfit (hget.mp h)]
    exact concluded_of_unfit hload hfit hdisk Nat.one_ne_zero

theorem update_concluded (line : Words) :
    Concluded s path (.update ⟨RulesCommand.kindAt 1 line, line.argument 2, line.argument 0⟩) w
      (RulesCommand.withStore s path (RulesCommand.update s line) w) :=
  concluded_of_known (fun _ => Iff.rfl) fun _ _ => rfl

theorem remove_concluded (line : Words) :
    Concluded s path (.remove (line.argument 0)) w
      (RulesCommand.withStore s path (RulesCommand.remove s line) w) :=
  concluded_of_known (fun _ => Iff.rfl) fun _ _ => rfl

theorem clear_concluded :
    Concluded s path .clear w (RulesCommand.withStore s path (RulesCommand.clear s) w) := by
  refine withStore_concluded ?_
  intro rules hload
  exact changeAndConfirm_concluded hload trivial (RuleFile.load_disk path w) rfl

/-! ## Requests answered -/

/-- A request is answered: it is accepted and what comes of it is written, or it is refused and the
disk stays as it is. -/
inductive Answered (file : Path) (request : RuleRequest) (rules : List Rule) (disk : Disk) :
    World × Ended → Prop where
  | accepted {changed : List Rule} {w : World} {ended : Ended} :
      request.answer? rules = some changed →
      disk.deposit file (RuleFile.bytesOf changed) = .ok w.disk →
      w.disk.HasContent file (RuleFile.bytesOf changed) → ended.ending.code = 0 →
      Answered file request rules disk (w, ended)
  | refused {w : World} {ended : Ended} :
      request.answer? rules = none → w.disk = disk → ended.ending.code ≠ 0 →
      Answered file request rules disk (w, ended)

/-- On a file that stands for the rules, to conclude a request is to answer it. -/
theorem Concluded.answered {outcome : World × Ended}
    (hconcluded : Concluded s path request w outcome) (hadmissible : request.Admissible)
    (hfile : path.expandHome s.env.home = some file) (hstands : StandsFor file rules w.disk)
    (hreads : RuleFile.ReadsBack rules) : Answered file request rules w.disk outcome := by
  have hloaded : RuleFile.load s.env path w = (w, .ok rules) :=
    load_of_holds hfile hstands.holds hreads hstands.storable
  cases hconcluded with
  | @carriedOut others before ended hload hfits hdisk hlog hcode =>
      rw [hloaded, Except.ok.injEq] at hload
      subst hload
      obtain ⟨disk', hdeposit, hthere⟩ := hstands.canWrite (request.result rules)
      have hanswer : request.answer? rules = some (request.result rules) :=
        (RuleRequest.answer?_eq_some_iff hstands.nodup).mpr ⟨hfits, rfl⟩
      have hafter : (afterSave s.env path (request.result rules) before).disk = disk' := by
        rw [afterSave_disk, hdisk, RuleFile.save_of_deposit hfile hdeposit]
      rw [← hafter] at hdeposit hthere
      exact .accepted hanswer hdeposit hthere
        (hcode.mpr (canConfirm_of_admissible hadmissible rules))
  | refused hunfit hdisk hcode =>
      refine .refused ?_ hdisk hcode
      rw [Option.eq_none_iff_forall_ne_some]
      intro changed hanswer
      have hfits := ((RuleRequest.answer?_eq_some_iff hstands.nodup).mp hanswer).1
      exact hunfit rules (by rw [hloaded]) hfits

end HeaderAudit.CommandLine
