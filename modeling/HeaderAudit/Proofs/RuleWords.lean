import HeaderAudit.CommandLine.Rules
import HeaderAudit.Proofs.RuleLedger

/-!
# What the words of a command request

The words behind a command on rules are read and checked before anything else is done.  What is left
is a request, unless the command only shows something or the words are refused.  Words that do not
look like options are taken as they stand, and the kind of a rule may be written in any letter case.
-/

namespace HeaderAudit.CommandLine

variable {s : Setting} {disk : Disk} {w : World} {input : List UInt8} {command : Command}
  {words : List Text} {line : Words} {kind : RuleKind}

/-- What a line that has been read requests, unless the command only shows something. -/
def requestedBy? (s : Setting) (w : World) (line : Words) : Command → Option RuleRequest
  | .rulesAdd =>
    (ruleKind? (line.argument 0)).map fun kind =>
      .add ⟨kind, line.argument 1, (RulesCommand.newId s line w).1⟩
  | .rulesUpdate =>
    (ruleKind? (line.argument 1)).map fun kind => .update ⟨kind, line.argument 2, line.argument 0⟩
  | .rulesRemove => some (.remove (line.argument 0))
  | _ => none

/-- What the words behind a command request; clearing has to be consented to. -/
def requestOf? (s : Setting) (w : World) (command : Command) (words : List Text) :
    Option RuleRequest :=
  if command = .rulesClear then
    match readValues w.disk s.input .rulesClear words with
    | .error _ => none
    | .ok line =>
      match RulesCommand.consent s line, line.extraMisuse? .rulesClear with
      | .ok _, none => some .clear
      | _, _ => none
  else
    match readLine w.disk s.input command words with
    | .error _ => none
    | .ok line => requestedBy? s w line command

theorem newId_ne_nil (hids : ∀ n, s.env.idOf n ≠ []) (line : Words) (w : World) :
    (RulesCommand.newId s line w).1 ≠ [] := by
  rw [RulesCommand.newId.eq_def]
  split
  · exact List.cons_ne_nil _ _
  · exact hids _

/-- What is requested is said by the line that has been read, unless it is to clear the rules. -/
theorem exists_line_of_requestOf? {request : RuleRequest}
    (hrequest : requestOf? s w command words = some request) (hclear : request ≠ .clear) :
    command ≠ .rulesClear ∧ ∃ line, readLine w.disk s.input command words = .ok line ∧
      requestedBy? s w line command = some request := by
  unfold requestOf? at hrequest
  by_cases hcommand : command = .rulesClear
  · rw [if_pos hcommand] at hrequest
    split at hrequest
    · cases hrequest
    · split at hrequest
      · cases hrequest
        exact absurd rfl hclear
      · cases hrequest
  · rw [if_neg hcommand] at hrequest
    split at hrequest
    · cases hrequest
    · rename_i line hline
      exact ⟨hcommand, line, hline, hrequest⟩

/-- A rule to be added has an id: an empty one counts as none, and then one is made up. -/
theorem id_ne_nil_of_requestOf?_add (hids : ∀ n, s.env.idOf n ≠ []) {rule : Rule}
    (hrequest : requestOf? s w command words = some (.add rule)) : rule.id ≠ [] := by
  obtain ⟨-, line, -, hrequested⟩ := exists_line_of_requestOf? hrequest nofun
  cases command with
  | rulesAdd =>
      rw [requestedBy?, Option.map_eq_some_iff] at hrequested
      obtain ⟨kind, -, hrule⟩ := hrequested
      cases hrule
      exact newId_ne_nil hids line w
  | rulesUpdate =>
      rw [requestedBy?, Option.map_eq_some_iff] at hrequested
      obtain ⟨kind, -, hrule⟩ := hrequested
      cases hrule
  | _ => cases hrequested

/-! ## The kinds among the words -/

theorem argumentFault_of_argumentMisuse? {specs : List ArgumentSpec} {n : Nat} {spec : ArgumentSpec}
    (hmisuse : Words.argumentMisuse? disk input specs words = none)
    (hspec : specs[n]? = some spec) :
    argumentFault disk input (words.getD n []) spec.kind = none := by
  induction specs generalizing words n with
  | nil => simp at hspec
  | cons first specs ih =>
      cases words with
      | nil => simp [Words.argumentMisuse?] at hmisuse
      | cons word rest =>
          rw [Words.argumentMisuse?] at hmisuse
          cases hfault : argumentFault disk input word first.kind with
          | some fault => simp [hfault] at hmisuse
          | none =>
              simp only [hfault] at hmisuse
              cases n with
              | zero =>
                  simp only [List.getElem?_cons_zero, Option.some.injEq] at hspec
                  rw [← hspec]
                  exact hfault
              | succ n =>
                  rw [List.getElem?_cons_succ] at hspec
                  have hrest := ih hmisuse hspec
                  exact hrest

theorem argumentMisuse?_of_readLine
    (hline : readLine disk input command words = .ok line) :
    Words.argumentMisuse? disk input command.arguments line.rest = none := by
  unfold readLine at hline
  cases hread : readValues disk input command words with
  | error ended => simp [hread, bind, Except.bind] at hline
  | ok values =>
      simp only [hread, bind, Except.bind] at hline
      cases hextra : values.extraMisuse? command with
      | some misuse => simp [hextra, refuse] at hline
      | none =>
          simp only [hextra, Except.ok.injEq] at hline
          subst hline
          unfold readValues at hread
          split at hread
          · cases hread
          · rename_i given _
            cases hnotice : given.notice? with
            | some o => simp [hnotice] at hread
            | none =>
                cases hmisuse : given.misuse? disk input command with
                | some misuse => simp [hnotice, hmisuse, refuse] at hread
                | none =>
                    simp only [hnotice, hmisuse, Except.ok.injEq] at hread
                    subst hread
                    rw [Words.misuse?, Option.or_eq_none_iff] at hmisuse
                    exact hmisuse.2

/-- In a line that has been read, the word for a kind names one. -/
theorem ruleKind?_of_readLine (hline : readLine disk input command words = .ok line) {n : Nat}
    (hkind : command.arguments[n]? = some Command.kindArgument) :
    ruleKind? (line.argument n) = some (RulesCommand.kindAt n line) := by
  have hfault := argumentFault_of_argumentMisuse? (argumentMisuse?_of_readLine hline) hkind
  change argumentFault disk input (line.argument n) .ruleKind = none at hfault
  unfold argumentFault at hfault
  unfold RulesCommand.kindAt
  cases hnamed : ruleKind? (line.argument n) with
  | none => simp [hnamed] at hfault
  | some kind => rfl

theorem ruleKind?_eq_some_iff {word : Text} :
    ruleKind? word = some kind ↔ Text.fold word = kind.name := by
  unfold ruleKind?
  constructor
  · intro hnamed
    have hname : kind.name = Text.fold word := by simpa using List.find?_some hnamed
    exact hname.symm
  · intro hname
    rw [hname, RuleKind.ofName?_name]

/-- A word for a kind does not begin with a dash. -/
theorem isOption_of_fold_eq_name {word : Text} (hname : Text.fold word = kind.name) :
    Words.isOption word = false := by
  unfold Words.isOption
  split
  · rename_i c rest
    have hdash : Text.fold ('-' :: c :: rest) = '-' :: Text.fold (c :: rest) := rfl
    rw [hdash] at hname
    cases kind <;> cases hname
  · rfl

/-! ## Plain words -/

theorem readAfter_of_plain (options : List OptionSpec)
    (hplain : ∀ word ∈ words, Words.isOption word = false) :
    Words.readAfter options true none words = .ok ⟨[], words⟩ := by
  induction words with
  | nil => rfl
  | cons word rest ih =>
      have hword := hplain word List.mem_cons_self
      have hrest := ih fun other hother => hplain other (List.mem_cons_of_mem word hother)
      have hdashes : word ≠ ['-', '-'] := by
        rintro rfl
        cases hword
      rw [Words.readAfter, if_neg hdashes, if_neg (by simp [hword]), if_pos rfl, hrest]
      rfl

/-- The words give these arguments as they stand: none of them looks like an option, or two dashes
come first. -/
inductive Words.Spell (arguments : List Text) : List Text → Prop where
  | plainly : (∀ word ∈ arguments, Words.isOption word = false) → Spell arguments arguments
  | behindDashes : Spell arguments (['-', '-'] :: arguments)

theorem readAfter_of_spell {arguments : List Text} (hspell : Words.Spell arguments words)
    (options : List OptionSpec) :
    Words.readAfter options true none words = .ok ⟨[], arguments⟩ := by
  cases hspell with
  | plainly hplain => exact readAfter_of_plain options hplain
  | behindDashes => rw [Words.readAfter, if_pos rfl]

theorem readLine_of_spell {arguments : List Text} (hgroup : command.isGroup = false)
    (hspell : Words.Spell arguments words)
    (hmisuse : Words.argumentMisuse? disk input command.arguments arguments = none)
    (hlength : arguments.length ≤ command.arguments.length) :
    readLine disk input command words = .ok ⟨[], arguments⟩ := by
  have hread : Words.read command.options (!command.isGroup) words = .ok ⟨[], arguments⟩ := by
    rw [hgroup]
    exact readAfter_of_spell hspell command.options
  have hvalues : readValues disk input command words = .ok ⟨[], arguments⟩ := by
    unfold readValues
    have hnone : Words.misuse? disk input command ⟨[], arguments⟩ = none := hmisuse
    simp only [hread, hnone]
    rfl
  have hextra : Words.extraMisuse? command ⟨[], arguments⟩ = none := by
    simp [Words.extraMisuse?, Words.extra, List.drop_eq_nil_of_le hlength]
  unfold readLine
  simp only [hvalues, bind, Except.bind, hextra]

/-- A word that is no option chooses the command of that name, with the words behind it. -/
theorem choose_of_plain {group command : Command} {name : Text} {words : List Text}
    (hgroup : group.isGroup = true) (harguments : group.arguments = [])
    (hplain : Words.isOption name = false) (hname : group.members.lookup name = some command) :
    choose disk group (name :: words) = .ok ⟨⟨[], name :: words⟩, command, words⟩ := by
  have hdashes : name ≠ ['-', '-'] := by
    rintro rfl
    cases hplain
  have hread : Words.read group.options (!group.isGroup) (name :: words) =
      .ok ⟨[], name :: words⟩ := by
    rw [hgroup, Words.read, Words.readAfter, if_neg hdashes, if_neg (by simp [hplain])]
    rfl
  have hvalues : readValues disk [] group (name :: words) = .ok ⟨[], name :: words⟩ := by
    have hnone : Words.misuse? disk [] group ⟨[], name :: words⟩ = none := by
      unfold Words.misuse?
      rw [harguments]
      rfl
    unfold readValues
    simp only [hread, hnone]
    rfl
  unfold choose
  simp only [hvalues, bind, Except.bind, hname]
  rfl

theorem argumentMisuse?_kind_pattern {type pattern : Text} (hkind : Text.fold type = kind.name) :
    Words.argumentMisuse? disk input Command.rulesAdd.arguments [type, pattern] = none := by
  have hnamed := ruleKind?_eq_some_iff.mpr hkind
  simp [Command.arguments, Command.kindArgument, Words.argumentMisuse?, argumentFault, hnamed]

theorem requestOf?_add {type pattern : Text} (hkind : Text.fold type = kind.name)
    (hspell : Words.Spell [type, pattern] words) :
    requestOf? s w .rulesAdd words = some (.add ⟨kind, pattern, (w.freshId s.env).1⟩) := by
  have hnamed := ruleKind?_eq_some_iff.mpr hkind
  have hline : readLine w.disk s.input .rulesAdd words = .ok ⟨[], [type, pattern]⟩ :=
    readLine_of_spell rfl hspell (argumentMisuse?_kind_pattern hkind) (Nat.le_refl _)
  unfold requestOf?
  rw [if_neg (by decide), hline]
  simp [requestedBy?, Words.argument, hnamed, RulesCommand.newId, Words.value?, Words.valuesOf]

theorem requestOf?_add_named {id type pattern : Text} (hid : id ≠ [])
    (hkind : Text.fold type = kind.name) (hpattern : Words.isOption pattern = false) :
    requestOf? s w .rulesAdd [idOption.long, id, type, pattern] =
      some (.add ⟨kind, pattern, id⟩) := by
  have hnamed := ruleKind?_eq_some_iff.mpr hkind
  have htype := isOption_of_fold_eq_name hkind
  have hplain := readAfter_of_plain Command.rulesAdd.options
    (show ∀ word ∈ [type, pattern], Words.isOption word = false by simp [htype, hpattern])
  have hread : Words.read Command.rulesAdd.options true [idOption.long, id, type, pattern] =
      .ok ⟨[(idOption, id)], [type, pattern]⟩ := by
    have hwaiting : Words.read Command.rulesAdd.options true [idOption.long, id, type, pattern] =
        ((Words.readAfter Command.rulesAdd.options true none [type, pattern]).map
          (Words.addOptions [(idOption, id)])).map (Words.addOptions []) := rfl
    rw [hwaiting, hplain]
    rfl
  have hmisuse := @argumentMisuse?_kind_pattern w.disk s.input kind type pattern hkind
  have hvalues : readValues w.disk s.input .rulesAdd [idOption.long, id, type, pattern] =
      .ok ⟨[(idOption, id)], [type, pattern]⟩ := by
    have hnone :
        Words.misuse? w.disk s.input .rulesAdd ⟨[(idOption, id)], [type, pattern]⟩ = none := hmisuse
    unfold readValues
    simp only [Command.isGroup, Bool.not_false, hread, hnone]
    rfl
  have hline : readLine w.disk s.input .rulesAdd [idOption.long, id, type, pattern] =
      .ok ⟨[(idOption, id)], [type, pattern]⟩ := by
    unfold readLine
    rw [hvalues]
    rfl
  obtain ⟨c, rest, rfl⟩ := List.exists_cons_of_ne_nil hid
  unfold requestOf?
  rw [if_neg (by decide), hline]
  simp [requestedBy?, Words.argument, hnamed, RulesCommand.newId, Words.value?, Words.valuesOf]

theorem requestOf?_update {id type pattern : Text} (hkind : Text.fold type = kind.name)
    (hspell : Words.Spell [id, type, pattern] words) :
    requestOf? s w .rulesUpdate words = some (.update ⟨kind, pattern, id⟩) := by
  have hnamed := ruleKind?_eq_some_iff.mpr hkind
  have hline : readLine w.disk s.input .rulesUpdate words = .ok ⟨[], [id, type, pattern]⟩ :=
    readLine_of_spell rfl hspell (argumentMisuse?_kind_pattern hkind) (Nat.le_refl _)
  unfold requestOf?
  rw [if_neg (by decide), hline]
  simp [requestedBy?, Words.argument, hnamed]

theorem requestOf?_remove {id : Text} (hspell : Words.Spell [id] words) :
    requestOf? s w .rulesRemove words = some (.remove id) := by
  have hline : readLine w.disk s.input .rulesRemove words = .ok ⟨[], [id]⟩ :=
    readLine_of_spell rfl hspell rfl (Nat.le_refl _)
  unfold requestOf?
  rw [if_neg (by decide), hline]
  rfl

theorem requestOf?_clear : requestOf? s w .rulesClear [yesOption.long] = some .clear := rfl

end HeaderAudit.CommandLine
