import HeaderAudit.Proofs.LiteralText
import HeaderAudit.Proofs.ShownReports

/-!
# Rules in a table

The ids and the patterns of the rules are free text, and the table of the rules takes them for
markups.  Nothing of them is taken for markup exactly if no bracket in them begins a tag or stands
behind a backslash; names of emoji in them are replaced all the same.  A tag that opens a style is
left out of the table.  A tag at fault, such as one that closes what is not open, keeps the whole
table from being printed, unless it is too narrow to show anything of its cells.
-/

namespace HeaderAudit

open Console (Cell Library Table)
open Console.Emoji (Pictures Unmarked replaceWith)
open Console.Markup (CanShow Literal WellTagged literal render)

variable {library : Library} {rule : Rule} {rules : List Rule} {room : Nat}

/-! ## The rows of the table -/

/-- The row of a rule with its id and its pattern not looked at for markup.  Names of emoji in them
are replaced. -/
def Rule.literalRow (pictures : Pictures) (rule : Rule) : List Cell :=
  [.text (replaceWith pictures rule.id), .text rule.kind.displayName,
    .text (replaceWith pictures rule.pattern)]

def literalTable (pictures : Pictures) (rules : List Rule) : Table :=
  ⟨"Exclusion Rules", ruleColumns, rules.map (Rule.literalRow pictures)⟩

theorem RuleKind.render_displayName (kind : RuleKind) :
    render library kind.displayName = .ok (.plain kind.displayName) := by
  cases kind <;> rfl

theorem alike_markup_text_iff (hpictures : Unmarked library.pictures) {t : Text} :
    Cell.Alike library (.markup t) (.text (replaceWith library.pictures t)) ↔ Literal t :=
  Console.Markup.render_eq_literal_iff hpictures

theorem Rule.alike_literalRow_iff (hpictures : Unmarked library.pictures) :
    List.Forall₂ (Cell.Alike library) rule.row (rule.literalRow library.pictures) ↔
      Literal rule.id ∧ Literal rule.pattern := by
  have hkind : Cell.Alike library (.markup rule.kind.displayName) (.text rule.kind.displayName) := by
    have hshown : Console.Markup.shown rule.kind.displayName = rule.kind.displayName := by
      cases rule.kind <;> rfl
    rw [Cell.Alike, Cell.render, Cell.render, rule.kind.render_displayName, hshown]
  rw [row, literalRow, List.forall₂_cons, List.forall₂_cons, List.forall₂_cons,
    alike_markup_text_iff hpictures, alike_markup_text_iff hpictures]
  simp [hkind]

theorem Rule.canShow_row (hid : CanShow library rule.id) (hpattern : CanShow library rule.pattern) :
    ∀ cell ∈ rule.row, cell.CanShow library := by
  have hkind : CanShow library rule.kind.displayName :=
    ⟨_, rule.kind.render_displayName, fun _ hspan => absurd hspan List.not_mem_nil⟩
  rw [row]
  simp only [List.forall_mem_cons]
  exact ⟨hid, hkind, hpattern, by simp⟩

/-! ## Printing the table -/

theorem length_columns_rulesTable (rules : List Rule) : (rulesTable rules).columns.length = 3 := rfl

/-- There is room for something in the cells. -/
theorem room_rulesTable (hroom : 7 ≤ room) (rules : List Rule) :
    Table.padding + (rulesTable rules).ruleWidth < room := by
  rw [Table.ruleWidth, length_columns_rulesTable, Table.padding]
  omega

theorem printRulesTerminal_of_ne_nil (hrules : rules ≠ []) :
    printRulesTerminal library room rules =
      Console.printTable library room (rulesTable rules) := by
  have hempty : ¬ rules.isEmpty = true := by simpa using hrules
  rw [printRulesTerminal, if_neg hempty]

theorem exists_printRulesTerminal
    (hrules : ∀ rule ∈ rules, CanShow library rule.id ∧ CanShow library rule.pattern) (room : Nat) :
    ∃ t, printRulesTerminal library room rules = .ok t := by
  by_cases hempty : rules = []
  · subst hempty
    have hnotice : CanShow library "[dim]No exclusion rules configured.[/]" :=
      Console.Markup.canShow_of_styled isStyle_dim (by decide)
    exact Console.Markup.exists_printMarkup hnotice room
  · rw [printRulesTerminal_of_ne_nil hempty]
    refine Console.exists_printTable ?_ room
    intro row hrow
    obtain ⟨rule, hrule, rfl⟩ := List.mem_map.mp hrow
    exact Rule.canShow_row (hrules rule hrule).1 (hrules rule hrule).2

/-- A tag at fault keeps all rules from being listed. -/
theorem exists_error_of_not_wellTagged (hroom : 7 ≤ room) (hrule : rule ∈ rules)
    (hfault : ¬ WellTagged library rule.id ∨ ¬ WellTagged library rule.pattern) :
    ∃ e, printRulesTerminal library room rules = .error e := by
  rw [printRulesTerminal_of_ne_nil (List.ne_nil_of_mem hrule)]
  cases hprinted : Console.printTable library room (rulesTable rules) with
  | error e => exact ⟨e, rfl⟩
  | ok t =>
      have hrow : rule.row ∈ (rulesTable rules).rows := List.mem_map_of_mem hrule
      have hlength : rule.row.length ≤ (rulesTable rules).columns.length := by
        rw [length_columns_rulesTable]
        exact Nat.le_refl 3
      have hrender := Console.exists_render_of_printTable (room_rulesTable hroom rules) hprinted hrow
        hlength
      have hid := hrender (.markup rule.id) (by simp [Rule.row])
      have hpattern := hrender (.markup rule.pattern) (by simp [Rule.row])
      simp only [Cell.render, Console.Markup.exists_render_iff] at hid hpattern
      exact absurd hfault (by simp [hid, hpattern])

/-- Texts that are no markups can be shown. -/
theorem Console.Markup.Literal.canShow {t : Text} (ht : Literal t) : CanShow library t :=
  ⟨_, ht.render_eq, fun _ hspan => absurd hspan List.not_mem_nil⟩

theorem printRulesTerminal_of_literal (hpictures : Unmarked library.pictures) (hrules : rules ≠ [])
    (hliteral : ∀ rule ∈ rules, Literal rule.id ∧ Literal rule.pattern) (room : Nat) :
    printRulesTerminal library room rules =
      Console.printTable library room (literalTable library.pictures rules) := by
  have hrows : List.Forall₂ (List.Forall₂ (Cell.Alike library)) (rules.map Rule.row)
      (rules.map (Rule.literalRow library.pictures)) := by
    rw [List.forall₂_map_left_iff, List.forall₂_map_right_iff, List.forall₂_same]
    exact fun rule hrule => (Rule.alike_literalRow_iff hpictures).mpr (hliteral rule hrule)
  have hlines : (rulesTable rules).lines library room =
      (literalTable library.pictures rules).lines library room := Table.lines_congr hrows room
  rw [printRulesTerminal_of_ne_nil hrules, Console.printTable, Console.printTable, hlines]

/-- The row of a rule looks like its literal row exactly if no bracket in its id and its pattern begins
a tag or stands behind a backslash; if moreover no emoji is named and no character is one that is never
shown, they are listed as they are.  Rules without markup are listed at every width, as literal rows.
Any rules are listed if their ids and patterns can be shown; the table then lays out what its cells
show.  A tag at fault in one of them keeps all rules from being listed, unless the console has less
than seven columns. -/
theorem rules_are_listed_literally_iff (library : Library) (hpictures : Unmarked library.pictures)
    (rules : List Rule) :
    (∀ room, ∃ t, printRulesTerminal library room [] = .ok t) ∧
      (∀ rule : Rule, List.Forall₂ (Cell.Alike library) rule.row
          (rule.literalRow library.pictures) ↔ Literal rule.id ∧ Literal rule.pattern) ∧
      (∀ t, render library t = .ok (.plain t) ↔ Literal t ∧ literal library.pictures t = t) ∧
      (rules ≠ [] → (∀ rule ∈ rules, Literal rule.id ∧ Literal rule.pattern) → ∀ room,
        ∃ t, printRulesTerminal library room rules = .ok t ∧
          Console.printTable library room (literalTable library.pictures rules) = .ok t) ∧
      ((∀ rule ∈ rules, CanShow library rule.id ∧ CanShow library rule.pattern) → ∀ room,
        ∃ t, printRulesTerminal library room rules = .ok t) ∧
      (rules ≠ [] → ∀ room t, 7 ≤ room → (printRulesTerminal library room rules = .ok t ↔
        ∃ shown lines, (rulesTable rules).Shows library shown ∧
          (rulesTable rules).layOut (room - 4) shown = .ok lines ∧
          t = Console.printLines room lines)) ∧
      ∀ rule ∈ rules, ¬ WellTagged library rule.id ∨ ¬ WellTagged library rule.pattern →
        ∀ room, 7 ≤ room → ∃ e, printRulesTerminal library room rules = .error e := by
  refine ⟨exists_printRulesTerminal (by simp), fun _ => Rule.alike_literalRow_iff hpictures,
    fun _ => Console.Markup.render_eq_plain_iff hpictures, ?_, exists_printRulesTerminal, ?_,
    fun rule hrule hfault room hroom => exists_error_of_not_wellTagged hroom hrule hfault⟩
  · intro hrules hliteral room
    obtain ⟨t, ht⟩ := @exists_printRulesTerminal library rules
      (fun rule hrule => ⟨(hliteral rule hrule).1.canShow, (hliteral rule hrule).2.canShow⟩) room
    exact ⟨t, ht, by rw [← printRulesTerminal_of_literal hpictures hrules hliteral, ht]⟩
  · intro hrules room t hroom
    rw [printRulesTerminal_of_ne_nil hrules]
    exact Console.printTable_eq_ok_iff (room_rulesTable hroom rules)

namespace Tagged

/-- No name stands for a picture. -/
def nameless : Library := ⟨fun _ => none, fun _ => none⟩

/-- Brackets that begin no tags. -/
def listed : List Rule := [⟨.path, "/a[0]", "1"⟩, ⟨.host, "a.example", "x[Y]"⟩]

theorem bracketed_rules_are_listed :
    Unmarked nameless.pictures ∧ ∃ t, printRulesTerminal nameless 80 listed = .ok t ∧
      Console.printTable nameless 80 (literalTable nameless.pictures listed) = .ok t := by
  have hpictures : Unmarked nameless.pictures := by
    intro name picture hpicture
    cases hpicture
  have hrendered : ∀ rule ∈ listed, render nameless rule.id = .ok (.plain rule.id) ∧
      render nameless rule.pattern = .ok (.plain rule.pattern) := by
    decide +kernel
  obtain ⟨-, -, hplain, hlisted, -⟩ := rules_are_listed_literally_iff nameless hpictures listed
  refine ⟨hpictures, hlisted (by decide) (fun rule hrule => ?_) 80⟩
  obtain ⟨hid, hpattern⟩ := hrendered rule hrule
  exact ⟨((hplain rule.id).mp hid).1, ((hplain rule.pattern).mp hpattern).1⟩

theorem closing_tag_prevents_listing :
    printRulesTerminal nameless 80 [⟨.path, "[/x]", "1"⟩] = .error (.notOpen "/x" 0) ∧
      (render nameless "[bold]/x[/bold]").toOption.map (·.text) = some "/x".toList := by
  decide +kernel

end Tagged

end HeaderAudit
