import HeaderAudit.Proofs.ShownMarkup
import Mathlib.Data.List.Forall2

/-!
# Tables that can be printed

A table is printed if all its cells can be shown.  If there is room for anything in a cell, a table
is printed only if all its cells can be read, and then it lays out what they show.
-/

namespace HeaderAudit

/-! ## Items that are handled in turn -/

section MapM

variable {α β ε : Type} {f : α → Except ε β} {items : List α}

theorem exists_mapM_ok_iff :
    (∃ results, items.mapM f = .ok results) ↔ ∀ item ∈ items, ∃ result, f item = .ok result := by
  induction items with
  | nil => simp [pure, Except.pure]
  | cons item rest ih =>
      rw [List.forall_mem_cons, ← ih, List.mapM_cons]
      cases hitem : f item with
      | error e => simp [bind, Except.bind]
      | ok result => cases hrest : rest.mapM f <;> simp [bind, Except.bind, pure, Except.pure]

theorem mapM_eq_ok_iff {results : List β} :
    items.mapM f = .ok results ↔
      List.Forall₂ (fun item result => f item = .ok result) items results := by
  induction items generalizing results with
  | nil => simp [pure, Except.pure, eq_comm]
  | cons item rest ih =>
      rw [List.mapM_cons, List.forall₂_cons_left_iff]
      simp only [← ih]
      cases f item with
      | error e => simp [bind, Except.bind]
      | ok result =>
          cases rest.mapM f <;> simp [bind, Except.bind, pure, Except.pure, eq_comm]

/-- What the left partners tell of the right ones. -/
theorem forall_mem_of_forall₂ {R : α → β → Prop} {P : β → Prop} {results : List β}
    (hall : List.Forall₂ R items results) (hP : ∀ item ∈ items, ∀ result, R item result → P result) :
    ∀ result ∈ results, P result := by
  induction hall with
  | nil => simp
  | cons hfirst _ ih =>
      rw [List.forall_mem_cons] at hP ⊢
      exact ⟨hP.1 _ hfirst, ih hP.2⟩

end MapM

namespace Console

variable {library : Library} {room : Nat} {table : Table} {shown : List (List Styled)}

/-- The cell can be read, and its styles can be looked up. -/
def Cell.CanShow (library : Library) (cell : Cell) : Prop :=
  ∃ s, cell.render library = .ok s ∧ StylesWithin CanLookUp s.spans

theorem Cell.canShow_text (t : Text) : (Cell.text t).CanShow library :=
  ⟨_, rfl, fun _ hspan => absurd hspan List.not_mem_nil⟩

/-- The cells show the same or have the same fault. -/
def Cell.Alike (library : Library) (cell cell' : Cell) : Prop :=
  cell.render library = cell'.render library

theorem Cell.alike_getD {row row' : List Cell} (hrow : List.Forall₂ (Cell.Alike library) row row')
    (n : Nat) : Cell.Alike library (row.getD n default) (row'.getD n default) := by
  induction hrow generalizing n with
  | nil => rfl
  | cons hcell _ ih =>
      cases n with
      | zero => exact hcell
      | succ n => exact ih n

namespace Table

/-- The cells show this, column by column. -/
def Shows (library : Library) (table : Table) (shown : List (List Styled)) : Prop :=
  List.Forall₂ (List.Forall₂ fun cell s => cell.render library = .ok s) table.columnCells shown

theorem shownCells_eq_ok_iff (hroom : padding < room) :
    table.shownCells library room = .ok shown ↔ table.Shows library shown := by
  rw [shownCells, if_neg (Nat.not_le_of_lt hroom), mapM_eq_ok_iff]
  simp only [mapM_eq_ok_iff]
  exact Iff.rfl

/-- With room for anything a table is read and laid out. -/
theorem lines_eq_ok_iff (hroom : padding + table.ruleWidth < room) {lines : List Text} :
    table.lines library room = .ok lines ↔
      ∃ shown, table.Shows library shown ∧
        table.layOut (room - table.ruleWidth) shown = .ok lines := by
  have hinner : padding < room - table.ruleWidth := by omega
  simp only [← shownCells_eq_ok_iff hinner]
  rw [Table.lines]
  cases table.shownCells library (room - table.ruleWidth) <;> simp [bind, Except.bind]

/-! ## Laying out -/

theorem exists_cellLines {s : Styled} (hs : StylesWithin CanLookUp s.spans) (width : Nat)
    (column : Column) : ∃ lines, cellLines width column s = .ok lines := by
  rw [cellLines]
  by_cases hwidth : width ≤ padding
  · rw [if_pos hwidth]
    exact ⟨_, rfl⟩
  · obtain ⟨texts, hpaint⟩ :=
      @exists_paint_lines s (width - padding) column.justify column.overflow hs
    rw [if_neg hwidth, hpaint]
    exact ⟨_, rfl⟩

theorem exists_rowLines {row : List Styled} (hrow : ∀ s ∈ row, StylesWithin CanLookUp s.spans)
    (heading : Bool) (widths : List Nat) (columns : List Column) :
    ∃ lines, rowLines heading widths columns row = .ok lines := by
  have hcells : ∃ cells, ((widths.zip columns).zip row).mapM
      (fun x => (cellLines x.1.1 x.1.2 x.2).bind fun lines => .ok (x.1.1, lines)) = .ok cells := by
    rw [exists_mapM_ok_iff]
    rintro ⟨⟨width, column⟩, s⟩ hmem
    obtain ⟨lines, hlines⟩ := exists_cellLines (hrow s (List.of_mem_zip hmem).2) width column
    rw [hlines]
    exact ⟨_, rfl⟩
  obtain ⟨cells, hcells⟩ := hcells
  rw [rowLines]
  simp only [bind] at hcells ⊢
  rw [hcells]
  exact ⟨_, rfl⟩

theorem exists_layOut (hshown : ∀ column ∈ shown, ∀ s ∈ column, StylesWithin CanLookUp s.spans) :
    ∃ lines, table.layOut room shown = .ok lines := by
  have hrow : ∀ n, ∀ s ∈ shown.map (fun column => column.getD n default),
      StylesWithin CanLookUp s.spans := by
    intro n s hs
    obtain ⟨column, hcolumn, rfl⟩ := List.mem_map.mp hs
    rw [List.getD_eq_getElem?_getD]
    cases hget : column[n]? with
    | none => exact fun _ hspan => absurd hspan List.not_mem_nil
    | some s => exact hshown column hcolumn s (List.mem_of_getElem? hget)
  obtain ⟨heading, hheading⟩ := exists_rowLines (hrow 0) true
    (widths room (shown.map fun column => column.map Styled.text)) table.columns
  obtain ⟨rows, hrows⟩ := exists_mapM_ok_iff.mpr fun n (_ : n ∈ List.range table.rows.length) =>
    exists_rowLines (hrow (n + 1)) false
      (widths room (shown.map fun column => column.map Styled.text)) table.columns
  rw [layOut]
  simp only [bind, Except.bind, hheading, hrows]
  exact ⟨_, rfl⟩

/-! ## The cells of the rows -/

/-- What holds of the cells of the rows and of blank and plain cells holds of all cells. -/
theorem forall_mem_columnCells {Q : Cell → Prop} (hplain : ∀ t, Q (.text t)) (hblank : Q default)
    (hrows : ∀ row ∈ table.rows, ∀ cell ∈ row, Q cell) :
    ∀ cells ∈ table.columnCells, ∀ cell ∈ cells, Q cell := by
  intro cells hcells
  obtain ⟨n, -, rfl⟩ := List.mem_map.mp hcells
  rw [List.forall_mem_cons]
  refine ⟨hplain _, ?_⟩
  intro cell hcell
  obtain ⟨row, hrow, rfl⟩ := List.mem_map.mp hcell
  rw [List.getD_eq_getElem?_getD]
  cases hget : row[n]? with
  | none => exact hblank
  | some cell => exact hrows row hrow cell (List.mem_of_getElem? hget)

theorem exists_mem_columnCells {row : List Cell} {cell : Cell} (hrow : row ∈ table.rows)
    (hcell : cell ∈ row) (hlength : row.length ≤ table.columns.length) :
    ∃ cells ∈ table.columnCells, cell ∈ cells := by
  obtain ⟨n, hn, rfl⟩ := List.getElem_of_mem hcell
  refine ⟨_, List.mem_map.mpr ⟨n, List.mem_range.mpr (Nat.lt_of_lt_of_le hn hlength), rfl⟩, ?_⟩
  refine List.mem_cons_of_mem _ (List.mem_map.mpr ⟨row, hrow, ?_⟩)
  rw [List.getD_eq_getElem?_getD, List.getElem?_eq_getElem hn, Option.getD_some]

theorem exists_shows_iff :
    (∃ shown, table.Shows library shown) ↔
      ∀ cells ∈ table.columnCells, ∀ cell ∈ cells, ∃ s, cell.render library = .ok s := by
  have hread : (∃ shown, table.Shows library shown) ↔
      ∃ shown, table.columnCells.mapM (fun cells => cells.mapM (Cell.render library)) = .ok shown := by
    simp only [mapM_eq_ok_iff, Shows]
  simp only [hread, exists_mapM_ok_iff]

theorem exists_lines (hrows : ∀ row ∈ table.rows, ∀ cell ∈ row, cell.CanShow library)
    (room : Nat) : ∃ lines, table.lines library room = .ok lines := by
  have hcells : ∀ cells ∈ table.columnCells, ∀ cell ∈ cells, cell.CanShow library :=
    forall_mem_columnCells Cell.canShow_text Markup.canShow_nil hrows
  by_cases hroom : room - table.ruleWidth ≤ padding
  · rw [Table.lines, shownCells, if_pos hroom]
    refine exists_layOut ?_
    intro column hcolumn s hs
    obtain ⟨cells, -, rfl⟩ := List.mem_map.mp hcolumn
    obtain ⟨cell, -, rfl⟩ := List.mem_map.mp hs
    exact fun _ hspan => absurd hspan List.not_mem_nil
  · obtain ⟨shown, hshown⟩ := exists_shows_iff.mpr fun cells hmem cell hcell =>
      (hcells cells hmem cell hcell).imp fun _ hs => hs.1
    have hstyles : ∀ column ∈ shown, ∀ s ∈ column, StylesWithin CanLookUp s.spans := by
      refine forall_mem_of_forall₂ hshown fun cells hmem column hcolumn =>
        forall_mem_of_forall₂ hcolumn fun cell hcell s hrender => ?_
      obtain ⟨s', hrender', hs'⟩ := hcells cells hmem cell hcell
      rw [hrender, Except.ok.injEq] at hrender'
      rw [hrender']
      exact hs'
    obtain ⟨lines, hlines⟩ := @exists_layOut (room - table.ruleWidth) table shown hstyles
    exact ⟨lines, (lines_eq_ok_iff (by omega)).mpr ⟨shown, hshown, hlines⟩⟩

/-- Cells that show the same make tables that look the same. -/
theorem lines_congr {title : Text} {columns : List Column} {rows rows' : List (List Cell)}
    (hrows : List.Forall₂ (List.Forall₂ (Cell.Alike library)) rows rows') (room : Nat) :
    Table.lines library room ⟨title, columns, rows⟩ =
      Table.lines library room ⟨title, columns, rows'⟩ := by
  have hlength := hrows.length_eq
  have hcolumn : ∀ n, (rows.map fun row => row.getD n default).mapM (Cell.render library) =
      (rows'.map fun row => row.getD n default).mapM (Cell.render library) := by
    intro n
    clear hlength
    induction hrows with
    | nil => rfl
    | cons hrow _ ih =>
        have hcell := Cell.alike_getD hrow n
        rw [List.map_cons, List.map_cons, List.mapM_cons, List.mapM_cons, hcell, ih]
  have hshown : ∀ room, shownCells library room ⟨title, columns, rows⟩ =
      shownCells library room ⟨title, columns, rows'⟩ := by
    intro room
    rw [shownCells, shownCells]
    split
    · simp [columnCells, hlength, Function.comp_def]
    · simp only [columnCells, List.mapM_map]
      congr 1
      funext n
      rw [Function.comp_apply, Function.comp_apply, List.mapM_cons, List.mapM_cons, hcolumn]
  simp only [Table.lines, ruleWidth, hshown, layOut, hlength]

end Table

/-! ## Printing -/

open Table (padding)

theorem exists_printTable (hrows : ∀ row ∈ table.rows, ∀ cell ∈ row, cell.CanShow library)
    (room : Nat) : ∃ t, printTable library room table = .ok t := by
  obtain ⟨lines, hlines⟩ := Table.exists_lines hrows room
  rw [printTable]
  split
  · exact ⟨_, rfl⟩
  · rw [hlines]
    exact ⟨_, rfl⟩

/-- With room for anything a table is printed as what its cells show, laid out. -/
theorem printTable_eq_ok_iff (hroom : padding + table.ruleWidth < room) {t : Text} :
    printTable library room table = .ok t ↔
      ∃ shown lines, table.Shows library shown ∧
        table.layOut (room - table.ruleWidth) shown = .ok lines ∧ t = printLines room lines := by
  have hprinted : printTable library room table = .ok t ↔
      ∃ lines, table.lines library room = .ok lines ∧ t = printLines room lines := by
    rw [printTable, if_neg (by omega)]
    cases table.lines library room <;> simp [bind, Except.bind, eq_comm]
  simp only [hprinted, Table.lines_eq_ok_iff hroom]
  exact ⟨fun ⟨lines, ⟨shown, hshown, hlines⟩, ht⟩ => ⟨shown, lines, hshown, hlines, ht⟩,
    fun ⟨shown, lines, hshown, hlines, ht⟩ => ⟨lines, ⟨shown, hshown, hlines⟩, ht⟩⟩

theorem exists_render_of_printTable (hroom : padding + table.ruleWidth < room) {t : Text}
    (hprinted : printTable library room table = .ok t) {row : List Cell} (hrow : row ∈ table.rows)
    (hlength : row.length ≤ table.columns.length) :
    ∀ cell ∈ row, ∃ s, cell.render library = .ok s := by
  intro cell hcell
  obtain ⟨shown, -, hshown, -⟩ := (printTable_eq_ok_iff hroom).mp hprinted
  obtain ⟨cells, hcells, hmem⟩ := Table.exists_mem_columnCells hrow hcell hlength
  exact Table.exists_shows_iff.mp ⟨shown, hshown⟩ cells hcells cell hmem

end Console

end HeaderAudit
