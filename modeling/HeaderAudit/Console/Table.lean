import HeaderAudit.Console.Paint
import HeaderAudit.Number.Binary64

/-!
# Tables

A table has a title, a heading for each column and rows of cells between ruled lines. A column is as wide
as its widest cell. When the columns together are wider than the room, the widest ones give way first,
down to the next widest, and columns of one width share what is to be saved. A cell that has no room
between its blanks is left blank.
-/

namespace HeaderAudit.Console

structure Column where
  heading : Text
  justify : Justify
  overflow : Overflow
  deriving DecidableEq, Repr, Inhabited

def Column.plain (heading : Text) : Column := ⟨heading, .left, .ellipsis⟩

/-- A cell is read as markup or has its text as it is. -/
inductive Cell where
  | markup (t : Text)
  | text (t : Text)
  deriving DecidableEq, Repr, Inhabited

def Cell.render (library : Library) : Cell → Except Markup.Error Styled
  | markup t => Markup.render library t
  | text t => .ok (.plain (Markup.shown t))

structure Table where
  title : Text
  columns : List Column
  rows : List (List Cell)
  deriving DecidableEq, Repr, Inhabited

namespace Table

def endsLine (c : Char) : Bool :=
  [0x0A, 0x1C, 0x1D, 0x1E, 0x85, 0x2028, 0x2029].contains c.toNat

def contentWidth (t : Text) : Nat :=
  ((Text.fields '\n' (t.map fun c => if endsLine c then '\n' else c)).map Text.width).foldl max 0

/-- A cell has one blank on either side. -/
def padding : Nat := 2

/-- The width that the cells of a column ask for when there is so much room. -/
def columnWidth (room : Nat) (cells : List Text) : Nat :=
  if room ≤ padding then room
  else min room ((cells.map contentWidth).foldl max 0 + padding)

def total (widths : List Nat) : Nat := widths.foldr (· + ·) 0

/-- Takes an amount from the widths in equal parts, from each no more than its limit. A width without a
limit is left as it is; the second number counts those with one. -/
def reduceEvenly : Nat → Nat → List (Nat × Nat) → List Nat
  | _, _, [] => []
  | excess, count, (width, limit) :: rest =>
    if limit = 0 then width :: reduceEvenly excess count rest
    else
      let part := min limit (Binary64.roundQuotient excess count)
      (width - part) :: reduceEvenly (excess - part) (count - 1) rest

def reduceWithin (excess : Nat) (limited : List (Nat × Nat)) : List Nat :=
  reduceEvenly excess (limited.countP (·.2 ≠ 0)) limited

/-- One step of narrowing: the widest columns give way, at most down to the next widest. -/
def narrowWidest (excess : Nat) (widths : List Nat) : List Nat :=
  let widest := widths.foldl max 0
  let next := (widths.filter (· ≠ widest)).foldl max 0
  let limit := min excess (widest - next)
  reduceWithin excess (widths.map fun w => (w, if w = widest then limit else 0))

/-- Narrows the columns until they fit into the room; every step saves at least one column. -/
def narrow (room : Nat) : Nat → List Nat → List Nat
  | 0, widths => widths
  | steps + 1, widths =>
    if total widths ≤ room then widths
    else narrow room steps (narrowWidest (total widths - room) widths)

def ruleWidth (table : Table) : Nat := table.columns.length + 1

/-- The cells of each column below its heading. -/
def columnCells (table : Table) : List (List Cell) :=
  (List.range table.columns.length).map fun n =>
    .text ((table.columns[n]?.map Column.heading).getD []) :: table.rows.map fun row => row.getD n default

/-- What the cells of each column show. They are not looked at if no column has room for anything. -/
def shownCells (library : Library) (room : Nat) (table : Table) :
    Except Markup.Error (List (List Styled)) :=
  if room ≤ padding then .ok (table.columnCells.map fun cells => cells.map fun _ => default)
  else table.columnCells.mapM fun cells => cells.mapM (Cell.render library)

def widths (room : Nat) (cells : List (List Text)) : List Nat :=
  let wanted := cells.map fun column => max 1 (columnWidth room column)
  if total wanted ≤ room then wanted
  else List.zipWith columnWidth (narrow room (total wanted - room) wanted) cells

def cellLines (width : Nat) (column : Column) (s : Styled) : Except Markup.Error (List Text) := do
  if width ≤ padding then .ok []
  else
    let lines ← paint (Wrap.lines (width - padding) column.justify column.overflow s)
    .ok (lines.map fun line =>
      Text.setWidth width (' ' :: Text.setWidth (width - padding) line ++ [' ']))

/-- Fills the lines of a cell up to a height: a heading stands at the bottom and a cell at the top. -/
def fillLines (heading : Bool) (height width : Nat) (lines : List Text) : List Text :=
  let fill := List.replicate (height - lines.length) (Wrap.blanks width)
  if heading then fill ++ lines else lines ++ fill

def rowLines (heading : Bool) (widths : List Nat) (columns : List Column) (row : List Styled) :
    Except Markup.Error (List Text) := do
  let cells ← ((widths.zip columns).zip row).mapM fun ((width, column), s) => do
    .ok (width, ← cellLines width column s)
  let height := (cells.map (·.2.length)).foldl max 1
  let filled := cells.map fun (width, lines) => fillLines heading height width lines
  let bar := if heading then '┃' else '│'
  .ok ((List.range height).map fun n =>
    bar :: Text.join [bar] (filled.map fun lines => lines.getD n []) ++ [bar])

def rule (first fill between last : Char) (widths : List Nat) : Text :=
  first :: Text.join [between] (widths.map (List.replicate · fill)) ++ [last]

/-- The lines of a table whose cells show this, column by column. -/
def layOut (room : Nat) (table : Table) (cells : List (List Styled)) :
    Except Markup.Error (List Text) := do
  let widths := widths room (cells.map fun column => column.map Styled.text)
  let row := fun n => cells.map fun column => column.getD n default
  let heading ← rowLines true widths table.columns (row 0)
  let rows ← (List.range table.rows.length).mapM fun n =>
    rowLines false widths table.columns (row (n + 1))
  .ok (Wrap.textLines (total widths + table.ruleWidth) .center .fold table.title
    ++ [rule '┏' '━' '┳' '┓' widths]
    ++ heading
    ++ [rule '┡' '━' '╇' '┩' widths]
    ++ rows.flatten
    ++ [rule '└' '─' '┴' '┘' widths])

def lines (library : Library) (room : Nat) (table : Table) : Except Markup.Error (List Text) := do
  let inner := room - table.ruleWidth
  table.layOut inner (← table.shownCells library inner)

end Table

end HeaderAudit.Console
