import Reckon.Text.Wrap

/-!
# Tables in boxes

A table has two columns.  It is drawn with plain characters: a box around it, a bar between
its columns, and its title centred above.  A column is as wide as its widest cell if the
screen has room for that.  The room goes first to a column whose cells are not broken into
lines; what does not fit into a column is left out.
-/

namespace Reckon

/-- A column of a table. -/
structure BoxedTable.Column where
  heading : String
  /-- Whether the cells stand at the right edge of the column. -/
  flushRight : Bool := false
  /-- Whether the cells are broken into lines if the column is too narrow. -/
  wraps : Bool := false

/-- A table with a title. -/
structure BoxedTable where
  title : String
  left : BoxedTable.Column
  right : BoxedTable.Column
  /-- Whether the headings are shown; without them the cells touch the box. -/
  headed : Bool := true
  rows : List (String × String)

namespace BoxedTable

/-- The characters of a table that belong to no column. -/
abbrev barCount : Nat := 3

/-- How many blanks stand in front of a cell and behind it. -/
structure Margins where
  before : Nat
  behind : Nat

def leftMargins (table : BoxedTable) : Margins :=
  { before := if table.headed then 1 else 0, behind := 1 }

def rightMargins (table : BoxedTable) : Margins :=
  { before := 1, behind := if table.headed then 1 else 0 }

/-- The width of the widest line of a text. -/
def naturalWidth (text : String) : Nat :=
  ((Text.lines text).map Text.width).foldl max 0

/-- The width of a column that has room for some cells with their margins. -/
def widthFor (margins : Margins) (cells : List String) : Nat :=
  (cells.map naturalWidth).foldl max 0 + margins.before + margins.behind

/-- All rows with the headings, if they are shown. -/
def allRows (table : BoxedTable) : List (String × String) :=
  if table.headed then (table.left.heading, table.right.heading) :: table.rows else table.rows

/-- The widths of the columns on a screen of limited width. -/
def widths (table : BoxedTable) (screen : Nat) : Nat × Nat :=
  let room := screen - barCount
  let left := widthFor table.leftMargins (table.allRows.map (·.1))
  let right := widthFor table.rightMargins (table.allRows.map (·.2))
  if table.left.wraps then
    (min left (room - min right room), min right room)
  else
    (min left room, min right (room - min left room))

/-- The lines of a cell without its margins. -/
def contentLines (column : Column) (width : Nat) (cell : String) : List (List Char) :=
  let fit := if column.flushRight then Text.fitRight width else Text.fitLeft width
  (Text.lines cell).flatMap fun line =>
    let line := Text.expandTabs 0 line
    let pieces := if column.wraps then Text.fill width [] (Text.words line) else [line]
    pieces.map fit

/-- The lines of a cell in a column of given width.  Where the margins leave no room, the cell
is blank. -/
def cellLines (column : Column) (margins : Margins) (width : Nat) (cell : String) :
    List (List Char) :=
  let inner := width - margins.before - margins.behind
  if inner = 0 then
    [Text.blanks width]
  else
    (contentLines column inner cell).map fun line =>
      Text.blanks margins.before ++ line ++ Text.blanks margins.behind

def rowLines (table : BoxedTable) (widths : Nat × Nat) (row : String × String) :
    List (List Char) :=
  let left := cellLines table.left table.leftMargins widths.1 row.1
  let right := cellLines table.right table.rightMargins widths.2 row.2
  (List.range (max left.length right.length)).map fun number =>
    '|' :: left.getD number (Text.blanks widths.1) ++
      '|' :: right.getD number (Text.blanks widths.2) ++ ['|']

/-- A rule across a table, with an inner mark between the columns and outer marks at the
ends. -/
def rule (widths : Nat × Nat) (outer inner : Char) : List Char :=
  outer :: List.replicate widths.1 '-' ++ inner :: List.replicate widths.2 '-' ++ [outer]

/-- The lines of the title above a table; it is broken if the table is too narrow for it. -/
def titleLines (table : BoxedTable) (widths : Nat × Nat) : List (List Char) :=
  let width := widths.1 + widths.2 + barCount
  (Text.chop width [] table.title.toList).map (Text.fitCentre width)

/-- The lines of a table on a screen of limited width, which shows no more than fits. -/
def draw (table : BoxedTable) (screen : Nat) : List String :=
  let widths := table.widths screen
  let border := rule widths '+' '-'
  let heading :=
    if table.headed then
      table.rowLines widths (table.left.heading, table.right.heading) ++ [rule widths '|' '+']
    else
      []
  let body := table.rows.flatMap (table.rowLines widths)
  let lines := table.titleLines widths ++ border :: heading ++ body ++ [border]
  if screen = 0 then [] else lines.map fun line => String.ofList (Text.cut screen line)

end BoxedTable

end Reckon
