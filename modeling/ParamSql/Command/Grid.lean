import ParamSql.Document.JsonWriter
import ParamSql.Row

/-!
# Result tables

Rows as a table of text: a header, a rule, and a line for every row.  The columns are those
of the first row.  Every cell is filled up to the width of its column, which is that of its
widest cell; widths are counted in characters.

## Main definitions

* `Grid.cell`, `Grid.width`
* `Grid.lines`
-/

namespace ParamSql.Grid

/-- How a value is shown in a cell. -/
def cellText : Document.Node → String
  | .null => "NULL"
  | .text s => s
  | v => Document.Json.compact v

/-- The cell of a row in a column: empty where the row does not have the column. -/
def cell (column : String) (row : Row) : String := ((row.get? column).map cellText).getD ""

/-- The width of a column. -/
def width (rows : List Row) (column : String) : Nat :=
  (rows.map fun r => (cell column r).length).foldl max column.length

/-- A text filled up with blanks behind it. -/
def padded (w : Nat) (s : String) : String :=
  s ++ String.ofList (List.replicate (w - s.length) ' ')

/-- A piece of the rule below the header. -/
def bar (w : Nat) : String := String.ofList (List.replicate w '─')

/-- What stands between two cells, and between two pieces of the rule. -/
def cellSeparator : String := " │ "

def barSeparator : String := "─┼─"

/-- A line of cells in columns of these widths. -/
def line (widths : List Nat) (cells : List String) : String :=
  String.intercalate cellSeparator (List.zipWith padded widths cells)

/-- The rule in columns of these widths. -/
def rule (widths : List Nat) : String := String.intercalate barSeparator (widths.map bar)

/-- The table of rows. -/
def lines : List Row → List String
  | [] => []
  | first :: rest =>
    let rows := first :: rest
    let widths := first.columns.map (width rows)
    line widths first.columns :: rule widths ::
      rows.map fun r => line widths (first.columns.map (cell · r))

end ParamSql.Grid
