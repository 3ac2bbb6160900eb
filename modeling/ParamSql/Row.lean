import ParamSql.Document.Node
import ParamSql.Failure
import ParamSql.Unicode.Encoding
import ParamSql.Value

/-!
# Result rows

A result row names its values.  A query may yield two columns of one name; the row
then has that name once, in the place of the first column and with the value of the
last.

A database yields cells of five storage classes, and a text as the bytes that it is stored
with.  Bytes that encode no text cannot be read, and then the row cannot.

## Main definitions

* `Row`, `Row.get?`, `Row.columns`
* `Cell`, `Cell.node`: a cell of a result, and its value in a document
* `Row.ofCells`: the row of a list of named cells
-/

namespace ParamSql

/-- A row of a result: a document value for every column name. -/
structure Row where
  members : List (String × Document.Node) := []
deriving Repr, Inhabited

namespace Row

/-- The value under a name. -/
def get? (r : Row) (name : String) : Option Document.Node :=
  (r.members.find? (·.1 == name)).map (·.2)

/-- The names, in order. -/
def columns (r : Row) : List String := r.members.map (·.1)

/-- Gives a name a value: a new name comes last, a known one keeps its place. -/
def insert (r : Row) (name : String) (value : Document.Node) : Row :=
  ⟨Document.Node.put name value r.members⟩

/-- The row in a document. -/
def encode (r : Row) : Document.Node := .record r.members

end Row

/-! ## Cells -/

/-- A cell of a result, as a database yields it. -/
inductive Cell where
  | null
  | integer (n : Int64)
  | real (x : Float)
  | text (bytes : List UInt8)
  | blob (bytes : List UInt8)
deriving Repr, Inhabited

/-- A row of a result, as a database yields it: cells with the names of their columns. -/
abbrev CellRow := List (String × Cell)

namespace Cell

/-- The cell of a value. -/
def ofValue : Value → Cell
  | .null => null
  | .integer n => integer n
  | .real x => real x
  | .text s => text (Utf8.encode s)
  | .blob bytes => blob bytes

/-- The value of a cell in a document.  A float that is no number cannot be written and becomes
`null`; bytes become a list of numbers. -/
def node : Cell → Except Utf8.Fault Document.Node
  | null => .ok .null
  | integer n => .ok (.int n.toInt)
  | real x => .ok (if x.isFinite then .real x else .null)
  | text bytes => (Utf8.decode bytes).map .text
  | blob bytes => .ok (.list (bytes.map fun b => .int b.toNat))

end Cell

namespace Row

/-- Puts a cell, the one in a place of its row, into a row. -/
def insertCell (r : Row) (index : Nat) (name : String) (c : Cell) : Except Failure Row :=
  match c.node with
  | .ok value => .ok (r.insert name value)
  | .error fault => .error (.columnUnreadable index fault.message)

/-- The row of the cells of a result, taken from left to right up to the first that cannot be
read. -/
def ofCells (cells : CellRow) : Except Failure Row :=
  cells.zipIdx.foldlM (fun r ((name, c), i) => r.insertCell i name c) {}

end Row

end ParamSql
