import ParamSql.Affinity
import ParamSql.Database.Refusal
import ParamSql.Schema

/-!
# Stored objects

A database as a value: its tables with their rows, its views, its indexes, and what the
connection remembers of the last change.  Every row has a row number; the rows of a table
are kept in the order of their numbers.

Names of objects and columns are the same if they differ only in the case of ASCII letters.

## Main definitions

* `Name.same`, `Name.bare`
* `StoredRow`, `StoredTable`, `Database`
* `Database.table?`, `Database.view?`, `Database.index?`
* `StoredTable.keyColumn?`: the column that holds the row number
* `StoredTable.insertRow`, `StoredTable.nextRowid`
* `DefaultValue.value`: the value that a default stands for
-/

namespace ParamSql

/-! ## Names -/

namespace Name

/-- Whether two names are the same. -/
def same (a b : String) : Bool := a.map Char.toLower == b.map Char.toLower

/-- The name of the database that all objects are in. -/
def schema : String := "main"

/-- The name of an object without the name of its database. -/
def bare (name : String) : String :=
  if (schema ++ ".").toList.isPrefixOf name.toList then
    String.ofList (name.toList.drop (schema.length + 1))
  else name

/-- The name of an object behind the name of its database. -/
def full (name : String) : String := schema ++ "." ++ bare name

end Name

/-! ## Rows and tables -/

/-- A row of a table. -/
structure StoredRow where
  rowid : Int64
  cells : List Value
deriving Repr, Inhabited

/-- A table with its rows, in the order of their numbers. -/
structure StoredTable where
  name : String
  columns : List ColumnDef
  rows : List StoredRow := []
deriving Repr, Inhabited

/-- A database with what its connection remembers. -/
structure Database where
  tables : List StoredTable := []
  views : List View := []
  indexes : List Index := []
  /-- how many rows the last change of rows changed -/
  changes : Nat := 0
  /-- the number of the row that was added last -/
  rowid : Int64 := 0
  /-- why nothing can be run, if so -/
  unusable : Option Failure := none
deriving Repr, Inhabited

namespace StoredTable

/-- The place of a column. -/
def columnIndex? (t : StoredTable) (name : String) : Option Nat :=
  t.columns.findIdx? fun c => Name.same c.name name

/-- The places of the key columns. -/
def keyIndexes (t : StoredTable) : List Nat :=
  t.columns.zipIdx.filterMap fun (c, i) => if c.options.primaryKey then some i else none

/-- The place of the column that holds the row number: the only key column, if it is one of
integers. -/
def rowidIndex? (t : StoredTable) : Option Nat :=
  match t.keyIndexes with
  | [i] => if (t.columns[i]?.map (·.type)) = some .integer then some i else none
  | _ => none

/-- The value in a cell. -/
def cell (row : StoredRow) (i : Nat) : Value := (row.cells[i]?).getD .null

/-- Whether a row has this number. -/
def hasRowid (t : StoredTable) (rowid : Int64) : Bool := t.rows.any (·.rowid == rowid)

/-- The least positive number that no row has. -/
def freeRowid (t : StoredTable) : Int64 :=
  let numbers := (List.range (t.rows.length + 1)).map fun n => Int64.ofNat (n + 1)
  (numbers.find? fun n => !t.hasRowid n).getD 1

/-- The number of the next row: one more than the largest.  Where that is the last number of all,
any number will do that no row has. -/
def nextRowid (t : StoredTable) : Int64 :=
  match t.rows.getLast? with
  | some r => if r.rowid < Int64.maxValue then r.rowid + 1 else t.freeRowid
  | none => 1

/-- Puts a row among rows, in the order of their numbers. -/
def insertAmong (row : StoredRow) : List StoredRow → List StoredRow
  | [] => [row]
  | r :: rs => if row.rowid < r.rowid then row :: r :: rs else r :: insertAmong row rs

def insertRow (t : StoredTable) (row : StoredRow) : StoredTable :=
  { t with rows := insertAmong row t.rows }

/-- Takes the row of a number out. -/
def dropRow (t : StoredTable) (rowid : Int64) : StoredTable :=
  { t with rows := t.rows.filter (·.rowid != rowid) }

end StoredTable

/-! ## Objects -/

namespace Database

/-- The table of a name. -/
def table? (db : Database) (name : String) : Option StoredTable :=
  db.tables.find? fun t => Name.same t.name (Name.bare name)

/-- The view of a name. -/
def view? (db : Database) (name : String) : Option View :=
  db.views.find? fun v => Name.same v.name (Name.bare name)

/-- The index of a name. -/
def index? (db : Database) (name : String) : Option Index :=
  db.indexes.find? fun i => Name.same i.name (Name.bare name)

/-- Puts a table in the place of the one of its name. -/
def putTable (db : Database) (t : StoredTable) : Database :=
  { db with tables := db.tables.map fun u => if Name.same u.name t.name then t else u }

/-- How many rows there are in all tables. -/
def rowCount (db : Database) : Nat := (db.tables.flatMap (·.rows)).length

end Database

/-! ## Defaults -/

/-- A text without its quotes, in which a quote is written twice. -/
def unquote : List Char → List Char
  | '\'' :: '\'' :: cs => '\'' :: unquote cs
  | c :: cs => c :: unquote cs
  | [] => []

/-- The value that a literal stands for: nothing, a truth value, a number, a text between
quotes, or the word itself. -/
def Value.ofLiteral (s : String) : Value :=
  let word := s.map Char.toLower
  if word = "null" then .null
  else if word = "true" then .ofBool true
  else if word = "false" then .ofBool false
  else
    match s.toList with
    | '\'' :: cs => .text (String.ofList (unquote cs.dropLast))
    | _ => (Value.ofNumeral? s).getD (.text s)

/-- The value that a default stands for. -/
def DefaultValue.value (d : DefaultValue) : Value := Value.ofLiteral d.text

/-- The value of a column that a new row does not mention. -/
def ColumnDef.absent (c : ColumnDef) : Value :=
  c.type.stored ((c.options.default.map (·.value)).getD .null)

end ParamSql
