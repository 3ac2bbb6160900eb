import ParamSql.Database.Relation

/-!
# References between tables

A column may refer to a key of a table: each of its values, unless it is nothing, must then be
found among the values of that key.  A reference says what happens to the rows that refer to a
row when that row is removed or changes its key.

## Main definitions

* `Consequence`, `ForeignKey.onDelete`, `ForeignKey.onUpdate`
* `Link`: a reference as the database holds it
* `Link.check`: that the reference leads to a key
* `Watch`, `Watch.holds`: a value that must be found as long as a row refers to it
-/

namespace ParamSql

/-- What happens to a row when the row it refers to is gone. -/
inductive Consequence where
  /-- nothing happens, so that the reference must not be left dangling -/
  | refused
  | cascade
  | setNull
  | setDefault
deriving Repr, DecidableEq, Inhabited

namespace Consequence

/-- The consequence that words begin with. -/
def ofWords : List String → Consequence
  | "CASCADE" :: _ => cascade
  | "SET" :: "NULL" :: _ => setNull
  | "SET" :: "DEFAULT" :: _ => setDefault
  | _ => refused

/-- The consequence that words declare for an event.  The last declaration counts. -/
def declared (event : String) : List String → Consequence → Consequence
  | "ON" :: e :: words, c => declared event words (if e = event then ofWords words else c)
  | _ :: words, c => declared event words c
  | [], c => c

end Consequence

namespace ForeignKey

/-- The words of the options, in capitals. -/
def words (f : ForeignKey) : List String :=
  f.options.flatMap fun o => ((o.map Char.toUpper).splitOn " ").filter (· != "")

/-- What happens when the row that is referred to is removed. -/
def onDelete (f : ForeignKey) : Consequence := Consequence.declared "DELETE" f.words .refused

/-- What happens when the row that is referred to changes its key. -/
def onUpdate (f : ForeignKey) : Consequence := Consequence.declared "UPDATE" f.words .refused

end ForeignKey

/-- A reference from a column of a table. -/
structure Link where
  child : String
  /-- the place of the column that refers -/
  column : Nat
  foreign : ForeignKey
deriving Repr, Inhabited

namespace StoredTable

/-- The references from the columns of a table, the last one first. -/
def links (t : StoredTable) : List Link :=
  (t.columns.zipIdx.filterMap fun (c, i) => c.foreign.map fun f => ⟨t.name, i, f⟩).reverse

/-- Whether a column alone is a key. -/
def isKey (t : StoredTable) (i : Nat) : Bool :=
  t.keyIndexes == [i] || ((t.columns[i]?).map (·.options.unique)).getD false

end StoredTable

namespace Database

/-- The references that lead to a table, the last one first. -/
def linksTo (db : Database) (table : String) : List Link :=
  (db.tables.reverse.flatMap (·.links)).filter fun l =>
    Name.same (Name.bare l.foreign.table) table

end Database

namespace Link

/-- The table that is referred to. -/
def parent? (db : Database) (l : Link) : Option StoredTable := db.table? l.foreign.table

/-- The place of the column that is referred to. -/
def keyIndex? (db : Database) (l : Link) : Option Nat :=
  (l.parent? db).bind (·.columnIndex? l.foreign.column)

/-- Refuses a reference that does not lead to a key. -/
def check (db : Database) (l : Link) : Except Refusal Unit :=
  match l.parent? db, db.view? l.foreign.table with
  | none, none => .error (.noSuchTable (Name.full l.foreign.table))
  | none, some _ => .error (.keyMismatch l.child l.foreign.table)
  | some t, _ =>
    match t.columnIndex? l.foreign.column with
    | some i => if t.isKey i then .ok () else .error (.keyMismatch l.child l.foreign.table)
    | none => .error (.keyMismatch l.child l.foreign.table)

/-- A value that refers, drawn towards the type of the key. -/
def draw (db : Database) (l : Link) (v : Value) : Value :=
  let type := do
    let t ← l.parent? db
    let i ← l.keyIndex? db
    return (← t.columns[i]?).type
  ColumnType.drawn type none v

/-- The values of the key. -/
def keys (db : Database) (l : Link) : List Value :=
  match l.parent? db, l.keyIndex? db with
  | some t, some i => t.rows.map fun r => StoredTable.cell r i
  | _, _ => []

/-- The rows that refer to a value of the key. -/
def referring (db : Database) (l : Link) (key : Value) : List StoredRow :=
  match db.table? l.child with
  | some t => t.rows.filter fun r => (l.draw db (StoredTable.cell r l.column)).same key
  | none => []

end Link

/-- A value of a key that must be there as long as a row refers to it. -/
structure Watch where
  link : Link
  key : Value
deriving Repr, Inhabited

namespace Watch

/-- Whether no row refers to the value in vain.  Nothing refers to nothing. -/
def holds (db : Database) (w : Watch) : Bool :=
  match w.key with
  | .null => true
  | key => (w.link.referring db key).isEmpty || (w.link.keys db).any key.same

/-- Refuses values that rows refer to in vain. -/
def requireAll (db : Database) (watches : List Watch) : Except Refusal Unit :=
  if watches.all (·.holds db) then .ok () else .error .foreignKey

end Watch

end ParamSql
