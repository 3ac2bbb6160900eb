import ParamSql.Database.Definition
import ParamSql.Database.Renaming

/-!
# Altering tables

A column is added with its default in the rows that are there, a column is dropped with its
values, and tables and columns get new names that whatever names them follows.  An alteration
must leave every view and index readable, and except for added columns they must be readable
before.

## Main definitions

* `Database.firstBroken?`: an object that cannot be read
* `Database.alterTable`
-/

namespace ParamSql

namespace Database

/-! ## Readable objects -/

/-- Whether a refusal arises only when rows are looked at. -/
def arisesInRows : Refusal → Bool
  | .datatypeMismatch => true
  | _ => false

/-- Why a view cannot be read, if so. -/
def brokenView? (db : Database) (occasion : String) (v : View) : Option Refusal :=
  match db.source (Name.full v.name) with
  | .ok _ => none
  | .error r =>
    if arisesInRows r then none else some (.brokenObject "view" v.name occasion r.message)

/-- Why an index cannot be read, if so. -/
def brokenIndex? (db : Database) (occasion : String) (i : Index) : Option Refusal :=
  match db.table? i.table with
  | none => none
  | some t =>
    i.columns.findSome? fun c =>
      match t.scope.resolve c with
      | .ok _ => none
      | .error r => some (.brokenObject "index" i.name occasion r.message)

/-- The first object that cannot be read. -/
def firstBroken? (db : Database) (occasion : String) : Option Refusal :=
  (db.views.findSome? (db.brokenView? occasion)).or (db.indexes.findSome? (db.brokenIndex? occasion))

/-- Refuses a database in which an object cannot be read. -/
def requireReadable (db : Database) (occasion : String) : Except Refusal Unit :=
  match db.firstBroken? occasion with
  | some r => .error r
  | none => .ok ()

/-! ## Alterations -/

/-- Adds a column.  Rows that are there must be able to take its default. -/
def addColumn (db : Database) (t : StoredTable) (c : ColumnDef) : Except Refusal Database := do
  if (t.columnIndex? c.name).isSome then throw (.duplicateColumn c.name)
  let default := c.absent
  let missing := match default with | .null => true | _ => false
  if !t.rows.isEmpty then
    if c.foreign.isSome && !missing then throw .referenceWithDefault
    if c.options.notNull && missing then throw .nullDefault
  return db.putTable { t with
    columns := t.columns ++ [c]
    rows := t.rows.map fun r => { r with cells := r.cells ++ [default] } }

/-- Drops a column with its values.  Keys, and the only column of a table, stay. -/
def dropColumn (db : Database) (t : StoredTable) (name : String) : Except Refusal Database := do
  match t.columnIndex? name with
  | none => throw (.noColumnToAlter name)
  | some i =>
    let c := (t.columns[i]?).getD default
    if c.options.primaryKey then throw (.keyColumn "PRIMARY KEY" name)
    if c.options.unique then throw (.keyColumn "UNIQUE" name)
    if t.columns.length ≤ 1 then throw (.onlyColumn name)
    db.requireReadable ""
    if c.foreign.isSome then
      throw (.brokenObject "table" t.name " after drop column"
        ("unknown column \"" ++ c.name ++ "\" in foreign key definition"))
    let new := db.putTable { t with
      columns := t.columns.eraseIdx i
      rows := t.rows.map fun r => { r with cells := r.cells.eraseIdx i } }
    new.requireReadable " after drop column"
    return new

/-- Refuses a new name that is taken. -/
def requireFree (db : Database) (name : String) : Except Refusal Unit :=
  if db.hasRelation name || (db.index? name).isSome then .error (.nameTaken name) else .ok ()

/-- Gives a table a new name. -/
def renameTable (db : Database) (t : StoredTable) (name : String) : Except Refusal Database := do
  db.requireFree name
  db.requireReadable ""
  let r : TableRenaming := ⟨t.name, name⟩
  return { db with
    tables := db.tables.map r.table
    views := db.views.map r.view
    indexes := db.indexes.map r.index }

/-- Gives a column a new name. -/
def renameColumn (db : Database) (t : StoredTable) (source target : String) :
    Except Refusal Database := do
  if (t.columnIndex? source).isNone then throw (.noColumnToAlter source)
  db.requireReadable ""
  if !Name.same source target && (t.columnIndex? target).isSome then
    throw (.brokenObject "table" t.name " after rename"
      (Refusal.duplicateColumn target).message)
  let r : ColumnRenaming := ⟨t.name, source, target⟩
  let new := { db with
    tables := db.tables.map r.storedTable
    views := db.views.map r.view
    indexes := db.indexes.map r.index }
  new.requireReadable " after rename"
  return new

/-- Refuses to alter a view. -/
def refuseView (db : Database) (v : View) : Alteration → Except Refusal Database
  | .addColumn _ => .error .columnAddedToView
  | .dropColumn _ => .error (.columnsOfView "drop column from" v.name)
  | .renameTable name => do
    db.requireFree name
    throw (.viewNotAltered v.name)
  | .renameColumn _ _ => .error (.columnsOfView "rename columns of" v.name)

/-- Carries an alteration out. -/
def alterTable (db : Database) (name : String) (a : Alteration) : Except Refusal Database :=
  match db.table? name, db.view? name with
  | none, none => .error (.noSuchTable name)
  | none, some v => db.refuseView v a
  | some t, _ =>
    match a with
    | .addColumn new => db.addColumn t new.column
    | .dropColumn column => db.dropColumn t column
    | .renameTable target => db.renameTable t target
    | .renameColumn source target => db.renameColumn t source target

end Database

end ParamSql
