import ParamSql.Database.Change

/-!
# Creating and dropping objects

Tables and views share their names, and no index has the name of either.  The flags of a
statement silence the refusal that an object is there already, or that it is missing, and no
other refusal.

## Main definitions

* `Database.createTable`, `Database.createView`, `Database.createIndex`
* `Database.dropTable`, `Database.dropView`, `Database.dropIndex`
-/

namespace ParamSql

namespace Database

/-! ## Creating -/

/-- Refuses a name that a table or a view has already. -/
def requireAbsent (db : Database) (name : String) : Except Refusal Unit :=
  if (db.table? name).isSome then .error (.tableExists (Name.bare name))
  else if (db.view? name).isSome then .error (.viewExists (Name.bare name))
  else .ok ()

/-- Whether a table or a view has the name. -/
def hasRelation (db : Database) (name : String) : Bool :=
  (db.table? name).isSome || (db.view? name).isSome

/-- Refuses the name of an index. -/
def requireNoIndex (db : Database) (name : String) : Except Refusal Unit :=
  if (db.index? name).isSome then .error (.nameOfIndex (Name.bare name)) else .ok ()

/-- Refuses a column that has the name of a column before it. -/
def requireDistinct : List String → List String → Except Refusal Unit
  | _, [] => .ok ()
  | seen, name :: names =>
    if seen.any (Name.same name) then .error (.duplicateColumn name)
    else requireDistinct (name :: seen) names

/-- Creates a table.  Even where nothing is to be created, a table has columns. -/
def createTable (db : Database) (name : String) (columns : List ColumnDef) (ifNotExists : Bool) :
    Except Refusal Database := do
  if ifNotExists && db.hasRelation name then
    if columns.isEmpty then throw (.malformed ")") else return db
  db.requireAbsent name
  db.requireNoIndex name
  if columns.isEmpty then throw (.malformed ")")
  requireDistinct [] (columns.map (·.name))
  return { db with tables := db.tables ++ [⟨Name.bare name, columns, []⟩] }

/-- Creates a view.  What it reads is looked up only when the view is read. -/
def createView (db : Database) (view : View) (ifNotExists : Bool) : Except Refusal Database := do
  if view.columns.isEmpty then throw (.malformed "FROM")
  if (view.query.options.filter).isSome then throw .parametersInView
  if ifNotExists && db.hasRelation view.name then return db
  db.requireAbsent view.name
  db.requireNoIndex view.name
  return { db with views := db.views ++ [{ view with name := Name.bare view.name }] }

/-- Refuses the filter of an index: behind its first column it has a placeholder.  If that
column is missing, the refusal is of the column, unless it is folded. -/
def filterRefusal (t : StoredTable) (p : Predicate) : Refusal :=
  match t.scope.resolve (Sql.qualified p.leaf.table p.leaf.column) with
  | .error r => if p.leaf.lower || p.leaf.upper then .parametersInIndex else r
  | .ok _ => .parametersInIndex

/-- Looks for the columns of an index.  With a filter only the first one is looked for. -/
def checkIndexColumns (t : StoredTable) (index : Index) : Except Refusal Unit := do
  let columns := if index.filter.isSome then index.columns.take 1 else index.columns
  columns.forM fun c => (t.scope.resolve c).map fun _ => ()
  match index.filter with
  | some p => throw (filterRefusal t p)
  | none => return ()

/-- Creates an index. -/
def createIndex (db : Database) (index : Index) (ifNotExists : Bool) : Except Refusal Database := do
  if index.columns.isEmpty then throw (.malformed ")")
  match db.table? index.table with
  | none =>
    if (db.view? index.table).isSome then throw .viewNotIndexed
    else throw (.noSuchTable (Name.full index.table))
  | some t =>
    if db.hasRelation index.name then throw (.nameOfTable (Name.bare index.name))
    if (db.index? index.name).isSome then
      if ifNotExists then return db else throw (.indexExists (Name.bare index.name))
    checkIndexColumns t index
    return { db with
      indexes := db.indexes ++ [{ index with name := Name.bare index.name, table := t.name }] }

/-! ## Dropping -/

/-- Drops a table with its rows and its indexes.  Rows of a table that is referred to are removed
one by one first, and count as a change. -/
def dropTable (db : Database) (name : String) (ifExists : Bool) : Except Refusal Database :=
  match db.table? name, db.view? name with
  | some t, _ => do
    -- the removal of rows that others refer to may be refused
    let (new, n) ← db.deleteRows t fun _ => true
    return { new with
      changes := if (db.linksTo t.name).isEmpty then db.changes else n
      tables := new.tables.filter fun u => !Name.same u.name t.name
      indexes := new.indexes.filter fun i => !Name.same i.table t.name }
  | none, some v => .error (.notATable v.name)
  | none, none => if ifExists then .ok db else .error (.noSuchTable name)

/-- Drops a view. -/
def dropView (db : Database) (name : String) (ifExists : Bool) : Except Refusal Database :=
  match db.view? name, db.table? name with
  | some v, _ => .ok { db with views := db.views.filter fun w => !Name.same w.name v.name }
  | none, some t => .error (.notAView t.name)
  | none, none => if ifExists then .ok db else .error (.noSuchView name)

/-- Drops an index. -/
def dropIndex (db : Database) (name : String) (ifExists : Bool) : Except Refusal Database :=
  match db.index? name with
  | some i => .ok { db with indexes := db.indexes.filter fun j => !Name.same j.name i.name }
  | none => if ifExists then .ok db else .error (.noSuchIndex name)

end Database

end ParamSql
