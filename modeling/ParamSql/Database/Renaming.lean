import ParamSql.Database.Source

/-!
# Renaming what others name

When a table or a column gets a new name, the views, indexes and references that name it
follow.

## Main definitions

* `TableRenaming`, `ColumnRenaming`
* their actions on views, indexes and declared columns
-/

namespace ParamSql

/-- A new name for a table. -/
structure TableRenaming where
  source : String
  target : String
deriving Repr, Inhabited

namespace TableRenaming

/-- The name that a name becomes. -/
def name (r : TableRenaming) (n : String) : String :=
  if Name.same (Name.bare n) r.source then r.target else n

/-- A column name, behind the new name of its table. -/
def columnName (r : TableRenaming) (written : String) : String :=
  let c := ColumnName.ofText written
  match c.table with
  | some t => if Name.same t r.source then r.target ++ "." ++ c.column else written
  | none => written

mutual

/-- The filter under the new name. -/
def predicate (r : TableRenaming) : Predicate → Predicate
  | ⟨leaf, ands, ors⟩ =>
    ⟨{ leaf with table := leaf.table.map r.name }, predicates r ands, predicates r ors⟩

def predicates (r : TableRenaming) : List Predicate → List Predicate
  | [] => []
  | p :: ps => predicate r p :: predicates r ps

end

/-- An entry of a select list under the new name. -/
def column (r : TableRenaming) : SelectColumn → SelectColumn
  | .raw expr =>
    match SelectItem.splitLabel expr with
    | (expr, some a) => .raw (r.columnName expr ++ " AS " ++ a)
    | (expr, none) => .raw (r.columnName expr)
  | .ref c => .ref { c with table := c.table.map r.name }

/-- The clauses of a query under the new name. -/
def options (r : TableRenaming) (o : SelectOptions) : SelectOptions :=
  { o with
    innerJoins := o.innerJoins.map fun j =>
      { j with thisColumn := r.columnName j.thisColumn, otherTable := r.name j.otherTable }
    filter := o.filter.map r.predicate
    orderBy := o.orderBy.map fun t => { t with table := t.table.map r.name } }

def view (r : TableRenaming) (v : View) : View :=
  { v with
    table := r.name v.table
    columns := v.columns.map r.column
    options := v.options.map r.options }

def index (r : TableRenaming) (i : Index) : Index := { i with table := r.name i.table }

/-- A declared column whose reference follows. -/
def columnDef (r : TableRenaming) (c : ColumnDef) : ColumnDef :=
  { c with foreign := c.foreign.map fun f => { f with table := r.name f.table } }

def table (r : TableRenaming) (t : StoredTable) : StoredTable :=
  { t with name := r.name t.name, columns := t.columns.map r.columnDef }

end TableRenaming

/-- A new name for a column of a table. -/
structure ColumnRenaming where
  table : String
  source : String
  target : String
deriving Repr, Inhabited

namespace ColumnRenaming

/-- The name that a name of a column of the table becomes. -/
def name (r : ColumnRenaming) (n : String) : String :=
  if Name.same n r.source then r.target else n

/-- The name that a column of some table becomes. -/
def nameIn (r : ColumnRenaming) (table n : String) : String :=
  if Name.same (Name.bare table) r.table then r.name n else n

/-- A column name, in a query that reads the table. -/
def columnName (r : ColumnRenaming) (written : String) : String :=
  let c := ColumnName.ofText written
  match c.table with
  | some t => t ++ "." ++ r.nameIn t c.column
  | none => r.name written

/-- A column behind an optional table, in a query that reads the table. -/
def columnIn (r : ColumnRenaming) (table : Option String) (n : String) : String :=
  match table with
  | some t => r.nameIn t n
  | none => r.name n

mutual

/-- The filter under the new name. -/
def predicate (r : ColumnRenaming) : Predicate → Predicate
  | ⟨leaf, ands, ors⟩ =>
    ⟨{ leaf with column := r.columnIn leaf.table leaf.column }, predicates r ands,
      predicates r ors⟩

def predicates (r : ColumnRenaming) : List Predicate → List Predicate
  | [] => []
  | p :: ps => predicate r p :: predicates r ps

end

/-- An entry of a select list under the new name. -/
def column (r : ColumnRenaming) : SelectColumn → SelectColumn
  | .raw expr =>
    match SelectItem.splitLabel expr with
    | (expr, some a) => .raw (r.columnName expr ++ " AS " ++ a)
    | (expr, none) => .raw (r.columnName expr)
  | .ref c => .ref { c with column := r.columnIn c.table c.column }

/-- The clauses of a query under the new name. -/
def options (r : ColumnRenaming) (o : SelectOptions) : SelectOptions :=
  { o with
    innerJoins := o.innerJoins.map fun j =>
      { j with
        thisColumn := r.columnName j.thisColumn
        otherColumn := r.nameIn j.otherTable j.otherColumn }
    filter := o.filter.map r.predicate
    orderBy := o.orderBy.map fun t => { t with column := r.columnIn t.table t.column } }

/-- Whether a view reads the table itself. -/
def isReadBy (r : ColumnRenaming) (v : View) : Bool :=
  (v.table :: v.query.options.innerJoins.map (·.otherTable)).any fun t =>
    Name.same (Name.bare t) r.table

/-- A view that reads the table follows; in any other the name means something else. -/
def view (r : ColumnRenaming) (v : View) : View :=
  if r.isReadBy v then
    { v with columns := v.columns.map r.column, options := v.options.map r.options }
  else v

def index (r : ColumnRenaming) (i : Index) : Index :=
  { i with columns := i.columns.map (r.nameIn i.table) }

/-- A declared column whose reference follows. -/
def columnDef (r : ColumnRenaming) (c : ColumnDef) : ColumnDef :=
  { c with foreign := c.foreign.map fun f => { f with column := r.nameIn f.table f.column } }

def storedTable (r : ColumnRenaming) (t : StoredTable) : StoredTable :=
  { t with
    columns := t.columns.map fun c =>
      { r.columnDef c with name := r.nameIn t.name c.name } }

end ColumnRenaming

end ParamSql
