import ParamSql.Database.RowChange
import ParamSql.Database.Source

/-!
# Adding, updating and removing rows

A new row takes the value of each named column and the default of every other one.  An update
gives new values to the rows that its filter selects, and every new value is computed from the
old row.  A removal takes the rows that its filter selects.  Each is done wholly or not at all.

## Main definitions

* `Assignment.apply`: the new value of a column
* `Database.insert`, `Database.update`, `Database.delete`
-/

namespace ParamSql

/-! ## Arithmetic -/

namespace Value

/-- The longest number that a text begins with, or 0. -/
def leadingNumber (s : String) : Value :=
  let cs := s.toList.dropWhile (· == ' ')
  let heads := (List.range (cs.length + 1)).reverse.map cs.take
  (heads.findSome? fun head => ofNumeral? (String.ofList head)).getD (integer 0)

/-- A value as a number; bytes count as 0. -/
def operand : Value → Value
  | text s => leadingNumber s
  | blob _ => integer 0
  | v => v

/-- A number as a float. -/
def toFloat : Value → Float
  | integer n => n.toFloat
  | real x => x
  | _ => 0

/-- Adjusts a number by another: in integers while 64 bits hold the result, or else in floats.
Nothing stays nothing. -/
def adjusted (a : Adjustment) (v w : Value) : Value :=
  let exact (n m : Int) : Int := match a with | .add => n + m | .sub => n - m
  let float (x y : Float) : Value := bound <| real <| match a with | .add => x + y | .sub => x - y
  match v.operand, w.operand with
  | null, _ => null
  | _, null => null
  | integer n, integer m =>
    let sum := exact n.toInt m.toInt
    if Decimal.fitsSigned 64 sum then integer (Int64.ofInt sum)
    else float n.toFloat m.toFloat
  | v, w => float v.toFloat w.toFloat

end Value

/-- The new value of a column that has a value. -/
def Assignment.apply (a : Assignment) (old given : Value) : Value :=
  match a.adjustment? with
  | some change => old.adjusted change given
  | none => given

namespace Database

/-- The table whose rows are to be changed. -/
def changeable (db : Database) (name : String) : Except Refusal StoredTable :=
  match db.table? name, db.view? name with
  | some t, _ => .ok t
  | none, none => .error (.noSuchTable name)
  | none, some _ => do
    let _ ← db.source name
    throw (.readOnlyView name)

/-! ## Adding -/

/-- Where a value of a new row goes. -/
inductive Place where
  | column (i : Nat)
  /-- the number of the row, which no column holds -/
  | rowid
deriving Repr, DecidableEq, Inhabited

/-- The place of a column of a new row. -/
def namedColumn (table : String) (t : StoredTable) (column : String) : Except Refusal Place :=
  match t.columnIndex? column with
  | some i => .ok (.column i)
  | none =>
    if Slot.rowidNames.any (Name.same column) then .ok ((t.rowidIndex?.map .column).getD .rowid)
    else .error (.noColumnNamed table column)

/-- The value of a new row that goes to a place.  Where a place is named twice, its first value
counts. -/
def given? (places : List Place) (params : List Value) (place : Place) : Option Value :=
  (places.idxOf? place).map (boundValue params)

/-- The cells of a new row. -/
def newCells (t : StoredTable) (places : List Place) (params : List Value) : List Value :=
  t.columns.zipIdx.map fun (c, i) =>
    match given? places params (.column i) with
    | some v => c.type.stored v
    | none => c.absent

/-- The number that a new row is given, or the next one. -/
def newRowid (t : StoredTable) (given : Option Value) : Except Refusal Int64 :=
  match given.map ColumnType.integer.stored with
  | some (.integer n) => .ok n
  | some (.text _) => .error .datatypeMismatch
  | some (.real _) => .error .datatypeMismatch
  | some (.blob _) => .error .datatypeMismatch
  | _ => .ok t.nextRowid

/-- The new row of these cells.  Its number also stands in the column that holds it. -/
def newRow (t : StoredTable) (places : List Place) (params : List Value) (cells : List Value) :
    Except Refusal StoredRow := do
  match t.rowidIndex? with
  | none => return ⟨← newRowid t (given? places params .rowid), cells⟩
  | some i =>
    let rowid ← newRowid t (given? places params (.column i))
    return ⟨rowid, cells.set i (.integer rowid)⟩

/-- Adds a row. -/
def insert (db : Database) (table : String) (columns : List String) (params : List Value) :
    Except Refusal Database := do
  if columns.isEmpty then throw (.malformed ")")
  let t ← db.changeable table
  let places ← columns.mapM (namedColumn table t)
  t.links.forM (·.check db)
  let row ← newRow t places params (newCells t places params)
  t.checkRow t.rows row
  -- references are looked at last, so that a row may refer to itself
  let new := db.putTable (t.insertRow row)
  Watch.requireAll new (t.links.map fun l => ⟨l, l.draw new (StoredTable.cell row l.column)⟩)
  return { new with changes := 1, rowid := row.rowid }

/-! ## Updating -/

/-- The place of a column of an update. -/
def assignedColumn (t : StoredTable) (a : Assignment) : Except Refusal Nat :=
  match t.columnIndex? a.column with
  | some i => .ok i
  | none => .error (.noSuchColumn a.column)

/-- The cells that assignments give to a row.  Where a column is assigned twice, the last
assignment counts. -/
def assignedCells (t : StoredTable) (assignments : List (Nat × Assignment)) (params : List Value)
    (row : StoredRow) : List Value :=
  assignments.zipIdx.foldl
    (fun cells ((i, a), k) =>
      let new := a.apply (StoredTable.cell row i) (boundValue params k)
      cells.set i (((t.columns[i]?).map (·.type.stored new)).getD new))
    row.cells

/-- Refuses references from and to columns that do not lead to a key. -/
def checkLinks (db : Database) (t : StoredTable) (places : List Nat) : Except Refusal Unit := do
  (t.links.filter fun l => places.contains l.column).forM (·.check db)
  (db.linksTo t.name).forM fun l =>
    match t.columnIndex? l.foreign.column with
    | some i => if places.contains i then l.check db else .ok ()
    | none => .ok ()

/-- Updates one row, if it is still there. -/
def updateRow (table : String) (assignments : List (Nat × Assignment)) (params : List Value)
    (state : Database × List Watch) (rowid : Int64) :
    Except Refusal (Database × List Watch) := do
  let (db, watches) := state
  match db.table? table with
  | none => return state
  | some t =>
    match t.rows.find? (·.rowid == rowid) with
    | none => return state
    | some row =>
      -- every assignment sees the row as it is now, not what another assignment gives it
      let new ← t.placed row.rowid (assignedCells t assignments params row)
      let (db, more) ← db.carryOut ⟨t.name, row, some new⟩
      return (db, watches ++ more)

/-- Updates the rows that a filter selects, in the order of their numbers. -/
def update (db : Database) (table : String) (columns : List Assignment)
    (filter : Option Predicate) (params : List Value) : Except Refusal Database := do
  if columns.isEmpty then throw (.malformed "WHERE")
  let t ← db.changeable table
  let places ← columns.mapM (assignedColumn t)
  -- the assignments take the first values, the filter takes the others
  let scope := { t.scope with changes := db.changes }
  let condition ← Condition.bind scope (filter.getD .byDefault) (params.drop columns.length)
  db.checkLinks t places
  let selected := t.rows.filter fun r => condition.selects r.values
  let (new, watches) ←
    (selected.map (·.rowid)).foldlM (updateRow t.name (places.zip columns) params) (db, [])
  Watch.requireAll new watches
  return { new with changes := selected.length }

/-! ## Removing -/

/-- Removes one row that others may refer to, if it is still there, and counts it. -/
def deleteRow (table : String) (state : Database × List Watch × Nat) (row : StoredRow) :
    Except Refusal (Database × List Watch × Nat) := do
  let (db, watches, n) := state
  if ((db.table? table).map (·.hasRowid row.rowid)).getD false then
    let (db, more) ← db.carryOut ⟨table, row, none⟩
    return (db, watches ++ more, n + 1)
  else return state

/-- Removes rows.  If nothing refers to the table they go at once, or else one by one with the
rows that follow them. -/
def deleteRows (db : Database) (t : StoredTable) (p : StoredRow → Bool) :
    Except Refusal (Database × Nat) :=
  let selected := t.rows.filter p
  if (db.linksTo t.name).isEmpty then
    .ok (db.putTable { t with rows := t.rows.filter (!p ·) }, selected.length)
  else do
    let (new, watches, n) ← selected.foldlM (deleteRow t.name) (db, [], 0)
    Watch.requireAll new watches
    return (new, n)

/-- Removes the rows that a filter selects. -/
def delete (db : Database) (table : String) (filter : Option Predicate) (params : List Value) :
    Except Refusal Database := do
  let t ← db.changeable table
  let scope := { t.scope with changes := db.changes }
  let condition ← Condition.bind scope (filter.getD .byDefault) params
  (t.links ++ db.linksTo t.name).forM (·.check db)
  let (new, n) ← db.deleteRows t fun r => condition.selects r.values
  return { new with changes := n }

end Database

end ParamSql
