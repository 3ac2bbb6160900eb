import ParamSql.Database.Reference

/-!
# Changes of rows

One row is added, takes new values, or is removed.  A row with new values must satisfy the
constraints of its table: no column lacks a value that it must have, and no other row has the
same key.  A change can bring about further changes in rows that refer to the changed one.

## Main definitions

* `StoredTable.checkRow`: the constraints of a table on a row
* `StoredTable.placed`: a row whose number stands in the column that holds it
* `RowChange`, `Database.applyChange`
* `Database.settle`: the changes that follow from changes
-/

namespace ParamSql

namespace StoredTable

/-! ## Constraints -/

/-- The columns that must differ between rows, in the order in which they are looked at: the
key, unless the row number is the key, and then the unique columns from the last one. -/
def uniqueGroups (t : StoredTable) : List (List Nat) :=
  (if t.rowidIndex?.isSome || t.keyIndexes.isEmpty then [] else [t.keyIndexes]) ++
    (t.columns.zipIdx.filterMap fun (c, i) =>
      if c.options.unique then some [i] else none).reverse

/-- Whether two rows have the same values in columns, all of them there. -/
def clash (group : List Nat) (r s : StoredRow) : Bool :=
  group.all fun i =>
    match cell r i with
    | .null => false
    | v => v.same (cell s i)

/-- Refuses a row that lacks a value that a column must have. -/
def checkNotNull (t : StoredTable) (row : StoredRow) : Except Refusal Unit :=
  t.columns.zipIdx.forM fun (c, i) =>
    match c.options.notNull, cell row i with
    | true, .null => .error (.notNull t.name c.name)
    | _, _ => .ok ()

/-- Refuses a row that has a key in common with one of these rows. -/
def checkUnique (t : StoredTable) (others : List StoredRow) (row : StoredRow) :
    Except Refusal Unit := do
  if others.any (·.rowid == row.rowid) then throw (.unique t.name [t.rowidName])
  t.uniqueGroups.forM fun group =>
    if others.any (clash group row) then
      .error (.unique t.name (group.filterMap fun i => (t.columns[i]?).map (·.name)))
    else .ok ()

/-- Refuses a row that cannot stand beside these rows. -/
def checkRow (t : StoredTable) (others : List StoredRow) (row : StoredRow) :
    Except Refusal Unit := do
  t.checkNotNull row
  t.checkUnique others row

/-- The row of these cells: its number is in the column that holds it, if there is one. -/
def placed (t : StoredTable) (rowid : Int64) (cells : List Value) : Except Refusal StoredRow :=
  match t.rowidIndex? with
  | none => .ok ⟨rowid, cells⟩
  | some i =>
    match cells[i]? with
    | some (.integer n) => .ok ⟨n, cells⟩
    | _ => .error .datatypeMismatch

end StoredTable

/-! ## Changes and what follows from them -/

/-- New values for a row of a table, or its removal. -/
structure RowChange where
  table : String
  before : StoredRow
  after : Option StoredRow := none
deriving Repr, Inhabited

namespace Link

/-- What the reference declares for a change. -/
def consequence (l : Link) (change : RowChange) : Consequence :=
  if change.after.isSome then l.foreign.onUpdate else l.foreign.onDelete

/-- The value of the key that a change takes away, if it does. -/
def lostKey? (db : Database) (l : Link) (change : RowChange) : Option Value := do
  let i ← l.keyIndex? db
  let old := StoredTable.cell change.before i
  match old, change.after with
  | .null, _ => none
  | _, none => some old
  | _, some r => if (StoredTable.cell r i).same old then none else some old

/-- New values in the column that refers, for the rows that refer to a lost key. -/
def reassigned (db : Database) (l : Link) (key : Value) (v : ColumnDef → Value) :
    Except Refusal (List RowChange) :=
  match db.table? l.child with
  | none => .ok []
  | some t =>
    let new := ((t.columns[l.column]?).map v).getD .null
    (l.referring db key).mapM fun r => do
      return ⟨l.child, r, some (← t.placed r.rowid (r.cells.set l.column new))⟩

/-- What happens to the rows that refer to a lost key. -/
def follow (db : Database) (l : Link) (change : RowChange) (key : Value) :
    Except Refusal (List RowChange) :=
  match l.consequence change, change.after with
  | .refused, _ => .ok []
  | .cascade, none => .ok ((l.referring db key).map fun r => ⟨l.child, r, none⟩)
  | .cascade, some after =>
    let new := (l.keyIndex? db).elim .null (StoredTable.cell after)
    l.reassigned db key fun c => c.type.stored new
  | .setNull, _ => l.reassigned db key fun _ => .null
  | .setDefault, _ => l.reassigned db key (·.absent)

end Link

namespace RowChange

/-- The values that a changed row newly refers to. -/
def watches (db : Database) (change : RowChange) : List Watch :=
  match change.after, db.table? change.table with
  | some r, some t =>
    let changed := t.links.filter fun l =>
      !(StoredTable.cell r l.column).same (StoredTable.cell change.before l.column)
    changed.map fun l => ⟨l, l.draw db (StoredTable.cell r l.column)⟩
  | _, _ => []

end RowChange

namespace Database

/-- Makes a change, if the row is still there. -/
def applyChange (db : Database) (change : RowChange) : Except Refusal Database :=
  match db.table? change.table with
  | none => .ok db
  | some t =>
    if t.hasRowid change.before.rowid then
      let others := t.dropRow change.before.rowid
      match change.after with
      | none => .ok (db.putTable others)
      | some r => do
        t.checkRow others.rows r
        return db.putTable (others.insertRow r)
    else .ok db

/-- Makes the changes that follow from changes, and the changes that follow from those.  What
must be found in the end is collected. -/
def settle : Nat → Database → List RowChange → Except Refusal (Database × List Watch)
  | 0, db, _ => .ok (db, [])
  | _, db, [] => .ok (db, [])
  | n + 1, db, change :: rest => do
    let lost := (db.linksTo change.table).filterMap fun l =>
      (l.lostKey? db change).map fun key => (l, key)
    -- rows that refer to a lost key change at once; what follows from that waits its turn
    let following := (← lost.mapM fun (l, key) => l.follow db change key).flatten
    let db ← following.foldlM applyChange db
    let (db, watches) ← settle n db (rest ++ following)
    return (db, lost.map (fun (l, key) => ⟨l, key⟩) ++ change.watches db ++ watches)

/-- Enough steps to settle a change when every row follows every reference once. -/
def settleSteps (db : Database) : Nat :=
  (db.rowCount + 1) * ((db.tables.flatMap (·.links)).length + 1)

/-- Makes a change with all that follows from it. -/
def carryOut (db : Database) (change : RowChange) : Except Refusal (Database × List Watch) := do
  let db ← db.applyChange change
  db.settle db.settleSteps [change]

end Database

end ParamSql
