import ParamSql.Database.Store
import ParamSql.Sql.Condition

/-!
# Names in a query

A query runs over rows whose values stand in slots, one for each column of its tables and
one for each row number.  A column is named alone or behind its table.  The name must fit one
slot; a row number is meant only where no column has its name, and the name of a result
column only where nothing else fits.

## Main definitions

* `ColumnName`, `Slot`, `Scope`
* `Scope.resolve`: the slot that a name means
* `Operand`, `Scope.operand`: what a comparison looks at
* `Condition`, `Condition.bind`, `Condition.selects`: a filter with its slots and values
-/

namespace ParamSql

/-- A column as a query names it. -/
structure ColumnName where
  table : Option String
  column : String
deriving Repr, DecidableEq, Inhabited

namespace ColumnName

/-- The column that a text names.  The name of the database may stand in front. -/
def ofText (s : String) : ColumnName :=
  match s.toList.span (· != '.') with
  | (_, []) => ⟨none, s⟩
  | (first, _ :: rest) =>
    match rest.span (· != '.') with
    | (_, []) => ⟨some (String.ofList first), String.ofList rest⟩
    | (second, _ :: last) => ⟨some (String.ofList second), String.ofList last⟩

end ColumnName

/-- A place for a value in the rows of a query. -/
structure Slot where
  table : String
  column : String
  /-- the type that draws a value it is compared with -/
  type : Option ColumnType
  /-- the slot holds a row number and is no column of its own -/
  hidden : Bool := false
deriving Repr, Inhabited

namespace Slot

/-- Whether the slot is of the table of a name, if the name has one. -/
def inTable (s : Slot) (name : ColumnName) : Bool :=
  match name.table with
  | some t => Name.same s.table t
  | none => true

/-- Whether the slot is the column of a name. -/
def isNamed (s : Slot) (name : ColumnName) : Bool :=
  !s.hidden && Name.same s.column name.column && s.inTable name

/-- The names of row numbers. -/
def rowidNames : List String := ["rowid", "oid", "_rowid_"]

/-- Whether the slot is the row number of a name. -/
def isRowid (s : Slot) (name : ColumnName) : Bool :=
  s.hidden && rowidNames.any (Name.same name.column) && s.inTable name

end Slot

/-- What names can mean in a query. -/
structure Scope where
  slots : List Slot
  /-- further names of slots -/
  labels : List (String × Nat) := []
  /-- how many rows the last change of rows changed -/
  changes : Nat := 0
deriving Repr, Inhabited

namespace Scope

/-- The places of the slots that satisfy a condition. -/
def places (s : Scope) (p : Slot → Bool) : List Nat :=
  s.slots.zipIdx.filterMap fun (slot, i) => if p slot then some i else none

/-- The slot that has a further name, if a column is named alone. -/
def labelled? (s : Scope) (name : ColumnName) : Option Nat :=
  match name.table with
  | some _ => none
  | none => (s.labels.find? fun (a, _) => Name.same a name.column).map (·.2)

/-- The slot that a name means. -/
def resolve (s : Scope) (written : String) : Except Refusal Nat :=
  let name := ColumnName.ofText written
  match s.places (·.isNamed name) with
  | [i] => .ok i
  | _ :: _ :: _ => .error (.ambiguousColumn written)
  | [] =>
    match s.places (·.isRowid name) with
    | [i] => .ok i
    | _ =>
      match s.labelled? name with
      | some i => .ok i
      | none => .error (.noSuchColumn written)

/-- The type that draws a value compared with a slot. -/
def type? (s : Scope) (i : Nat) : Option ColumnType := (s.slots[i]?).bind (·.type)

end Scope

/-- The value in a slot of a row. -/
def slotValue (row : List Value) (i : Nat) : Value := (row[i]?).getD .null

/-! ## Operands -/

/-- What a comparison looks at. -/
inductive Operand where
  | slot (i : Nat)
  /-- the same value in every row -/
  | fixed (v : Value)
deriving Repr, Inhabited

namespace Operand

/-- The value over a row. -/
def value (row : List Value) : Operand → Value
  | slot i => slotValue row i
  | fixed v => v

/-- The type that draws a value compared with the operand. -/
def type? (s : Scope) : Operand → Option ColumnType
  | slot i => s.type? i
  | fixed _ => none

end Operand

/-- What a comparison looks at: the count of changed rows, or a column. -/
def Scope.operand (s : Scope) (written : String) : Except Refusal Operand :=
  if written.map Char.toLower = "changes()" then .ok (.fixed (.integer (Int64.ofNat s.changes)))
  else (s.resolve written).map .slot

/-- The value that a placeholder is bound to, by its number.  A missing value is nothing. -/
def boundValue (params : List Value) (i : Nat) : Value := ((params[i]?).getD .null).bound

/-! ## Filters -/

/-- A comparison of an operand with a value. -/
structure BoundLeaf where
  leaf : Leaf
  operand : Operand
  /-- the type that draws the value -/
  type : Option ColumnType
  value : Value
deriving Repr, Inhabited

namespace BoundLeaf

/-- Folds the value of an operand as the leaf says, to lower case first. -/
def fold (l : Leaf) (v : Value) : Value :=
  let v := if l.lower then v.lower else v
  if l.upper then v.upper else v

/-- The truth of the comparison in a row.  A folded column has no type. -/
def truth (b : BoundLeaf) (row : List Value) : Truth :=
  let type := if b.leaf.lower || b.leaf.upper then none else b.type
  let draw := ColumnType.drawn type none
  b.leaf.op.truth (draw (fold b.leaf (b.operand.value row))) (draw b.value)

end BoundLeaf

/-- A filter whose columns are found and whose values are bound. -/
structure Condition where
  tree : Predicate
  leaves : List BoundLeaf
deriving Inhabited

namespace Condition

/-- Finds the operand of a leaf and binds its value. -/
def bindLeaf (s : Scope) (params : List Value) : Leaf × Nat → Except Refusal BoundLeaf
  | (leaf, i) => do
    let operand ← s.operand (Sql.qualified leaf.table leaf.column)
    return ⟨leaf, operand, operand.type? s, boundValue params i⟩

/-- Finds the columns of a filter and binds its values, in their order.  Missing values are
nothing. -/
def bind (s : Scope) (p : Predicate) (params : List Value) : Except Refusal Condition := do
  let leaves ← p.leaves.zipIdx.mapM (bindLeaf s params)
  return ⟨p, leaves⟩

/-- The truth of the filter in a row. -/
def truth (c : Condition) (row : List Value) : Truth :=
  c.tree.truth fun i =>
    match c.leaves[i]? with
    | some l => l.truth row
    | none => .unknown

/-- Whether the filter selects a row. -/
def selects (c : Condition) (row : List Value) : Bool := (c.truth row).selects

end Condition

/-- Binds a filter that may be missing. -/
def Condition.bindOption (s : Scope) (p : Option Predicate) (params : List Value) :
    Except Refusal (Option Condition) :=
  match p with
  | some p => (Condition.bind s p params).map some
  | none => .ok none

/-- Whether a filter that may be missing selects a row. -/
def Condition.selectsOption (c : Option Condition) (row : List Value) : Bool :=
  match c with
  | some c => c.selects row
  | none => true

end ParamSql
