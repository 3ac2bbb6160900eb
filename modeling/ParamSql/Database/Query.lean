import ParamSql.Database.Relation
import ParamSql.Row
import ParamSql.Sql.Clause
import ParamSql.Sql.Token

/-!
# Queries

A query joins its tables, keeps the rows that its filter selects, yields its columns from
them, removes duplicates, sorts and cuts, in this order.  Where the tables come from is left
open: a query runs over any function that gives the relation of a name.

A result column is a column of a table, alone or as a text, all columns, or the number of rows.
It is called by its label, or as the column is declared, or as it is written.

## Main definitions

* `SelectItem`: an entry of a select list, taken apart
* `OutputColumn`: a column of the result
* `ResultSet`: the columns and rows of a result
* `Query`, `Query.run`
-/

namespace ParamSql

/-! ## The select list -/

/-- What an entry of a select list asks for. -/
inductive SelectItem where
  | all
  | allOf (table : String)
  | count
  /-- a column as a text -/
  | asText (name : String)
  | column (name : String)
deriving Repr, DecidableEq, Inhabited

namespace SelectItem

/-- Takes the label off an entry: the last word, if the word before it is `AS`. -/
def splitLabel (text : String) : String × Option String :=
  let backwards := text.toList.reverse
  match backwards.dropWhile (· != ' ') with
  | _ :: s :: a :: ' ' :: expr =>
    let label := (backwards.takeWhile (· != ' ')).reverse
    if s.toLower = 's' ∧ a.toLower = 'a' ∧ !label.contains ')' then
      (String.ofList expr.reverse, some (String.ofList label))
    else (text, none)
  | _ => (text, none)

/-- The column that an expression asks for as a text. -/
def castColumn? (expr : String) : Option String :=
  match Sql.tokens expr with
  | [cast, opening, name, word, type, closing] =>
    if cast.isWord "CAST" && opening.isMark "(" && name.isName && word.isWord "AS" &&
        type.isWord "TEXT" && closing.isMark ")" then some name.name
    else none
  | _ => none

/-- What an expression asks for. -/
def ofText (expr : String) : SelectItem :=
  if expr = "*" then all
  else if expr.map Char.toLower = "count(*)" then count
  else if let some name := castColumn? expr then asText name
  else
    match expr.toList.reverse with
    | '*' :: '.' :: table => allOf (String.ofList table.reverse)
    | _ => column expr

end SelectItem

/-- How a value of the result comes about. -/
inductive Term where
  | slot (i : Nat)
  /-- the value in a slot as a text -/
  | asText (i : Nat)
  /-- the number of rows that were selected -/
  | count
deriving Repr, DecidableEq, Inhabited

namespace Term

/-- The value over a row, when `n` rows were selected. -/
def value (n : Nat) (row : List Value) : Term → Value
  | slot i => slotValue row i
  | asText i => (slotValue row i).toText
  | count => .integer (Int64.ofNat n)

/-- The cell of a value.  Bytes that become a text stay the bytes that they are. -/
def cell : Term → Value → Cell
  | asText _, .blob bytes => .text bytes
  | _, v => .ofValue v

end Term

/-- A column of the result. -/
structure OutputColumn where
  name : String
  term : Term
  type : Option ColumnType := none
  /-- the name behind `AS`, if there is one -/
  label : Option String := none
deriving Repr, Inhabited

namespace OutputColumn

/-- The column that yields a slot. -/
def ofSlot (label : Option String) (slot : Slot) (i : Nat) : OutputColumn :=
  ⟨label.getD slot.column, .slot i, slot.type, label⟩

/-- The columns that yield every slot of a table, or of all tables.  A table that is read
twice leaves its columns ambiguous. -/
def ofSlots (s : Scope) (table : Option String) : Except Refusal (List OutputColumn) :=
  (s.slots.zipIdx.filter fun (slot, _) =>
      !slot.hidden && table.all (Name.same slot.table)).mapM fun (slot, i) =>
    match s.places (·.isNamed ⟨some slot.table, slot.column⟩) with
    | [_] => .ok (ofSlot none slot i)
    | _ => .error (.ambiguousColumn (Name.full slot.table ++ "." ++ slot.column))

/-- The table of an entry that asks for all columns of a table that is not read. -/
def missingTable? (s : Scope) (c : SelectColumn) : Option String :=
  match SelectItem.ofText (SelectItem.splitLabel c.sql).1 with
  | .allOf table => if s.slots.any fun slot => Name.same slot.table table then none else some table
  | _ => none

/-- The columns that an entry of a select list yields. -/
def ofEntry (s : Scope) (c : SelectColumn) : Except Refusal (List OutputColumn) := do
  let (expr, label) := SelectItem.splitLabel c.sql
  match SelectItem.ofText expr with
  | .all => ofSlots s none
  | .allOf table => ofSlots s (some table)
  | .count => return [⟨label.getD expr, .count, none, label⟩]
  | .asText name => return [⟨label.getD expr, .asText (← s.resolve name), none, label⟩]
  | .column name =>
    let i ← s.resolve name
    return [ofSlot label ((s.slots[i]?).getD default) i]

/-- The columns that a select list yields.  Tables are looked for before columns, and of
several that are missing the last one is named. -/
def ofEntries (s : Scope) (cs : List SelectColumn) : Except Refusal (List OutputColumn) := do
  match (cs.filterMap (missingTable? s)).getLast? with
  | some table => throw (.noSuchTable table)
  | none => return (← cs.mapM (ofEntry s)).flatten

/-- The slot that has a label, with its label. -/
def labelledSlot? (c : OutputColumn) : Option (String × Nat) :=
  match c.label, c.term with
  | some a, .slot i => some (a, i)
  | _, _ => none

end OutputColumn

/-! ## Joins and orderings -/

/-- Two slots whose values must be equal. -/
structure SlotPair where
  left : Nat
  right : Nat
  /-- how the two values are drawn towards each other -/
  draw : Value → Value

namespace SlotPair

/-- The slots that a join compares. -/
def ofJoin (s : Scope) (j : InnerJoin) : Except Refusal SlotPair := do
  let left ← s.resolve (Sql.qualified (some j.otherTable) j.otherColumn)
  let right ← s.resolve j.thisColumn
  return ⟨left, right, ColumnType.drawn (s.type? left) (s.type? right)⟩

/-- Whether the two values are equal, and there. -/
def holds (p : SlotPair) (row : List Value) : Bool :=
  (Comparison.eq.truth (p.draw (slotValue row p.left)) (p.draw (slotValue row p.right))).selects

end SlotPair

/-- A row that was selected, with what the result yields of it. -/
structure ResultRow where
  source : List Value
  cells : List Value
deriving Repr, Inhabited

/-- What the rows of a result are sorted by. -/
structure SortKey where
  value : ResultRow → Value
  ascending : Bool

namespace SortKey

/-- The key of an ordering: a label of the result, or else a column of the tables. -/
def ofTerm (s : Scope) (columns : List OutputColumn) (t : OrderTerm) :
    Except Refusal SortKey := do
  let named (c : OutputColumn) : Bool :=
    t.table.isNone && (c.label.map (Name.same t.column)).getD false
  match columns.findIdx? named with
  | some i => return ⟨fun r => slotValue r.cells i, t.ascending⟩
  | none =>
    let i ← s.resolve (Sql.qualified t.table t.column)
    return ⟨fun r => slotValue r.source i, t.ascending⟩

/-- Compares two rows by a key. -/
def order (k : SortKey) (a b : ResultRow) : Ordering :=
  let o := (k.value a).order (k.value b)
  if k.ascending then o else o.swap

/-- Compares two rows by the first key that tells them apart. -/
def orderBy (keys : List SortKey) (a b : ResultRow) : Ordering :=
  keys.foldr (fun k o => (k.order a b).then o) .eq

/-- Puts a row in front of the first row that does not come before it. -/
def place (keys : List SortKey) (a : ResultRow) : List ResultRow → List ResultRow
  | [] => [a]
  | b :: bs => if orderBy keys a b != .gt then a :: b :: bs else b :: place keys a bs

/-- Sorts rows; those that no key tells apart keep their order. -/
def sort (keys : List SortKey) (rows : List ResultRow) : List ResultRow :=
  rows.foldr (place keys) []

end SortKey

namespace ResultRow

/-- Whether two rows yield the same. -/
def same (a b : ResultRow) : Bool :=
  a.cells.length == b.cells.length && (a.cells.zip b.cells).all fun (v, w) => v.same w

/-- The rows that yield what no row before them yields. -/
def distinct (rows : List ResultRow) : List ResultRow :=
  (rows.foldl (fun kept r => if kept.any (same r) then kept else r :: kept) []).reverse

end ResultRow

/-! ## Results -/

/-- The columns and rows of a result. -/
structure ResultSet where
  columns : List OutputColumn
  rows : List (List Value)
deriving Repr, Inhabited

namespace ResultSet

/-- The rows of cells with the names of their columns. -/
def toCells (r : ResultSet) : List CellRow :=
  r.rows.map fun values => List.zipWith (fun c v => (c.name, c.term.cell v)) r.columns values

end ResultSet

/-- A query. -/
structure Query where
  table : String
  columns : List SelectColumn
  options : SelectOptions := {}
deriving Inhabited

namespace Query

/-- How many rows a cut counts; it cannot count beyond 63 bits. -/
def cutOff (n : UInt64) : Except Refusal Nat :=
  if Decimal.fitsSigned 64 n.toNat then .ok n.toNat else .error .datatypeMismatch

/-- The rows between the offset and the limit.  Without a limit nothing is cut. -/
def cut (o : SelectOptions) (rows : List ResultRow) : Except Refusal (List ResultRow) := do
  match o.limit with
  | none => return rows
  | some limit =>
    let n ← cutOff limit
    let m ← cutOff (o.offset.getD 0)
    return (rows.drop m).take n

/-- The tables of a query side by side, in the order in which they are named. -/
def joined (source : String → Except Refusal Relation) (q : Query) : Except Refusal Relation := do
  let first ← source q.table
  q.options.innerJoins.foldlM (fun r j => return r.product (← source j.otherTable)) first

/-- Runs a query over the relations that a source gives, when the last change changed so many
rows. -/
def run (source : String → Except Refusal Relation) (changes : Nat) (q : Query)
    (params : List Value) : Except Refusal ResultSet := do
  if q.columns.isEmpty then throw (.malformed "FROM")
  let tables ← q.joined source
  let columns ← OutputColumn.ofEntries tables.scope q.columns
  -- conditions and orderings may also use the labels of the select list
  let scope : Scope := ⟨tables.slots, columns.filterMap (·.labelledSlot?), changes⟩
  let condition ← Condition.bindOption scope q.options.filter params
  let pairs ← q.options.innerJoins.mapM (SlotPair.ofJoin scope)
  let keys ← q.options.orderBy.mapM (SortKey.ofTerm scope columns)
  let selected := tables.rows.filter fun row =>
    Condition.selectsOption condition row && pairs.all (·.holds row)
  -- a count makes one row of all rows; other columns then show the last of them
  let sources :=
    if columns.any (·.term == .count) then [selected.getLast?.getD []] else selected
  let yielded := sources.map fun row =>
    ResultRow.mk row (columns.map (·.term.value selected.length row))
  let yielded := if q.options.distinct then ResultRow.distinct yielded else yielded
  let rows ← cut q.options (SortKey.sort keys yielded)
  return ⟨columns, rows.map (·.cells)⟩

end Query

end ParamSql
