import ParamSql.Database.Scope

/-!
# Relations

What a query reads: rows whose values stand in slots.  A table is read with the number of
each row in a slot of its own, in front of the columns.

## Main definitions

* `Relation`, `Relation.product`, `Relation.scope`
* `StoredTable.relation`: the rows of a table, with their numbers
-/

namespace ParamSql

/-- Rows whose values stand in slots. -/
structure Relation where
  slots : List Slot
  rows : List (List Value)
deriving Repr, Inhabited

namespace Relation

/-- Every row of a relation beside every row of another. -/
def product (r s : Relation) : Relation :=
  ⟨r.slots ++ s.slots, r.rows.flatMap fun a => s.rows.map (a ++ ·)⟩

/-- What names mean over a relation. -/
def scope (r : Relation) : Scope := { slots := r.slots }

end Relation

/-- The values of a row, its number in front. -/
def StoredRow.values (r : StoredRow) : List Value := .integer r.rowid :: r.cells

namespace StoredTable

/-- What the number of a row is called in a result: as the column that holds it, if one does. -/
def rowidName (t : StoredTable) : String :=
  match t.rowidIndex?.bind (t.columns[·]?) with
  | some c => c.name
  | none => "rowid"

/-- The slots of a table: the number of the row, then the columns. -/
def slots (t : StoredTable) : List Slot :=
  ⟨t.name, t.rowidName, some .integer, true⟩ ::
    t.columns.map fun c => ⟨t.name, c.name, some c.type, false⟩

/-- The rows of a table, with their numbers. -/
def relation (t : StoredTable) : Relation := ⟨t.slots, t.rows.map (·.values)⟩

/-- What names mean in a condition on the rows of a table. -/
def scope (t : StoredTable) : Scope := t.relation.scope

end StoredTable

end ParamSql
