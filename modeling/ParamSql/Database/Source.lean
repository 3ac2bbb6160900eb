import ParamSql.Database.Query
import ParamSql.Sql.Statement

/-!
# Reading a database

A name in a query stands for a table, or for a view, which is a query of its own.  A view may
read other views, but not itself; as many steps as there are views are therefore enough to
reach a table.

## Main definitions

* `Database.source`: the relation of a name
* `Database.select`, `Database.probe`: queries over a database
-/

namespace ParamSql

/-- The query that a view stands for. -/
def View.query (v : View) : Query := ⟨v.table, v.columns, v.options.getD {}⟩

namespace ResultSet

/-- A name that no column has yet: with the least number behind it, if need be. -/
def freshName (taken : List String) (name : String) : String :=
  let candidates := name :: (List.range taken.length).map fun i =>
    name ++ ":" ++ toString (i + 1)
  (candidates.find? fun n => !taken.any (Name.same n)).getD name

/-- Names without repetition. -/
def freshNames (names : List String) : List String :=
  (names.foldl (fun taken name => freshName taken name :: taken) []).reverse

/-- The result as the relation of a view. -/
def relation (r : ResultSet) (view : String) : Relation :=
  let names := freshNames (r.columns.map (·.name))
  ⟨(names.zip r.columns).map fun (name, c) => ⟨view, name, c.type, false⟩, r.rows⟩

end ResultSet

namespace Database

/-- The relation of a name, when views may be opened a number of times. -/
def sourceWithin (db : Database) : Nat → String → Except Refusal Relation
  | 0, name => .error (.circularView (Name.bare name))
  | n + 1, name =>
    match db.table? name with
    | some t => .ok t.relation
    | none =>
      match db.view? name with
      | some v => do
        let result ← v.query.run (fun name => sourceWithin db n (Name.full name)) db.changes []
        return result.relation v.name
      | none => .error (.noSuchTable name)

/-- The relation of a name. -/
def source (db : Database) (name : String) : Except Refusal Relation :=
  db.sourceWithin (db.views.length + 1) name

/-- Runs a query. -/
def select (db : Database) (q : Query) (params : List Value) : Except Refusal (List CellRow) :=
  (q.run db.source db.changes params).map (·.toCells)

/-- The row that tells whether a filter selects a row. -/
def probe (db : Database) (table : String) (filter : Option Predicate) (params : List Value) :
    Except Refusal (List CellRow) := do
  let rows ← db.source table
  let scope := { rows.scope with changes := db.changes }
  let condition ← Condition.bind scope (filter.getD .byDefault) params
  return [[(Sql.probeColumn, .ofValue (.ofBool (rows.rows.any condition.selects)))]]

end Database

end ParamSql
