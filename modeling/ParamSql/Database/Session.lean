import ParamSql.Connection
import ParamSql.Database.Altering
import ParamSql.Database.Phrase

/-!
# Sessions

A session runs texts on a database in memory, one after another.  The statements of a text run
in their order, up to the first that is refused, and each takes the values of its placeholders.
A refused statement changes no rows and no objects.  A closed database runs nothing any more.

## Main definitions

* `Database.perform`: what a statement yields and leaves behind
* `Database.answer`: what a text yields and leaves behind
* `Database.connection`: the connection to a database in memory
* `Database.run`, `Database.first`, `Database.exists`, `Database.apply`: what its executor does
* `Database.close`
-/

namespace ParamSql

namespace Database

/-! ## Statements -/

/-- Carries out a statement that yields no rows. -/
def execute (db : Database) (s : Statement) (params : List Value) : Except Refusal Database :=
  match s with
  | .insert table columns => db.insert table columns params
  | .update table columns filter => db.update table columns filter params
  | .delete table filter => db.delete table filter params
  | .createTable table columns flag => db.createTable table columns flag
  | .alterTable table a => db.alterTable table a
  | .dropTable table flag => db.dropTable table flag
  | .createView view table columns options flag =>
    db.createView ⟨view, table, columns, some options⟩ flag
  | .dropView view flag => db.dropView view flag
  | .createIndex index table columns flag filter =>
    db.createIndex ⟨index, table, columns, filter⟩ flag
  | .dropIndex index flag => db.dropIndex index flag
  | .select .. => .ok db
  | .exists .. => .ok db

/-- Whether a refusal arises while rows are being changed.  The connection then remembers that
nothing was changed. -/
def arisesInChange (s : Statement) (r : Refusal) : Bool :=
  match s with
  | .insert .. => r.isConstraint || arisesInRows r
  | .update .. => r.isConstraint || arisesInRows r
  | .delete .. => r.isConstraint || arisesInRows r
  | .dropTable .. => r.isConstraint
  | _ => false

/-- What a statement yields and leaves behind. -/
def perform (db : Database) (s : Statement) (params : List Value) :
    Except Refusal (List CellRow) × Database :=
  match s with
  | .select table columns options => (db.select ⟨table, columns, options⟩ params, db)
  | .exists table filter => (db.probe table filter params, db)
  | s =>
    match db.execute s params with
    | .ok new => (.ok [], new)
    | .error r => (.error r, if arisesInChange s r then { db with changes := 0 } else db)

/-! ## Texts -/

/-- What the statements of a text yield. -/
structure Answer where
  rows : List CellRow := []
  /-- how many rows they changed -/
  changes : Nat := 0
  /-- the number of the row that was added last -/
  rowid : Int64 := 0
deriving Repr, Inhabited

/-- How many values the placeholders of a statement take. -/
def markCount (ts : List Sql.Token) : Nat := ts.countP (·.isMark "?")

/-- Runs statements one after another, or only up to the first that yields a row. -/
def performAll (toFirstRow : Bool) (db : Database) :
    List (List Sql.Token) → List Value → Except Refusal Answer × Database
  | [], _ => (.ok {}, db)
  | ts :: rest, params =>
    match Statement.ofTokens ts with
    | .error r => (.error r, db)
    | .ok s =>
      match db.perform s params with
      | (.error r, new) => (.error r, new)
      | (.ok rows, new) =>
        let answer : Answer := ⟨rows, new.changes, new.rowid⟩
        if rest.isEmpty || toFirstRow && !rows.isEmpty then (.ok answer, new)
        else
          let (others, last) := performAll toFirstRow new rest (params.drop (markCount ts))
          (others.map fun a => ⟨rows ++ a.rows, answer.changes + a.changes, a.rowid⟩, last)

/-- What a text yields and leaves behind. -/
def answer (toFirstRow : Bool) (sql : String) (params : List Value) (db : Database) :
    Except Failure Answer × Database :=
  match db.unusable with
  | some failure => (.error failure, db)
  | none =>
    let (result, new) := db.performAll toFirstRow (Sql.statements sql) params
    (result.mapError (·.toFailure), new)

/-! ## Connections -/

variable {m : Type → Type} [Monad m]

/-- The connection to a database in memory. -/
def connection : Connection (StateT Database m) where
  execute sql params := do
    return (← modifyGet (answer false sql params)).map fun a =>
      ⟨UInt64.ofNat a.changes, a.rowid⟩
  fetchFirst sql params := do
    return (← modifyGet (answer true sql params)).map (·.rows.head?)
  fetchAll sql params := do
    return (← modifyGet (answer false sql params)).map (·.rows)

/-- Runs texts on a database in memory. -/
def executor : Executor (StateM Database) := connection.executor

/-- Runs a statement. -/
def run (db : Database) (s : Statement) (params : List Value) :
    Except QueryError Outcome × Database :=
  (executor.run s params).run db

/-- Runs a statement for the first of its rows. -/
def first (db : Database) (s : Statement) (params : List Value) :
    Except QueryError (Option Row) × Database :=
  (executor.fetchFirst s.sql params).run db

/-- Whether a filter selects a row, as a probe says. -/
def «exists» (db : Database) (table : String) (filter : Option Predicate) (params : List Value) :
    Except QueryError Bool × Database :=
  (executor.exists (Sql.probe table filter) params).run db

/-- Creates every object of a schema that is not there yet. -/
def apply (db : Database) (s : Schema) : Except QueryError Unit × Database :=
  (executor.apply s).run db

/-- Closes the database. -/
def close (db : Database) : Database := { db with unusable := some .poolClosed }

end Database

end ParamSql
