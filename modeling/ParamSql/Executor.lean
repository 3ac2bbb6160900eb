import ParamSql.Row
import ParamSql.Sql.Statement

/-!
# Executors

An executor runs SQL text with values for its placeholders, in one of three ways.
Whatever runs the text, a described statement and a probe are run on top of these
three.

## Main definitions

* `Executor`: the three ways to run a text
* `Executor.run`: runs a described statement
* `Executor.exists`: runs a probe
* `Executor.executeAll`, `Executor.apply`: texts without values, and those of a schema
* `Executor.logged`: the same executor, which also notes its calls
-/

namespace ParamSql

/-- What a statement without rows did. -/
structure RunResult where
  changes : UInt64 := 0
  rowid : Int64 := 0
deriving Repr, DecidableEq, Inhabited

/-- What a statement did. -/
inductive Outcome where
  | rows (rows : List Row)
  | done (result : RunResult)
deriving Repr, Inhabited

/-- Runs SQL text with values for its placeholders. -/
structure Executor (m : Type → Type) where
  /-- runs a text that yields no rows -/
  execute : String → List Value → m (Except QueryError RunResult)
  /-- the first row that a text yields -/
  fetchFirst : String → List Value → m (Except QueryError (Option Row))
  /-- every row that a text yields -/
  fetchAll : String → List Value → m (Except QueryError (List Row))

/-- Whether the row of a probe says that there is a match: its value is an integer of 64
bits with a sign, and not 0. -/
def Row.saysExists (r : Row) : Bool :=
  match r.get? Sql.probeColumn with
  | some (.int n) => Decimal.fitsSigned 64 n && n != 0
  | _ => false

namespace Executor

variable {m : Type → Type} [Monad m]

/-- Runs a described statement: for its rows if it yields rows. -/
def run (e : Executor m) (s : Statement) (params : List Value) : m (Except QueryError Outcome) := do
  if s.isQuery then
    return (← e.fetchAll s.sql params).map .rows
  else
    return (← e.execute s.sql params).map .done

/-- Runs the text of a probe. -/
def «exists» (e : Executor m) (sql : String) (params : List Value) :
    m (Except QueryError Bool) := do
  return (← e.fetchFirst sql params).map fun row => (row.map (·.saysExists)).getD false

/-- Runs texts without values, one after the other, up to the first that fails. -/
def executeAll (e : Executor m) : List String → m (Except QueryError Unit)
  | [] => return .ok ()
  | sql :: rest => do
    match ← e.execute sql [] with
    | .ok _ => executeAll e rest
    | .error error => return .error error

/-- Creates every object of a schema that is not there yet. -/
def apply (e : Executor m) (s : Schema) : m (Except QueryError Unit) :=
  e.executeAll (s.createSql true)

/-! ## Calls -/

/-- The three ways to run a text. -/
inductive Method where
  | execute
  | fetchFirst
  | fetchAll
deriving Repr, DecidableEq, Inhabited

/-- One use of an executor. -/
structure Call where
  method : Method
  sql : String
  params : List Value
deriving Repr, Inhabited

/-- Notes a call before it is made. -/
def noting {α : Type} (call : Call) (action : m α) : StateT (List Call) m α := do
  modify (· ++ [call])
  action

/-- The same executor, which also notes its calls in their order. -/
def logged (e : Executor m) : Executor (StateT (List Call) m) where
  execute := fun sql params => noting ⟨.execute, sql, params⟩ (e.execute sql params)
  fetchFirst := fun sql params => noting ⟨.fetchFirst, sql, params⟩ (e.fetchFirst sql params)
  fetchAll := fun sql params => noting ⟨.fetchAll, sql, params⟩ (e.fetchAll sql params)

end Executor

end ParamSql
