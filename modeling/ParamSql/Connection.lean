import ParamSql.Executor
import ParamSql.Failure

/-!
# Connections

A connection hands SQL texts with their values to a database, and the rows of cells and the
failures of the database back.  What the database does is left open.

The executor of a connection reads the cells and says what kind of failure it met.

## Main definitions

* `Connection`: what a database does with a text
* `Connection.executor`
-/

namespace ParamSql

/-- Hands SQL texts with the values of their placeholders to a database. -/
structure Connection (m : Type → Type) where
  /-- runs a text for its result -/
  execute : String → List Value → m (Except Failure RunResult)
  /-- the first row that a text yields -/
  fetchFirst : String → List Value → m (Except Failure (Option CellRow))
  /-- every row that a text yields -/
  fetchAll : String → List Value → m (Except Failure (List CellRow))

namespace Connection

variable {m : Type → Type} [Monad m]

/-- Reads the cells of a row, if there is one. -/
def readRow : Option CellRow → Except Failure (Option Row)
  | none => .ok none
  | some cells => (Row.ofCells cells).map some

/-- The executor of a connection. -/
def executor (c : Connection m) : Executor m where
  execute sql params := do
    return (← c.execute sql params).mapError (·.toQueryError)
  fetchFirst sql params := do
    return ((← c.fetchFirst sql params).bind readRow).mapError (·.toQueryError)
  fetchAll sql params := do
    return ((← c.fetchAll sql params).bind (·.mapM Row.ofCells)).mapError (·.toQueryError)

end Connection

end ParamSql
