import ParamSql.Decimal.Numeral
import ParamSql.Error

/-!
# Failures of an engine

What an engine reports when a statement cannot be run, and the error that this
means.  A database numbers its objections; the low byte of the number says what
kind of objection it is, and one kind is that a constraint was violated.

## Main definitions

* `Failure`, `Failure.toQueryError`
* `Failure.codeOf`, `Failure.isConstraintCode`
-/

namespace ParamSql

/-- Why an engine could not run a statement. -/
inductive Failure where
  /-- the database objects, under this code -/
  | database (code : Option String) (message : String)
  | io (message : String)
  | configuration (message : String)
  | poolTimedOut
  | poolClosed
  | columnNotFound (name : String)
  | rowNotFound
  /-- the cell in this place of a row cannot be read -/
  | columnUnreadable (index : Nat) (cause : String)
deriving Repr, DecidableEq, Inhabited

namespace Failure

/-- The number that a code writes with 32 bits, or 0 if it writes none. -/
def codeOf (code : Option String) : Int32 :=
  ((code.bind fun s => Decimal.integerWithin? 32 s.toList).map Int32.ofInt).getD 0

/-- The low byte of the codes of violated constraints. -/
def constraintByte : Int32 := 19

/-- Whether a code says that a constraint was violated. -/
def isConstraintCode (code : Int32) : Bool := code &&& 0xff == constraintByte

/-- The error that a failure means. -/
def toQueryError : Failure → QueryError
  | database code message =>
    if isConstraintCode (codeOf code) then .constraint message else .statement message
  | io message => .io message
  | configuration message => .config message
  | poolTimedOut => .connection "connection pool timed out"
  | poolClosed => .connection "connection pool closed"
  | columnNotFound name => .execution ("no column found for name: " ++ name)
  | rowNotFound =>
    .execution "no rows returned by a query that expected to return at least one row"
  | columnUnreadable index cause =>
    .execution ("error occurred while decoding column " ++ toString index ++ ": " ++ cause)

end Failure

end ParamSql
