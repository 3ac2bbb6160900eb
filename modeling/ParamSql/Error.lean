/-!
# Errors

What can go wrong between a description of a statement and its result, as causes.
The wording of each is in one place, `QueryError.message`.

## Main definitions

* `QueryError`, `QueryError.message`
* `QueryError.isConstraintViolation`, `QueryError.isStatementError`
-/

namespace ParamSql

/-- Why a statement could not be read, built, configured or run. -/
inductive QueryError where
  /-- an expression is refused at a byte position -/
  | parse (position : Nat) (reason : String)
  /-- a word that is no comparison -/
  | invalidComparison (word : String)
  /-- a word that is no adjustment -/
  | invalidAdjustment (word : String)
  /-- an alteration that names no operation -/
  | emptyAlteration
  /-- an alteration that names these operations, more than one -/
  | ambiguousAlteration (fields : List String)
  /-- a column that cannot be added to an existing table -/
  | invalidAddColumn (column reason : String)
  /-- a constraint of the database refuses the change -/
  | constraint (detail : String)
  /-- the database refuses the statement -/
  | statement (detail : String)
  /-- there is no connection to run the statement on -/
  | connection (detail : String)
  /-- any other failure while running -/
  | execution (detail : String)
  /-- the configuration does not say what is needed -/
  | config (detail : String)
  /-- a document does not describe what is asked for -/
  | serialization (detail : String)
  /-- a file cannot be reached -/
  | io (detail : String)
deriving Repr, DecidableEq, Inhabited

namespace QueryError

/-- The wording of an error. -/
def message : QueryError → String
  | parse position reason => "Parse error at position " ++ toString position ++ ": " ++ reason
  | invalidComparison word =>
    "Invalid operator: '" ++ word ++ "'. Expected one of: =, !=, >, >=, <, <="
  | invalidAdjustment word =>
    "Invalid update operator: '" ++ word ++ "'. Expected: += or -="
  | emptyAlteration => "Alter table: no operation given"
  | ambiguousAlteration fields =>
    "Alter table: exactly one operation expected, got " ++ String.intercalate ", " fields
  | invalidAddColumn column reason => "Cannot add column '" ++ column ++ "': " ++ reason
  | constraint detail => "Constraint violation: " ++ detail
  | statement detail => "Statement error: " ++ detail
  | connection detail => "Connection error: " ++ detail
  | execution detail => "Execution error: " ++ detail
  | config detail => "Configuration error: " ++ detail
  | serialization detail => "Serialization error: " ++ detail
  | io detail => "IO error: " ++ detail

/-- Whether a constraint of the database refused the change. -/
def isConstraintViolation : QueryError → Bool
  | constraint _ => true
  | _ => false

/-- Whether the database refused the statement itself. -/
def isStatementError : QueryError → Bool
  | statement _ => true
  | _ => false

end QueryError

end ParamSql
