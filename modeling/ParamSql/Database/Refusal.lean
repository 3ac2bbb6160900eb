import ParamSql.Failure

/-!
# Refusals of a database

Why a database does not carry out a statement, as causes.  Those that concern a constraint
are told apart from those that concern the statement itself.

## Main definitions

* `Refusal`, `Refusal.message`, `Refusal.isConstraint`, `Refusal.toFailure`
-/

namespace ParamSql

/-- Why a database does not carry out a statement. -/
inductive Refusal where
  /-- the statement is not well formed at this word -/
  | malformed (word : String)
  /-- the statement ends before it is complete -/
  | incomplete
  | noSuchTable (name : String)
  | noSuchView (name : String)
  | noSuchIndex (name : String)
  | noSuchColumn (name : String)
  /-- a new row names a column that the table does not have -/
  | noColumnNamed (table column : String)
  /-- an alteration names a column that the table does not have -/
  | noColumnToAlter (column : String)
  | ambiguousColumn (name : String)
  | tableExists (name : String)
  | viewExists (name : String)
  | indexExists (name : String)
  /-- an index cannot have the name of a table -/
  | nameOfTable (name : String)
  /-- a table cannot have the name of an index -/
  | nameOfIndex (name : String)
  /-- the new name of a table is taken -/
  | nameTaken (name : String)
  | readOnlyView (name : String)
  | viewNotIndexed
  | viewNotAltered (name : String)
  | columnsOfView (action name : String)
  | columnAddedToView
  | notAView (name : String)
  | notATable (name : String)
  | circularView (name : String)
  | duplicateColumn (name : String)
  | nullDefault
  | referenceWithDefault
  | keyColumn (kind name : String)
  | onlyColumn (name : String)
  /-- an object cannot be read any more after an alteration -/
  | brokenObject (kind name occasion cause : String)
  | parametersInIndex
  | parametersInView
  /-- a reference does not lead to a key -/
  | keyMismatch (child parent : String)
  | datatypeMismatch
  | notNull (table column : String)
  | unique (table : String) (columns : List String)
  | foreignKey
deriving Repr, DecidableEq, Inhabited

namespace Refusal

/-- The wording of a refusal. -/
def message : Refusal → String
  | malformed word => "near \"" ++ word ++ "\": syntax error"
  | incomplete => "incomplete input"
  | noSuchTable name => "no such table: " ++ name
  | noSuchView name => "no such view: " ++ name
  | noSuchIndex name => "no such index: " ++ name
  | noSuchColumn name => "no such column: " ++ name
  | noColumnNamed table column => "table " ++ table ++ " has no column named " ++ column
  | noColumnToAlter column => "no such column: \"" ++ column ++ "\""
  | ambiguousColumn name => "ambiguous column name: " ++ name
  | tableExists name => "table " ++ name ++ " already exists"
  | viewExists name => "view " ++ name ++ " already exists"
  | indexExists name => "index " ++ name ++ " already exists"
  | nameOfTable name => "there is already a table named " ++ name
  | nameOfIndex name => "there is already an index named " ++ name
  | nameTaken name => "there is already another table or index with this name: " ++ name
  | readOnlyView name => "cannot modify " ++ name ++ " because it is a view"
  | viewNotIndexed => "views may not be indexed"
  | viewNotAltered name => "view " ++ name ++ " may not be altered"
  | columnsOfView action name => "cannot " ++ action ++ " view \"" ++ name ++ "\""
  | columnAddedToView => "Cannot add a column to a view"
  | notAView name => "use DROP TABLE to delete table " ++ name
  | notATable name => "use DROP VIEW to delete view " ++ name
  | circularView name => "view " ++ name ++ " is circularly defined"
  | duplicateColumn name => "duplicate column name: " ++ name
  | nullDefault => "Cannot add a NOT NULL column with default value NULL"
  | referenceWithDefault => "Cannot add a REFERENCES column with non-NULL default value"
  | keyColumn kind name => "cannot drop " ++ kind ++ " column: \"" ++ name ++ "\""
  | onlyColumn name => "cannot drop column \"" ++ name ++ "\": no other columns exist"
  | brokenObject kind name occasion cause =>
    "error in " ++ kind ++ " " ++ name ++ occasion ++ ": " ++ cause
  | parametersInIndex => "parameters prohibited in partial index WHERE clauses"
  | parametersInView => "parameters are not allowed in views"
  | keyMismatch child parent =>
    "foreign key mismatch - \"" ++ child ++ "\" referencing \"" ++ parent ++ "\""
  | datatypeMismatch => "datatype mismatch"
  | notNull table column => "NOT NULL constraint failed: " ++ table ++ "." ++ column
  | unique table columns =>
    "UNIQUE constraint failed: " ++ String.intercalate ", " (columns.map (table ++ "." ++ ·))
  | foreignKey => "FOREIGN KEY constraint failed"

/-- Whether a constraint is violated. -/
def isConstraint : Refusal → Bool
  | notNull .. => true
  | unique .. => true
  | foreignKey => true
  | _ => false

/-- The number of a refusal. -/
def code : Refusal → String
  | notNull .. => "1299"
  | unique .. => "2067"
  | foreignKey => "787"
  | datatypeMismatch => "20"
  | _ => "1"

/-- The failure that a refusal is to a connection. -/
def toFailure (r : Refusal) : Failure := .database (some r.code) r.message

end Refusal

end ParamSql
