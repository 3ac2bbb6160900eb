import ParamSql.Column
import ParamSql.Error

/-!
# Alterations of a table

An alteration does one thing to a table.  It has a strict form, `Alteration`, in
which the one thing is a constructor and an added column is known to be addable,
and a loose form, `AlterOptions`, in which a document may name any number of
operations.  The loose form becomes strict when it names exactly one.

## Main definitions

* `NewColumn`, `Alteration`, `Alteration.addColumn?`
* `RenameColumn`, `AlterOptions`, `AlterOptions.populated`
* `AlterOptions.toAlteration`, `Alteration.toOptions`
-/

namespace ParamSql

/-- A column that can be added to an existing table: neither a key nor unique. -/
structure NewColumn where
  column : ColumnDef
  notKey : column.options.primaryKey = false
  notUnique : column.options.unique = false

/-- One operation on an existing table. -/
inductive Alteration where
  | addColumn (new : NewColumn)
  | dropColumn (name : String)
  | renameTable (name : String)
  | renameColumn (source target : String)

namespace Alteration

/-- Adds a column, unless it is a primary key or, after that, unique. -/
def addColumn? (c : ColumnDef) : Except QueryError Alteration :=
  if hk : c.options.primaryKey = true then
    .error (.invalidAddColumn c.name "PRIMARY KEY is not allowed")
  else if hu : c.options.unique = true then
    .error (.invalidAddColumn c.name "UNIQUE is not allowed")
  else .ok (.addColumn ⟨c, by simpa using hk, by simpa using hu⟩)

end Alteration

/-- Which column is to be renamed, and how. -/
structure RenameColumn where
  columnName : String
  newColumnName : String
deriving Repr, DecidableEq, Inhabited

/-- The operations that a document names, each at most once. -/
structure AlterOptions where
  addColumn : Option ColumnDef := none
  dropColumnName : Option String := none
  newTableName : Option String := none
  renameColumn : Option RenameColumn := none
deriving Repr, Inhabited

namespace AlterOptions

/-- The names of the operations that are given, in the order of their declaration. -/
def populated (o : AlterOptions) : List String :=
  (if o.addColumn.isSome then ["add_column"] else []) ++
  (if o.dropColumnName.isSome then ["drop_column_name"] else []) ++
  (if o.newTableName.isSome then ["new_table_name"] else []) ++
  (if o.renameColumn.isSome then ["rename_column"] else [])

/-- The one operation that is given.  Naming more than one is refused before the
operations themselves are looked at. -/
def toAlteration (o : AlterOptions) : Except QueryError Alteration :=
  if 1 < o.populated.length then .error (.ambiguousAlteration o.populated)
  else
    match o.addColumn, o.dropColumnName, o.newTableName, o.renameColumn with
    | some c, _, _, _ => Alteration.addColumn? c
    | none, some name, _, _ => .ok (.dropColumn name)
    | none, none, some name, _ => .ok (.renameTable name)
    | none, none, none, some r => .ok (.renameColumn r.columnName r.newColumnName)
    | none, none, none, none => .error .emptyAlteration

end AlterOptions

/-- The loose form of an alteration: its one operation. -/
def Alteration.toOptions : Alteration → AlterOptions
  | addColumn new => { addColumn := some new.column }
  | dropColumn name => { dropColumnName := some name }
  | renameTable name => { newTableName := some name }
  | renameColumn source target => { renameColumn := some ⟨source, target⟩ }

end ParamSql
