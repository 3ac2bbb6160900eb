import ParamSql.Operator
import ParamSql.Decimal.Layout

/-!
# Columns

The columns of a statement in their four roles: selected, declared, referenced by
a foreign key, and assigned by an update.

## Main definitions

* `ColumnRef`, `SelectColumn`: what a query yields
* `ColumnDef` with `DefaultValue`, `ColumnOptions`, `ForeignKey`: what a table declares
* `Assignment`: what an update sets
-/

namespace ParamSql

/-- A selected column, possibly qualified and renamed. -/
structure ColumnRef where
  column : String
  table : Option String := none
  label : Option String := none
deriving Repr, DecidableEq, Inhabited

/-- An entry of a select list: an expression taken as written, or a column. -/
inductive SelectColumn where
  | raw (expr : String)
  | ref (column : ColumnRef)
deriving Repr, DecidableEq, Inhabited

/-- The default of a declared column. -/
inductive DefaultValue where
  | integer (n : Int64)
  | real (x : Float)
  | expr (sql : String)
deriving Repr, Inhabited

namespace DefaultValue

/-- The default as it is written after `DEFAULT`. -/
def text : DefaultValue → String
  | integer n => toString n.toInt
  | real x => Decimal.positional.text x
  | expr sql => sql

end DefaultValue

/-- The modifiers of a declared column. -/
structure ColumnOptions where
  default : Option DefaultValue := none
  notNull : Bool := false
  primaryKey : Bool := false
  unique : Bool := false
deriving Repr, Inhabited

/-- The column of another table that a declared column refers to, with the
actions to take when that row goes away. -/
structure ForeignKey where
  table : String
  column : String
  options : List String := []
deriving Repr, DecidableEq, Inhabited

/-- A declared column. -/
structure ColumnDef where
  name : String
  type : ColumnType
  options : ColumnOptions := {}
  foreign : Option ForeignKey := none
deriving Repr, Inhabited

namespace ColumnDef

/-- A column without modifiers. -/
def ofType (name : String) (type : ColumnType) : ColumnDef := ⟨name, type, {}, none⟩

def notNull (c : ColumnDef) : ColumnDef := { c with options := { c.options with notNull := true } }

def primaryKey (c : ColumnDef) : ColumnDef :=
  { c with options := { c.options with primaryKey := true } }

def unique (c : ColumnDef) : ColumnDef := { c with options := { c.options with unique := true } }

def withDefault (c : ColumnDef) (value : DefaultValue) : ColumnDef :=
  { c with options := { c.options with default := some value } }

def references (c : ColumnDef) (foreign : ForeignKey) : ColumnDef :=
  { c with foreign := some foreign }

end ColumnDef

/-- What an update does to one column. -/
inductive Assignment where
  /-- the column takes the bound value -/
  | set (column : String)
  /-- the column takes its own value adjusted by the bound one, or just the bound
  value when no adjustment is named -/
  | adjust (column : String) (change : Option Adjustment)
deriving Repr, DecidableEq, Inhabited

namespace Assignment

/-- Adds the bound value to the column. -/
def increment (column : String) : Assignment := adjust column (some .add)

/-- Takes the bound value off the column. -/
def decrement (column : String) : Assignment := adjust column (some .sub)

/-- The column that is assigned. -/
def column : Assignment → String
  | set c => c
  | adjust c _ => c

/-- The adjustment in effect, if there is one. -/
def adjustment? : Assignment → Option Adjustment
  | set _ => none
  | adjust _ a => a

end Assignment

end ParamSql
