import ParamSql.Alteration
import ParamSql.Selection

/-!
# Statements

A statement is described by its parts and knows how many values it binds.

## Main definitions

* `Statement`: the twelve kinds
* `Statement.isQuery`: whether it yields rows
* `Statement.placeholderCount`: how many values it binds
-/

namespace ParamSql

/-- A described statement. -/
inductive Statement where
  | select (table : String) (columns : List SelectColumn) (options : SelectOptions)
  | insert (table : String) (columns : List String)
  | update (table : String) (columns : List Assignment) (filter : Option Predicate)
  | delete (table : String) (filter : Option Predicate)
  | exists (table : String) (filter : Option Predicate)
  | createTable (table : String) (columns : List ColumnDef) (ifNotExists : Bool)
  | alterTable (table : String) (alter : Alteration)
  | dropTable (table : String) (ifExists : Bool)
  | createView (view table : String) (columns : List SelectColumn) (options : SelectOptions)
      (ifNotExists : Bool)
  | dropView (view : String) (ifExists : Bool)
  | createIndex (index table : String) (columns : List String) (ifNotExists : Bool)
      (filter : Option Predicate)
  | dropIndex (index : String) (ifExists : Bool)

namespace Statement

/-- Whether the statement yields rows. -/
def isQuery : Statement → Bool
  | select .. => true
  | .exists .. => true
  | _ => false

/-- How many values a filter binds that may be left out, `id = ?` standing in for it. -/
def filterCount (filter : Option Predicate) : Nat :=
  match filter with
  | some p => p.placeholderCount
  | none => 1

/-- How many values a filter binds that nothing stands in for. -/
def bareFilterCount (filter : Option Predicate) : Nat :=
  match filter with
  | some p => p.placeholderCount
  | none => 0

/-- How many values the statement binds. -/
def placeholderCount : Statement → Nat
  | select _ _ options => bareFilterCount options.filter
  | createView _ _ _ options _ => bareFilterCount options.filter
  | insert _ columns => columns.length
  | update _ columns filter => columns.length + filterCount filter
  | delete _ filter => filterCount filter
  | .exists _ filter => filterCount filter
  | createIndex _ _ _ _ filter => bareFilterCount filter
  | createTable .. => 0
  | alterTable .. => 0
  | dropTable .. => 0
  | dropView .. => 0
  | dropIndex .. => 0

end Statement

end ParamSql
