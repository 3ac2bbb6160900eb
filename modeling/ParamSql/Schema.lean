import ParamSql.Statement

/-!
# Schemas

A schema describes tables, views and indexes together, and yields the statements
that create and drop them.

## Main definitions

* `Table`, `View`, `Index`, `Schema`
* `Schema.createStatements`: tables, then views, then indexes
* `Schema.dropStatements`: the same objects, last one first
-/

namespace ParamSql

/-- A described table. -/
structure Table where
  name : String
  columns : List ColumnDef
deriving Repr, Inhabited

/-- The first column of that name. -/
def Table.column? (t : Table) (name : String) : Option ColumnDef :=
  t.columns.find? (·.name == name)

/-- A described view. -/
structure View where
  name : String
  table : String
  columns : List SelectColumn
  options : Option SelectOptions := none
deriving Repr, Inhabited

/-- A described index. -/
structure Index where
  name : String
  table : String
  columns : List String
  filter : Option Predicate := none
deriving Repr, Inhabited

/-- Tables, views and indexes that belong together. -/
structure Schema where
  tables : List Table := []
  views : List View := []
  indexes : List Index := []
deriving Repr, Inhabited

namespace Schema

/-- The first table of that name. -/
def table? (s : Schema) (name : String) : Option Table :=
  s.tables.find? (·.name == name)

/-- The statements that create every object: tables first, since views and indexes
need them, then views, then indexes, each in the order of their declaration. -/
def createStatements (s : Schema) (ifNotExists : Bool) : List Statement :=
  s.tables.map (fun t => .createTable t.name t.columns ifNotExists) ++
  s.views.map (fun v => .createView v.name v.table v.columns (v.options.getD {}) ifNotExists) ++
  s.indexes.map (fun i => .createIndex i.name i.table i.columns ifNotExists i.filter)

/-- The statements that drop every object, in the opposite order. -/
def dropStatements (s : Schema) (ifExists : Bool) : List Statement :=
  s.indexes.reverse.map (fun i => .dropIndex i.name ifExists) ++
  s.views.reverse.map (fun v => .dropView v.name ifExists) ++
  s.tables.reverse.map (fun t => .dropTable t.name ifExists)

end Schema

end ParamSql
