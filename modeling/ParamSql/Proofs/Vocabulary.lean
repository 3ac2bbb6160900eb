import ParamSql.Proofs.Tree
import ParamSql.Statement

/-!
# The strings of a statement

A statement is written with fixed words and with strings of its own: the names of tables,
columns, views and indexes, select list entries taken as written, default expressions, and the
actions of foreign keys.  What a text can hold besides the fixed words depends on them alone.

## Main definitions

* `Statement.strings`: every string of a statement, with those of its parts
-/

namespace ParamSql

/-- The strings of a select list entry. -/
def SelectColumn.strings : SelectColumn → List String
  | raw expr => [expr]
  | ref c => c.table.toList ++ c.column :: c.label.toList

/-- The strings of a default: an expression, if it is one. -/
def DefaultValue.strings : DefaultValue → List String
  | integer _ => []
  | real _ => []
  | expr sql => [sql]

/-- The strings of a foreign key, its actions among them. -/
def ForeignKey.strings (f : ForeignKey) : List String := f.table :: f.column :: f.options

/-- The strings of a declared column. -/
def ColumnDef.strings (c : ColumnDef) : List String :=
  c.name :: (c.options.default.toList.flatMap (·.strings) ++ c.foreign.toList.flatMap (·.strings))

/-- The strings of an inner join. -/
def InnerJoin.strings (j : InnerJoin) : List String := [j.thisColumn, j.otherTable, j.otherColumn]

/-- The strings of an ordering key. -/
def OrderTerm.strings (t : OrderTerm) : List String := t.table.toList ++ [t.column]

/-- The strings of the clauses of a query. -/
def SelectOptions.strings (o : SelectOptions) : List String :=
  o.innerJoins.flatMap (·.strings) ++ o.filter.toList.flatMap (·.names) ++
    o.orderBy.flatMap (·.strings)

/-- The strings of an alteration. -/
def Alteration.strings : Alteration → List String
  | addColumn new => new.column.strings
  | dropColumn name => [name]
  | renameTable name => [name]
  | renameColumn source target => [source, target]

/-- Every string of a statement. -/
def Statement.strings : Statement → List String
  | select table columns o => table :: (columns.flatMap (·.strings) ++ o.strings)
  | insert table columns => table :: columns
  | update table columns filter =>
    table :: (columns.map (·.column) ++ filter.toList.flatMap (·.names))
  | delete table filter => table :: filter.toList.flatMap (·.names)
  | .exists table filter => table :: filter.toList.flatMap (·.names)
  | createTable table columns _ => table :: columns.flatMap (·.strings)
  | alterTable table alter => table :: alter.strings
  | dropTable table _ => [table]
  | createView view table columns o _ =>
    view :: table :: (columns.flatMap (·.strings) ++ o.strings)
  | dropView view _ => [view]
  | createIndex index table columns _ filter =>
    index :: table :: (columns ++ filter.toList.flatMap (·.names))
  | dropIndex index _ => [index]

end ParamSql
