import ParamSql.Schema
import ParamSql.Sql.Condition

/-!
# Clauses as SQL text

The fragments that statements are put together from.

## Main definitions

* of a query: `Sql.selectList`, `Sql.orderClause`, `Sql.joinClause`, `Sql.limitClause`,
  `Sql.rowNumberOver`
* of a table: `Sql.columnDefinition`, `Sql.primaryKeyClause?`, `Sql.references`,
  `Sql.foreignKeyClause`, `Sql.tableElements`
-/

namespace ParamSql

/-! ## Clauses of a query -/

/-- A select list entry. -/
def SelectColumn.sql : SelectColumn → String
  | raw expr => expr
  | ref c =>
    Sql.qualified c.table c.column ++
      match c.label with
      | some a => " AS " ++ a
      | none => ""

/-- A key of an ordering. -/
def OrderTerm.sql (t : OrderTerm) : String :=
  Sql.qualified t.table t.column ++ " " ++ (if t.ascending then "ASC" else "DESC")

/-- A join with another table on equal columns. -/
def InnerJoin.sql (j : InnerJoin) : String :=
  "INNER JOIN " ++ j.otherTable ++ " ON " ++ j.otherTable ++ "." ++ j.otherColumn ++ "=" ++
    j.thisColumn

namespace Sql

/-- A select list, comma separated. -/
def selectList (columns : List SelectColumn) : String :=
  String.intercalate "," (columns.map (·.sql))

/-- An ordering, empty without keys. -/
def orderClause (terms : List OrderTerm) : String :=
  if terms.isEmpty then "" else "ORDER BY " ++ String.intercalate "," (terms.map (·.sql))

/-- The joins, separated by spaces. -/
def joinClause (joins : List InnerJoin) : String :=
  String.intercalate " " (joins.map (·.sql))

/-- A cut of the result; an offset counts only together with a limit. -/
def limitClause (limit offset : Option UInt64) : String :=
  match limit, offset with
  | none, _ => ""
  | some n, none => "LIMIT " ++ toString n.toNat
  | some n, some m => "LIMIT " ++ toString n.toNat ++ " OFFSET " ++ toString m.toNat

/-- The number of a row in an ordering, as an expression. -/
def rowNumberOver (terms : List OrderTerm) : String :=
  "ROW_NUMBER () OVER (" ++ orderClause terms ++ ")"

/-! ## Clauses of a table -/

/-- The modifiers written behind a column: `UNIQUE`, `NOT NULL`, `DEFAULT`, in this
order, each after a space.  A primary key is written for the whole table. -/
def columnModifiers (o : ColumnOptions) : String :=
  (if o.unique then " UNIQUE" else "") ++
  (if o.notNull then " NOT NULL" else "") ++
  match o.default with
  | some d => " DEFAULT " ++ d.text
  | none => ""

/-- A column with its type and modifiers. -/
def columnDefinition (c : ColumnDef) : String :=
  c.name ++ " " ++ c.type.word ++ columnModifiers c.options

/-- The primary key over all key columns, in their order; none without key columns. -/
def primaryKeyClause? (columns : List ColumnDef) : Option String :=
  let keys := (columns.filter (·.options.primaryKey)).map (·.name)
  if keys.isEmpty then none else some ("PRIMARY KEY (" ++ String.intercalate "," keys ++ ")")

/-- What a column refers to, with its actions. -/
def references (f : ForeignKey) : String :=
  "REFERENCES " ++ f.table ++ " (" ++ f.column ++ ")" ++
    (if f.options.isEmpty then "" else " " ++ String.intercalate " " f.options)

/-- A foreign key of a table. -/
def foreignKeyClause (column : String) (f : ForeignKey) : String :=
  "FOREIGN KEY (" ++ column ++ ") " ++ references f

/-- The body of a table: its columns, then its primary key, then its foreign keys. -/
def tableElements (columns : List ColumnDef) : String :=
  String.intercalate "," <|
    columns.map columnDefinition ++ (primaryKeyClause? columns).toList ++
    columns.filterMap fun c => c.foreign.map (foreignKeyClause c.name)

end Sql

end ParamSql
