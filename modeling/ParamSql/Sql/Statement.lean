import ParamSql.Sql.Clause

/-!
# Statements as SQL text

Every statement is written as one SQL statement that ends in a semicolon and holds
a `?` for every value to bind.  Values themselves are never written.

## Main definitions

* `Sql.select`, `Sql.insert`, `Sql.update`, `Sql.delete`, `Sql.probe`
* `Sql.createTable`, `Sql.alterTable`, `Sql.createView`, `Sql.createIndex` and the drops
* `Sql.selectWith`, `Sql.createViewWith`: queries and views whose options may be left out
* `Statement.sql`
* `Schema.createSql`, `Schema.dropSql`
-/

namespace ParamSql

namespace Sql

/-! ## Rows -/

/-- The clauses that are there, each behind a space. -/
def spaced (clauses : List String) : String :=
  String.join ((clauses.filter (· != "")).map (" " ++ ·))

theorem spaced_cons (clause : String) (clauses : List String) :
    spaced (clause :: clauses) = (if clause = "" then "" else " " ++ clause) ++ spaced clauses := by
  by_cases h : clause = "" <;> simp [spaced, h]

/-- A query.  The clauses come in a fixed order and empty ones are left out. -/
def select (table : String) (columns : List SelectColumn) (o : SelectOptions) : String :=
  "SELECT " ++ (if o.distinct then "DISTINCT " else "") ++ selectList columns ++ " FROM " ++
    table ++
    spaced [joinClause o.innerJoins, (o.filter.map (·.whereClause)).getD "",
      orderClause o.orderBy, limitClause o.limit o.offset] ++ ";"

/-- A query without any clause, the form that is written when there are no options at all. -/
def bareSelect (table : String) (columns : List SelectColumn) : String :=
  "SELECT " ++ selectList columns ++ " FROM " ++ table ++ ";"

/-- A query whose options may be left out. -/
def selectWith (table : String) (columns : List SelectColumn) : Option SelectOptions → String
  | none => bareSelect table columns
  | some o => select table columns o

/-- A new row with a value for each named column. -/
def insert (table : String) (columns : List String) : String :=
  "INSERT INTO " ++ table ++ "(" ++ String.intercalate "," columns ++ ") VALUES(" ++
    String.intercalate "," (columns.map fun _ => "?") ++ ");"

/-- The clause of a filter that may be left out: `id = ?` stands in for it. -/
def whereOrDefault (filter : Option Predicate) : String :=
  (filter.getD Predicate.byDefault).whereClause

end Sql

/-- An assignment: the bound value, or the column adjusted by it. -/
def Assignment.sql : Assignment → String
  | set c => c ++ "=?"
  | adjust c none => c ++ "=?"
  | adjust c (some a) => c ++ "=" ++ c ++ a.symbol ++ "?"

namespace Sql

/-- A change of the rows that the filter matches.  The assignments bind first. -/
def update (table : String) (columns : List Assignment) (filter : Option Predicate) : String :=
  "UPDATE " ++ table ++ " SET " ++ String.intercalate "," (columns.map (·.sql)) ++ " " ++
    whereOrDefault filter ++ ";"

/-- The removal of the rows that the filter matches. -/
def delete (table : String) (filter : Option Predicate) : String :=
  "DELETE FROM " ++ table ++ " " ++ whereOrDefault filter ++ ";"

/-- The name of the one column that a probe yields. -/
def probeColumn : String := "exists_value"

/-- A probe whether the filter matches a row: it yields one row holding 0 or 1. -/
def probe (table : String) (filter : Option Predicate) : String :=
  "SELECT EXISTS(SELECT 1 FROM " ++ table ++ " " ++ whereOrDefault filter ++ ") AS " ++
    probeColumn ++ ";"

/-! ## Objects -/

/-- The words that make a creation do nothing when the object is there. -/
def unlessExists (flag : Bool) : String := if flag then "IF NOT EXISTS " else ""

/-- A new table. -/
def createTable (table : String) (columns : List ColumnDef) (ifNotExists : Bool) : String :=
  "CREATE TABLE " ++ unlessExists ifNotExists ++ table ++ " (" ++ tableElements columns ++ ");"

/-- The operation of an alteration.  An added column carries its reference itself,
as there is no table body to put it in. -/
def alteration : Alteration → String
  | .addColumn new =>
    "ADD COLUMN " ++ columnDefinition new.column ++
      match new.column.foreign with
      | some f => " " ++ references f
      | none => ""
  | .dropColumn name => "DROP COLUMN " ++ name
  | .renameTable name => "RENAME TO " ++ name
  | .renameColumn source target => "RENAME COLUMN " ++ source ++ " TO " ++ target

/-- One operation on an existing table. -/
def alterTable (table : String) (a : Alteration) : String :=
  "ALTER TABLE " ++ table ++ " " ++ alteration a ++ ";"

/-- A new view over a query. -/
def createView (view table : String) (columns : List SelectColumn) (o : SelectOptions)
    (ifNotExists : Bool) : String :=
  "CREATE VIEW " ++ unlessExists ifNotExists ++ view ++ " AS " ++ select table columns o

/-- A new view over a query whose options may be left out. -/
def createViewWith (view table : String) (columns : List SelectColumn)
    (options : Option SelectOptions) (ifNotExists : Bool) : String :=
  "CREATE VIEW " ++ unlessExists ifNotExists ++ view ++ " AS " ++ selectWith table columns options

/-- A new index, partial when a filter is given. -/
def createIndex (index table : String) (columns : List String) (ifNotExists : Bool)
    (filter : Option Predicate) : String :=
  "CREATE INDEX " ++ unlessExists ifNotExists ++ index ++ " ON " ++ table ++ " (" ++
    String.intercalate "," columns ++ ")" ++
    (match filter with
      | some p => " " ++ p.whereClause
      | none => "") ++ ";"

/-- The removal of an object of the given kind. -/
def drop (kind name : String) (ifExists : Bool) : String :=
  "DROP " ++ kind ++ " " ++ (if ifExists then "IF EXISTS " else "") ++ name ++ ";"

def dropTable (table : String) (ifExists : Bool) : String := drop "TABLE" table ifExists

def dropView (view : String) (ifExists : Bool) : String := drop "VIEW" view ifExists

def dropIndex (index : String) (ifExists : Bool) : String := drop "INDEX" index ifExists

end Sql

/-- The statement as SQL text. -/
def Statement.sql : Statement → String
  | select table columns options => Sql.select table columns options
  | insert table columns => Sql.insert table columns
  | update table columns filter => Sql.update table columns filter
  | delete table filter => Sql.delete table filter
  | .exists table filter => Sql.probe table filter
  | createTable table columns flag => Sql.createTable table columns flag
  | alterTable table alter => Sql.alterTable table alter
  | dropTable table flag => Sql.dropTable table flag
  | createView view table columns options flag => Sql.createView view table columns options flag
  | dropView view flag => Sql.dropView view flag
  | createIndex index table columns flag filter => Sql.createIndex index table columns flag filter
  | dropIndex index flag => Sql.dropIndex index flag

namespace Schema

/-- The texts that create every object of the schema: tables, then views, then indexes. -/
def createSql (s : Schema) (ifNotExists : Bool) : List String :=
  s.tables.map (fun t => Sql.createTable t.name t.columns ifNotExists) ++
  s.views.map (fun v => Sql.createViewWith v.name v.table v.columns v.options ifNotExists) ++
  s.indexes.map (fun i => Sql.createIndex i.name i.table i.columns ifNotExists i.filter)

/-- The texts that drop every object of the schema: indexes, then views, then tables, the last
one of each first. -/
def dropSql (s : Schema) (ifExists : Bool) : List String :=
  s.indexes.reverse.map (fun i => Sql.dropIndex i.name ifExists) ++
  s.views.reverse.map (fun v => Sql.dropView v.name ifExists) ++
  s.tables.reverse.map (fun t => Sql.dropTable t.name ifExists)

end Schema

end ParamSql
