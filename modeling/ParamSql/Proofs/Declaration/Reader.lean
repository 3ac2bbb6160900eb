import ParamSql.Proofs.Boolean.Name
import ParamSql.Sql.Statement

/-!
# Reading the declaration of a table

    table       ::=  'CREATE TABLE ' 'IF NOT EXISTS '? word ' (' body ');'
    body        ::=  definitions (',PRIMARY KEY (' words ')')? reference*
    definitions ::=  (definition (',' definition)*)?
    definition  ::=  word type ' UNIQUE'? ' NOT NULL'? (' DEFAULT ' plain)?
    words       ::=  word (',' word)*
    reference   ::=  ',FOREIGN KEY (' word ') REFERENCES ' word ' (' word ')' plain

A word may have a space in front of it.  What is plain goes up to the next comma or parenthesis.
A definition has no place for a key: keys stand in one clause behind all definitions, and
references behind that.

What such a text tells of one column stands in three places.  They are put together by the name
of the column.

## Main definitions

* `Sql.ColumnDefinition`, `Sql.Reference`, `Sql.TableText`: what is read
* `Sql.readTable`: a whole text as the declaration of a table
* `Sql.TableText.columns`: what the text tells of each column
-/

namespace ParamSql

namespace Reader

variable {α : Type}

/-- Reads a symbol if it is there, and tells whether it was. -/
def flag (w cs : List Char) : Bool × List Char :=
  match symbol w cs with
  | some (_, rest) => (true, rest)
  | none => (false, cs)

/-- Reads something if it is there. -/
def optional (reader : Reader α) (cs : List Char) : Option α × List Char :=
  match reader cs with
  | some (a, rest) => (some a, rest)
  | none => (none, cs)

/-- Reads something behind a symbol. -/
def behindSymbol (w : List Char) (reader : Reader α) : Reader α := fun cs =>
  match symbol w cs with
  | some (_, rest) => reader rest
  | none => none

/-- Reads any number of things with a symbol between them. -/
def separated (w : List Char) (reader : Reader α) (cs : List Char) : List α × List Char :=
  match reader cs with
  | some (a, rest) =>
    let (as, last) := many (behindSymbol w reader) rest
    (a :: as, last)
  | none => ([], cs)

end Reader

namespace Sql

open Reader (symbol flag optional behindSymbol separated many)

/-! ## What is read -/

/-- What the definition of a column tells. -/
structure ColumnDefinition where
  name : String
  type : ColumnType
  unique : Bool
  notNull : Bool
  default : Option String
deriving Repr, DecidableEq

/-- What a foreign key tells: the column that refers, what it refers to, and its actions. -/
structure Reference where
  column : String
  table : String
  key : String
  actions : String
deriving Repr, DecidableEq

/-- What the declaration of a table tells, in the order of the text. -/
structure TableText where
  name : String
  ifNotExists : Bool
  definitions : List ColumnDefinition
  primaryKey : Option (List String)
  references : List Reference
deriving Repr, DecidableEq

/-- What is told of one column, in all places of a text. -/
structure ColumnText where
  definition : ColumnDefinition
  primaryKey : Bool
  reference : Option Reference
deriving Repr, DecidableEq

/-- What a text tells of each column, put together by its name. -/
def TableText.columns (t : TableText) : List ColumnText :=
  t.definitions.map fun d =>
    ⟨d, (t.primaryKey.getD []).contains d.name, t.references.find? (·.column == d.name)⟩

/-! ## Readers -/

/-- A character that neither separates nor encloses. -/
def isPlain (c : Char) : Bool := c != ',' && c != '(' && c != ')'

/-- Reads up to the next comma or parenthesis. -/
def plain : Reader String := fun cs =>
  some (String.ofList (cs.takeWhile isPlain), cs.dropWhile isPlain)

/-- Reads a word, be it a keyword or not. -/
def anyWord : Reader String := fun cs =>
  match word cs with
  | some (w, rest) => some (String.ofList w, rest)
  | none => none

/-- Reads the definition of a column. -/
def columnDefinition? : Reader ColumnDefinition := fun cs => do
  let (name, rest) ← anyWord cs
  let (typeWord, rest) ← anyWord rest
  let type ← ColumnType.ofWord? typeWord
  let (unique, rest) := flag " UNIQUE".toList rest
  let (notNull, rest) := flag " NOT NULL".toList rest
  let (default, rest) := optional (behindSymbol " DEFAULT ".toList plain) rest
  return (⟨name, type, unique, notNull, default⟩, rest)

/-- Reads the names of the key columns. -/
def primaryKey? : Reader (List String) := fun cs => do
  let (_, rest) ← symbol ",PRIMARY KEY (".toList cs
  let (names, rest) := separated ",".toList anyWord rest
  let (_, rest) ← symbol ")".toList rest
  return (names, rest)

/-- Reads a foreign key.  Its actions have a space in front of them, if there are any. -/
def reference? : Reader Reference := fun cs => do
  let (_, rest) ← symbol ",FOREIGN KEY (".toList cs
  let (column, rest) ← anyWord rest
  let (_, rest) ← symbol ") REFERENCES ".toList rest
  let (table, rest) ← anyWord rest
  let (_, rest) ← symbol " (".toList rest
  let (key, rest) ← anyWord rest
  let (_, rest) ← symbol ")".toList rest
  let (actions, rest) ← plain rest
  return (⟨column, table, key, String.ofList (actions.toList.drop 1)⟩, rest)

/-- Reads a whole text as the declaration of a table. -/
def readTable (text : String) : Option TableText := do
  let (_, rest) ← symbol "CREATE TABLE ".toList text.toList
  let (ifNotExists, rest) := flag "IF NOT EXISTS ".toList rest
  let (name, rest) ← anyWord rest
  let (_, rest) ← symbol " (".toList rest
  let (definitions, rest) := separated ",".toList columnDefinition? rest
  let (primaryKey, rest) := optional primaryKey? rest
  let (references, rest) := many reference? rest
  let (_, rest) ← symbol ");".toList rest
  if rest = [] then
    return ⟨name, ifNotExists, definitions, primaryKey, references⟩
  else none

end Sql

end ParamSql
