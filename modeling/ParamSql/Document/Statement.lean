import ParamSql.Document.Alteration
import ParamSql.Document.Selection
import ParamSql.Statement

/-!
# Statements in documents

A statement is a record whose member `kind` says which statement it is; the other
members are held back until the kind is known.  A list gives the kind first and the
fields behind it.

## Main definitions

* `Statement.Kind`, `Statement.kind`
* `Statement.bodyDecoder`, `Statement.decoder`, `Statement.encode`
* `Statement.fileDecoder`: the statements of a file
-/

namespace ParamSql

open Document (Node Decoder Field Values Source DecodeError)

namespace Statement

/-- The twelve kinds of statements. -/
inductive Kind where
  | select
  | insert
  | update
  | delete
  | exists
  | createTable
  | alterTable
  | dropTable
  | createView
  | dropView
  | createIndex
  | dropIndex
deriving Repr, DecidableEq

namespace Kind

/-- The word that names the kind in a document. -/
def word : Kind → String
  | select => "select"
  | insert => "insert"
  | update => "update"
  | delete => "delete"
  | .exists => "exists"
  | createTable => "create_table"
  | alterTable => "alter_table"
  | dropTable => "drop_table"
  | createView => "create_view"
  | dropView => "drop_view"
  | createIndex => "create_index"
  | dropIndex => "drop_index"

/-- The kind that a word names. -/
def ofWord? (s : String) : Option Kind :=
  [select, insert, update, delete, .exists, createTable, alterTable, dropTable, createView,
    dropView, createIndex, dropIndex].find? (·.word == s)

@[simp] theorem ofWord?_word (k : Kind) : ofWord? k.word = some k := by
  cases k <;> decide

/-- Reads a kind off its word. -/
def decoder : Decoder Kind
  | _, .text s =>
    match ofWord? s with
    | some k => .ok k
    | none => .error (.unknownVariant s)
  | _, n => .error n.mismatch

end Kind

/-! ## The fields of each kind -/

/-- A required text. -/
def name (key : String) : Field := .required key Decoder.text

/-- A flag that is off unless it is given. -/
def flag (key : String) : Field := .optional key Decoder.bool false

/-- A filter that may be left out. -/
def filterField : Field := .optional "filter" Predicate.decoder.option none

/-- The clauses of a query, all of which may be left out. -/
def optionsField : Field := .optional "options" SelectOptions.decoder {}

/-- Reads the fields of a statement of a known kind. -/
def bodyDecoder : Kind → Decoder Statement
  | .select => fun src n =>
    (Decoder.record [name "table", .required "columns" SelectColumn.decoder.list, optionsField]
      src n).map fun (table, columns, options, _) => select table columns options
  | .insert => fun src n =>
    (Decoder.record [name "table", .required "columns" Decoder.text.list] src n).map
      fun (table, columns, _) => insert table columns
  | .update => fun src n =>
    (Decoder.record [name "table", .required "columns" Assignment.decoder.list, filterField]
      src n).map fun (table, columns, filter, _) => update table columns filter
  | .delete => fun src n =>
    (Decoder.record [name "table", filterField] src n).map
      fun (table, filter, _) => delete table filter
  | .exists => fun src n =>
    (Decoder.record [name "table", filterField] src n).map
      fun (table, filter, _) => Statement.exists table filter
  | .createTable => fun src n =>
    (Decoder.record [name "table", .required "columns" ColumnDef.decoder.list,
      flag "if_not_exists"] src n).map
      fun (table, columns, flag, _) => createTable table columns flag
  | .alterTable => fun src n =>
    (Decoder.record [name "table", .required "alter" Alteration.decoder] src n).map
      fun (table, alter, _) => alterTable table alter
  | .dropTable => fun src n =>
    (Decoder.record [name "table", flag "if_exists"] src n).map
      fun (table, flag, _) => dropTable table flag
  | .createView => fun src n =>
    (Decoder.record [name "view", name "table", .required "columns" SelectColumn.decoder.list,
      optionsField, flag "if_not_exists"] src n).map
      fun (view, table, columns, options, flag, _) => createView view table columns options flag
  | .dropView => fun src n =>
    (Decoder.record [name "view", flag "if_exists"] src n).map
      fun (view, flag, _) => dropView view flag
  | .createIndex => fun src n =>
    (Decoder.record [name "index", name "table", .required "columns" Decoder.text.list,
      flag "if_not_exists", filterField] src n).map
      fun (index, table, columns, flag, filter, _) => createIndex index table columns flag filter
  | .dropIndex => fun src n =>
    (Decoder.record [name "index", flag "if_exists"] src n).map
      fun (index, flag, _) => dropIndex index flag

/-! ## The kind and the rest -/

/-- The key under which a record names its kind. -/
def kindKey : String := "kind"

/-- Finds the kind among members and holds the others back.  Each member is gone through
when it is met. -/
def splitKind (src : Source) :
    List (String × Node) → Option Kind → Except DecodeError (Option Kind × List (String × Node))
  | [], kind => .ok (kind, [])
  | (_, .unlabelled _) :: _, _ => .error .malformed
  | (key, n) :: rest, kind =>
    if key = kindKey then
      match kind with
      | some _ => .error (.duplicateField kindKey)
      | none =>
        match Kind.decoder src n with
        | .error e => .error e
        | .ok k => splitKind src rest (some k)
    else if src = .stream && !n.readable then .error .malformed
    else (splitKind src rest kind).map fun (k, ms) => (k, (key, n) :: ms)

/-- Reads a statement. -/
def decoder : Decoder Statement
  | src, .record ms =>
    match splitKind src ms none with
    | .error e => .error e
    | .ok (none, _) => .error (.missingField kindKey)
    | .ok (some kind, body) => bodyDecoder kind .held (.record body)
  | _, .list [] => .error (.missingField kindKey)
  | src, .list (n :: body) =>
    match Kind.decoder src n with
    | .error e => .error e
    | .ok kind => Decoder.held (bodyDecoder kind) src (.list body)
  | _, .marred (.list _) => .error .malformed
  | _, .marred (.record _) => .error .malformed
  | _, n => .error n.mismatch

/-- The statements of a file. -/
def fileFields : List Field := [.optional "statements" decoder.list []]

/-- Reads a file of statements. -/
def fileDecoder : Decoder (List Statement) := fun src n =>
  (Decoder.record fileFields src n).map fun (statements, _) => statements

/-! ## Encoding -/

/-- The kind of a statement. -/
def kind : Statement → Kind
  | select .. => .select
  | insert .. => .insert
  | update .. => .update
  | delete .. => .delete
  | .exists .. => .exists
  | createTable .. => .createTable
  | alterTable .. => .alterTable
  | dropTable .. => .dropTable
  | createView .. => .createView
  | dropView .. => .dropView
  | createIndex .. => .createIndex
  | dropIndex .. => .dropIndex

/-- The members of a statement besides its kind. -/
def body : Statement → List (String × Node)
  | select table columns options =>
    [("table", .text table), ("columns", .list (columns.map (·.encode))),
      ("options", options.encode)]
  | insert table columns => [("table", .text table), ("columns", .list (columns.map .text))]
  | update table columns filter =>
    [("table", .text table), ("columns", .list (columns.map (·.encode))),
      ("filter", Document.encodeFilter filter)]
  | delete table filter => [("table", .text table), ("filter", Document.encodeFilter filter)]
  | .exists table filter => [("table", .text table), ("filter", Document.encodeFilter filter)]
  | createTable table columns flag =>
    [("table", .text table), ("columns", .list (columns.map (·.encode))),
      ("if_not_exists", .bool flag)]
  | alterTable table alter => [("table", .text table), ("alter", alter.encode)]
  | dropTable table flag => [("table", .text table), ("if_exists", .bool flag)]
  | createView view table columns options flag =>
    [("view", .text view), ("table", .text table), ("columns", .list (columns.map (·.encode))),
      ("options", options.encode), ("if_not_exists", .bool flag)]
  | dropView view flag => [("view", .text view), ("if_exists", .bool flag)]
  | createIndex index table columns flag filter =>
    [("index", .text index), ("table", .text table), ("columns", .list (columns.map .text)),
      ("if_not_exists", .bool flag), ("filter", Document.encodeFilter filter)]
  | dropIndex index flag => [("index", .text index), ("if_exists", .bool flag)]

/-- The record of a statement. -/
def encode (s : Statement) : Node := .record ((kindKey, .text s.kind.word) :: s.body)

end Statement

end ParamSql
