import ParamSql.Document.Toml.Scalar
import ParamSql.Document.Toml.Table

/-!
# Reading configuration documents

A configuration document is a row of lines: headers of tables, and keys with their values
for the table of the last header.  It is read as a whole before anything is decoded.

## Main definitions

* `Toml.value`: reads a value
* `Toml.document?`, `Toml.read?`: a whole document
* `Toml.decode`: reads and decodes a whole document
-/

namespace ParamSql.Document.Toml

open Reader (many)

/-! ## Values -/

/-- Reads a value with blanks, line breaks and comments around it. -/
def loose (value : Reader Node) : Reader Node := fun cs =>
  (value (skipLayout cs)).map fun (n, rest) => (n, skipLayout rest)

/-- Reads the items of a list, behind its opening bracket.  A comma may follow the last. -/
def array (value : Reader Node) : Reader Node := fun cs =>
  let (items, rest) :=
    match loose value cs with
    | none => ([], cs)
    | some (first, rest) =>
      let (more, rest) := many (fun
        | ',' :: cs => loose value cs
        | _ => none) rest
      (first :: more, match rest with
        | ',' :: rest => rest
        | rest => rest)
  match skipLayout rest with
  | ']' :: rest => some (.list items, rest)
  | _ => none

/-- Reads a key and its value, with blanks around the value. -/
def assignment (value : Reader Node) : Reader (List String × Node) := fun cs =>
  match key cs with
  | some (names, '=' :: rest) =>
    (value (skipBlanks rest)).map fun (n, rest) => ((names, n), skipBlanks rest)
  | _ => none

/-- The table of a row of assignments. -/
def tableOf? (assignments : List (List String × Node)) : Option Table :=
  assignments.foldlM (fun t (names, n) => t.assignAt names n) (.mk .defined [])

/-- Reads the assignments of a table on one line, behind its opening brace. -/
def inlineTable (value : Reader Node) : Reader Node := fun cs =>
  let (assignments, rest) :=
    match assignment value cs with
    | none => ([], cs)
    | some (first, rest) =>
      let (more, rest) := many (fun
        | ',' :: cs => assignment value cs
        | _ => none) rest
      (first :: more, rest)
  match skipBlanks rest with
  | '\x7d' :: rest => (tableOf? assignments).map fun t => (t.node, rest)
  | _ => none

/-- Reads a value in which containers are nested at most so deeply. -/
def value : Nat → Reader Node
  | 0 => fun
    | '[' :: _ => none
    | '\x7b' :: _ => none
    | cs => scalar cs
  | depth + 1 => fun
    | '[' :: cs => array (value depth) cs
    | '\x7b' :: cs => inlineTable (value depth) cs
    | cs => scalar cs

/-! ## Lines -/

/-- A line that says something. -/
inductive Line where
  /-- the header of a table -/
  | header (names : List String)
  /-- the header of the next table of a list -/
  | listHeader (names : List String)
  | assignment (names : List String) (value : Node)

/-- Reads a line up to its end. -/
def line : Reader Line := fun cs =>
  match cs with
  | '[' :: '[' :: cs =>
    match key cs with
    | some (names, ']' :: ']' :: rest) => (lineEnd? rest).map fun rest => (.listHeader names, rest)
    | _ => none
  | '[' :: cs =>
    match key cs with
    | some (names, ']' :: rest) => (lineEnd? rest).map fun rest => (.header names, rest)
    | _ => none
  | cs =>
    match assignment (value maxDepth) cs with
    | some ((names, n), rest) => (lineEnd? rest).map fun rest => (.assignment names n, rest)
    | none => none

/-- The lines of a text, those left out that say nothing; nothing if a line is not well
formed. -/
def lines? (cs : List Char) : Option (List Line) :=
  let (ls, rest) := many (fun cs => line (skipLayout cs)) cs
  if (skipLayout rest).isEmpty then some ls else none

/-! ## Documents -/

/-- A document so far: its tables, and the path of the table that lines add to. -/
structure State where
  root : Table := .mk .defined []
  current : List String := []

/-- Adds a line to a document. -/
def State.add (s : State) : Line → Option State
  | .header names =>
    (s.root.change .passed (Table.define (names.getLast?.getD "")) names.dropLast).map
      fun root => ⟨root, names⟩
  | .listHeader names =>
    (s.root.change .passed (Table.extend (names.getLast?.getD "")) names.dropLast).map
      fun root => ⟨root, names⟩
  | .assignment names n =>
    (s.root.change .passed (Table.assignAt names n) s.current).map fun root => { s with root := root }

/-- The record of a whole document. -/
def document? (cs : List Char) : Option Node := do
  let ls ← lines? cs
  let s ← ls.foldlM State.add {}
  return s.root.node

/-- Reads a text.  A byte order mark at its beginning does not count. -/
def read? (s : String) : Option Node :=
  match s.toList with
  | '\ufeff' :: cs => document? cs
  | cs => document? cs

/-- Decodes a text. -/
def decode {α : Type} (d : Decoder α) (s : String) : Except DecodeError α :=
  match read? s with
  | none => .error .malformed
  | some n => d .toml n

end ParamSql.Document.Toml
