import ParamSql.Document.Node

/-!
# Tables under construction

A configuration document builds nested tables out of lines, in any order.  A table is
built once: by its header, by keys with points, or just because a header names something
below it.  How a table came about decides what may still be added to it.

## Main definitions

* `Toml.Origin`, `Toml.Table`, `Toml.Item`
* `Toml.Table.change`: changes the table at the end of a path
* `Toml.Table.define`, `Toml.Table.extend`, `Toml.Table.assign`
* `Toml.Table.node`: the finished table
-/

namespace ParamSql.Document.Toml

/-- How a table came about. -/
inductive Origin where
  /-- it has a header, or stands between braces -/
  | defined
  /-- a header names something below it -/
  | passed
  /-- a key with points names something in it -/
  | dotted
deriving Repr, DecidableEq, Inhabited

mutual

/-- A table: what its keys stand for, in the order in which they came. -/
inductive Table where
  | mk (origin : Origin) (entries : List (String × Item))

/-- What a key stands for. -/
inductive Item where
  | value (node : Node)
  | table (t : Table)
  /-- a list of tables, each with a header of its own -/
  | tables (ts : List Table)

end

instance : Inhabited Table := ⟨.mk .defined []⟩

namespace Table

def origin : Table → Origin
  | mk origin _ => origin

def entries : Table → List (String × Item)
  | mk _ entries => entries

/-- What a key stands for. -/
def get? (t : Table) (key : String) : Option Item := (t.entries.find? (·.1 == key)).map (·.2)

/-- Lets a known key stand for something else. -/
def replace (t : Table) (key : String) (item : Item) : Table :=
  mk t.origin (t.entries.map fun (k, i) => if k = key then (k, item) else (k, i))

/-- Adds a new key at the end. -/
def add (t : Table) (key : String) (item : Item) : Table := mk t.origin (t.entries ++ [(key, item)])

/-- Takes a key out. -/
def remove (t : Table) (key : String) : Table := mk t.origin (t.entries.filter (·.1 != key))

/-- Changes the table at the end of a path.  What is missing on the way is made, with the
given origin; of a list of tables the last is meant.  A key with points does not lead
into a table that has its own header. -/
def change (made : Origin) (f : Table → Option Table) : List String → Table → Option Table
  | [], t => f t
  | key :: path, t =>
    match t.get? key with
    | none => (change made f path (mk made [])).map fun s => t.add key (.table s)
    | some (.value _) => none
    | some (.table s) =>
      if made = .dotted ∧ s.origin = .defined then none
      else (change made f path s).map fun s => t.replace key (.table s)
    | some (.tables ts) =>
      match ts.getLast? with
      | none => none
      | some s => (change made f path s).map fun s => t.replace key (.tables (ts.dropLast ++ [s]))

/-- Gives a table its header.  It must be new, or known only from headers below it; it then
moves to the end. -/
def define (key : String) (t : Table) : Option Table :=
  match t.get? key with
  | none => some (t.add key (.table (mk .defined [])))
  | some (.table (mk .passed entries)) =>
    some ((t.remove key).add key (.table (mk .defined entries)))
  | some _ => none

/-- Adds an empty table to a list of tables, or begins the list. -/
def extend (key : String) (t : Table) : Option Table :=
  match t.get? key with
  | none => some (t.add key (.tables [mk .defined []]))
  | some (.tables ts) => some (t.replace key (.tables (ts ++ [mk .defined []])))
  | some _ => none

/-- Gives a new key its value, in a table that the key is meant for: behind points one that
is built by such keys, and otherwise one that is not. -/
def assign (behindPoints : Bool) (key : String) (value : Node) (t : Table) : Option Table :=
  if (t.origin == .dotted) != behindPoints then none
  else
    match t.get? key with
    | none => some (t.add key (.value value))
    | some _ => none

/-- Gives the value to the key at the end of a row of names. -/
def assignAt (names : List String) (value : Node) (t : Table) : Option Table :=
  let path := names.dropLast
  t.change .dotted (assign (!path.isEmpty) (names.getLast?.getD "") value) path

end Table

/-! ## Finished tables -/

mutual

/-- The record of a table. -/
def Table.node : Table → Node
  | .mk _ entries => .record (entryNodes entries)

def Item.node : Item → Node
  | .value n => n
  | .table t => t.node
  | .tables ts => .list (tableNodes ts)

def entryNodes : List (String × Item) → List (String × Node)
  | [] => []
  | (key, item) :: rest => (key, item.node) :: entryNodes rest

def tableNodes : List Table → List Node
  | [] => []
  | t :: ts => t.node :: tableNodes ts

end

end ParamSql.Document.Toml
