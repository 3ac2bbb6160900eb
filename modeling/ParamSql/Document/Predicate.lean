import ParamSql.Document.Decoder
import ParamSql.Predicate

/-!
# Predicates in documents

A predicate is a record of its leaf with two optional members, `and` and `or`.
Each of these holds one node or a list of nodes; one node is tried first.

## Main definitions

* `Comparison.decoder`, `Comparison.encode`
* `Predicate.fields`, `Predicate.decoder`, `Predicate.oneOrMany`, `Predicate.encode`
-/

namespace ParamSql

open Document (Node Decoder Field Values Source DecodeError)

/-- Reads a comparison off its symbol. -/
def Comparison.decoder : Decoder Comparison :=
  Decoder.text.refine fun s =>
    match Comparison.ofSymbol? s with
    | some c => .ok c
    | none => .error (.invalidComparison s)

def Comparison.encode (c : Comparison) : Node := .text c.symbol

/-- A value, or `null`. -/
def Document.orNull {α : Type} (encode : α → Node) (value : Option α) : Node :=
  match value with
  | some a => encode a
  | none => .null

/-- A text, or `null`. -/
def Document.encodeOption (s : Option String) : Node := orNull .text s

/-- A member that is there only when it has a value. -/
def Document.optionMember {α : Type} (name : String) (encode : α → Node) (value : Option α) :
    List (String × Node) :=
  match value with
  | some a => [(name, encode a)]
  | none => []

/-- A text member that is there only when it has a value. -/
def Document.textMember (name : String) (s : Option String) : List (String × Node) :=
  optionMember name .text s

/-- A list member that is there only when it has items. -/
def Document.listMember (name : String) (items : List Node) : List (String × Node) :=
  if items.isEmpty then [] else [(name, .list items)]

namespace Predicate

/-- The fields of a predicate, given how its `and` and `or` are read. -/
def fields (nodes : Decoder (List Predicate)) : List Field :=
  [.required "column" Decoder.text ["column_name"],
   .optional "table" Decoder.text.option none ["table_name"],
   .optional "op" Comparison.decoder .eq ["operation"],
   .optional "lower" Decoder.bool false,
   .optional "upper" Decoder.bool false,
   .optional "and" nodes [],
   .optional "or" nodes []]

/-- The predicate that fields describe. -/
def ofValues (nodes : Decoder (List Predicate)) : Values (fields nodes) → Predicate :=
  fun (column, table, op, lower, upper, ands, ors, _) =>
    ⟨⟨column, table, op, lower, upper⟩, ands, ors⟩

/-- Reads one node, or else a list of nodes. -/
def oneOrManyOf (one : Decoder Predicate) : Decoder (List Predicate) :=
  Decoder.held fun src n =>
    match one src n with
    | .ok p => .ok [p]
    | .error _ =>
      match one.list src n with
      | .ok ps => .ok ps
      | .error _ => .error (.noVariant "OneOrMany")

/-- Reads a predicate whose node is nested at most `depth` deep. -/
def decoderAt : Nat → Decoder Predicate
  | 0 => fun _ n => .error n.mismatch
  | depth + 1 => fun src n =>
    let nodes := oneOrManyOf (decoderAt depth)
    (Decoder.record (fields nodes) src n).map (ofValues nodes)

/-- Reads a predicate. -/
def decoder : Decoder Predicate := fun src n => decoderAt n.depth src n

/-- Reads what may stand under `and` and `or`: one node or a list of nodes. -/
def oneOrMany : Decoder (List Predicate) := oneOrManyOf decoder

mutual

/-- The record of a predicate.  A table is named only if there is one, and `and` and `or`
only if they hold a node. -/
def encode : Predicate → Node
  | ⟨leaf, ands, ors⟩ =>
    .record ([("column", .text leaf.column)] ++ Document.textMember "table" leaf.table ++
      [("op", leaf.op.encode), ("lower", .bool leaf.lower), ("upper", .bool leaf.upper)] ++
      Document.listMember "and" (encodeAll ands) ++ Document.listMember "or" (encodeAll ors))

def encodeAll : List Predicate → List Node
  | [] => []
  | p :: ps => encode p :: encodeAll ps

end

end Predicate

/-- A predicate, or `null`. -/
def Document.encodeFilter (filter : Option Predicate) : Node :=
  orNull Predicate.encode filter

end ParamSql
