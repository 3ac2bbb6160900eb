import ParamSql.Column
import ParamSql.Decimal.Power
import ParamSql.Document.Predicate

/-!
# Columns in documents

A selected column is a text or a record, a default is a number or a text, and an
assignment is a text or a record.  Such a node is held back as a whole and its
forms are tried in turn.

## Main definitions

* `ColumnRef.decoder`, `SelectColumn.decoder`, `DefaultValue.decoder`, `ColumnOptions.decoder`,
  `ForeignKey.decoder`, `ColumnDef.decoder`, `Assignment.decoder` and the encoders beside them
-/

namespace ParamSql

open Document (Node Decoder Field Values Source DecodeError listMember optionMember textMember)

/-! ## Selected columns -/

namespace ColumnRef

def fields : List Field :=
  [.required "column" Decoder.text ["column_name"],
   .optional "table" Decoder.text.option none ["table_name"],
   .optional "alias" Decoder.text.option none]

def ofValues : Values fields → ColumnRef := fun (column, table, label, _) => ⟨column, table, label⟩

def decoder : Decoder ColumnRef := fun src n => (Decoder.record fields src n).map ofValues

def encode (c : ColumnRef) : Node :=
  .record ([("column", .text c.column)] ++ textMember "table" c.table ++
    textMember "alias" c.label)

end ColumnRef

namespace SelectColumn

/-- Reads an expression off a text, or else a column off a record. -/
def decoder : Decoder SelectColumn :=
  Decoder.held fun src n =>
    match Decoder.text src n with
    | .ok s => .ok (.raw s)
    | .error _ =>
      match ColumnRef.decoder src n with
      | .ok c => .ok (.ref c)
      | .error _ => .error (.noVariant "SelectColumn")

def encode : SelectColumn → Node
  | raw expr => .text expr
  | ref c => c.encode

end SelectColumn

/-! ## Declared columns -/

namespace DefaultValue

/-- Reads a number or a text.  A whole number is an integer while 64 bits with a sign
hold it, and a float beyond. -/
def decoder : Decoder DefaultValue :=
  Decoder.held fun
    | _, .int n =>
      .ok <|
        if Decimal.fitsSigned 64 n then .integer (Int64.ofInt n)
        else .real (if n < 0 then -(Float.ofNat n.natAbs) else Float.ofNat n.natAbs)
    | _, .real x => .ok (.real x)
    | _, .text s => .ok (.expr s)
    | _, _ => .error (.noVariant "DefaultValue")

/-- A float that is no number cannot be written and becomes `null`. -/
def encode : DefaultValue → Node
  | integer n => .int n.toInt
  | real x => if x.isFinite then .real x else .null
  | expr sql => .text sql

end DefaultValue

namespace ColumnOptions

def fields : List Field :=
  [.optional "default" DefaultValue.decoder.option none,
   .optional "not_null" Decoder.bool false,
   .optional "primary_key" Decoder.bool false,
   .optional "unique" Decoder.bool false]

def ofValues : Values fields → ColumnOptions :=
  fun (default, notNull, primaryKey, unique, _) => ⟨default, notNull, primaryKey, unique⟩

def decoder : Decoder ColumnOptions := fun src n => (Decoder.record fields src n).map ofValues

def encode (o : ColumnOptions) : Node :=
  .record (optionMember "default" DefaultValue.encode o.default ++
    [("not_null", .bool o.notNull), ("primary_key", .bool o.primaryKey),
     ("unique", .bool o.unique)])

end ColumnOptions

namespace ForeignKey

def fields : List Field :=
  [.required "table" Decoder.text ["table_name"],
   .required "column" Decoder.text,
   .optional "options" Decoder.text.list []]

def ofValues : Values fields → ForeignKey :=
  fun (table, column, options, _) => ⟨table, column, options⟩

def decoder : Decoder ForeignKey := fun src n => (Decoder.record fields src n).map ofValues

def encode (f : ForeignKey) : Node :=
  .record ([("table", .text f.table), ("column", .text f.column)] ++
    listMember "options" (f.options.map .text))

end ForeignKey

/-- Reads a column type off its word. -/
def ColumnType.decoder : Decoder ColumnType := Decoder.variant ColumnType.ofWord?

def ColumnType.encode (t : ColumnType) : Node := .text t.word

namespace ColumnDef

def fields : List Field :=
  [.required "name" Decoder.text,
   .required "type" ColumnType.decoder,
   .optional "options" ColumnOptions.decoder {},
   .optional "foreign" ForeignKey.decoder.option none]

def ofValues : Values fields → ColumnDef :=
  fun (name, type, options, foreign, _) => ⟨name, type, options, foreign⟩

def decoder : Decoder ColumnDef := fun src n => (Decoder.record fields src n).map ofValues

def encode (c : ColumnDef) : Node :=
  .record ([("name", .text c.name), ("type", c.type.encode), ("options", c.options.encode)] ++
    optionMember "foreign" ForeignKey.encode c.foreign)

end ColumnDef

/-! ## Assigned columns -/

/-- Reads an adjustment off its word. -/
def Adjustment.decoder : Decoder Adjustment :=
  Decoder.text.refine fun s =>
    match Adjustment.ofWord? s with
    | some a => .ok a
    | none => .error (.invalidAdjustment s)

def Adjustment.encode (a : Adjustment) : Node := .text a.word

namespace Assignment

def fields : List Field :=
  [.required "column" Decoder.text ["column_name"],
   .optional "op" Decoder.text.option none ["operator"]]

/-- The adjustment that a word names, if there is a word. -/
def adjustmentOf : Option String → Except QueryError (Option Adjustment)
  | none => .ok none
  | some s =>
    match Adjustment.ofWord? s with
    | some a => .ok (some a)
    | none => .error (.invalidAdjustment s)

def ofValues : Values fields → Except QueryError Assignment :=
  fun (column, op, _) => (adjustmentOf op).map (.adjust column)

/-- Reads a column off a text, or else a column with its adjustment off the members of a
record.  The word of the adjustment is looked at only after the form is settled. -/
def decoder : Decoder Assignment :=
  Decoder.held fun
    | _, .text s => .ok (.set s)
    | src, .record ms =>
      match Document.keyed fields src ms with
      | .ok vs => (ofValues vs).mapError .rejected
      | .error _ => .error (.noVariant "RawUpdateColumn")
    | _, _ => .error (.noVariant "RawUpdateColumn")

def encode : Assignment → Node
  | set c => .text c
  | adjust c op => .record ([("column", .text c)] ++ textMember "op" (op.map (·.word)))

end Assignment

end ParamSql
