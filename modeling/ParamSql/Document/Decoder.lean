import ParamSql.Document.Node
import ParamSql.Error

/-!
# Decoding documents

A decoder reads a value off a document node.  It goes through the node in document
order and reports the first thing it objects to; what a record lacks is reported
after what it holds, in the order of declaration.

A record is described by its `Field`s.  It decodes from a record node by key, where
a field may have further names and unknown keys are passed over, and from a list
node by position.

The formats differ in few places, which depend on the `Source` of the node.

## Main definitions

* `Document.Source`, `Document.DecodeError`, `Document.Decoder`
* `Decoder.text`, `Decoder.bool`, `Decoder.natBelow`, `Decoder.list`, `Decoder.option`
* `Document.Field`, `Decoder.record`
* `Decoder.variant`, `Decoder.held`, `Decoder.refine`
-/

namespace ParamSql.Document

/-- Where the node at hand comes from. -/
inductive Source where
  /-- a value that was read before -/
  | value
  /-- a text that is read while it is decoded -/
  | stream
  /-- a value that was held back until its kind was known -/
  | held
  /-- a configuration document, read as a whole -/
  | toml
deriving Repr, DecidableEq

/-- Why a document does not describe the value. -/
inductive DecodeError where
  /-- the text is not well formed, or says nothing that could be read -/
  | malformed
  /-- a node of another kind is expected -/
  | invalidType
  /-- the node is of the right kind, but not in range -/
  | invalidValue
  /-- a list has too few or too many items -/
  | invalidLength
  | missingField (name : String)
  | duplicateField (name : String)
  | unknownVariant (word : String)
  /-- none of the forms of this type fits -/
  | noVariant (type : String)
  /-- the node is read, but its value is refused -/
  | rejected (cause : QueryError)
deriving Repr, DecidableEq, Inhabited

/-- The wording of a decoding error. -/
def DecodeError.message : DecodeError → String
  | malformed => "syntax"
  | invalidType => "invalid type"
  | invalidValue => "invalid value"
  | invalidLength => "invalid length"
  | missingField name => "missing field `" ++ name ++ "`"
  | duplicateField name => "duplicate field `" ++ name ++ "`"
  | unknownVariant word => "unknown variant `" ++ word ++ "`"
  | noVariant type => "data did not match any variant of untagged enum " ++ type
  | rejected cause => cause.message

/-- Reads a value off a node. -/
abbrev Decoder (α : Type) := Source → Node → Except DecodeError α

/-- What is wrong with a node that is of no expected kind.  A container is seen to be one
before anything in it is read; a scalar is read first. -/
def Node.mismatch : Node → DecodeError
  | .broken => .malformed
  | .unlabelled _ => .malformed
  | .marred (.list _) => .invalidType
  | .marred (.record _) => .invalidType
  | .marred _ => .malformed
  | _ => .invalidType

namespace Decoder

/-! ## Scalars, lists, options -/

def text : Decoder String
  | _, .text s => .ok s
  | _, n => .error n.mismatch

def bool : Decoder Bool
  | _, .bool b => .ok b
  | _, n => .error n.mismatch

/-- Reads a natural number below a bound. -/
def natBelow (bound : Nat) : Decoder Nat
  | _, .int n => if 0 ≤ n ∧ n < bound then .ok n.toNat else .error .invalidValue
  | _, n => .error n.mismatch

def uint64 : Decoder UInt64 := fun src n => (natBelow UInt64.size src n).map UInt64.ofNat

def uint32 : Decoder UInt32 := fun src n => (natBelow UInt32.size src n).map UInt32.ofNat

/-- Reads every item of a list. -/
def items {α : Type} (d : Decoder α) (src : Source) : List Node → Except DecodeError (List α)
  | [] => .ok []
  | n :: ns =>
    match d src n with
    | .error e => .error e
    | .ok a => (items d src ns).map (a :: ·)

def list {α : Type} (d : Decoder α) : Decoder (List α)
  | src, .list ns => items d src ns
  | _, .marred (.list _) => .error .malformed
  | _, n => .error n.mismatch

/-- Reads nothing off `null`. -/
def option {α : Type} (d : Decoder α) : Decoder (Option α)
  | _, .null => .ok none
  | src, n => (d src n).map some

/-- Reads a value and converts it further; the conversion may refuse it. -/
def refine {α β : Type} (d : Decoder α) (convert : α → Except QueryError β) : Decoder β :=
  fun src n =>
    match d src n with
    | .error e => .error e
    | .ok a => (convert a).mapError .rejected

/-- Holds a node back as a whole before it is read.  A text that is read at the same time
must be free of faults up to the end of the node. -/
def held {α : Type} (d : Decoder α) : Decoder α := fun src n =>
  if src = .stream && !n.readable then .error .malformed else d .held n

/-- The key under which a date or time appears in a configuration document. -/
def dateKey : String := "$__toml_private_datetime"

/-- Reads a word that names a value.  A record with that word as its only key and nothing
under it names the value, too. -/
def variant {α : Type} (ofWord? : String → Option α) : Decoder α
  | _, .text s => named s
  | .value, .record [(k, v)] => do
    let a ← named k
    match v with
    | .null => .ok a
    | v => .error v.mismatch
  | .value, .record _ => .error .invalidValue
  | .held, .record [(k, v)] => do
    let a ← named k
    match v with
    | .null => .ok a
    | .record [] => .ok a
    | v => .error v.mismatch
  | .held, .record _ => .error .invalidValue
  | .stream, .record ((k, v) :: more) =>
    match v with
    | .unlabelled _ => .error .malformed
    | v => do
      let a ← named k
      match v with
      | .null => if more.isEmpty then .ok a else .error .malformed
      | v => .error v.mismatch
  | .toml, .record [(k, v)] =>
    if k = dateKey then .error .malformed
    else do
      let a ← named k
      match v with
      | .record [] => .ok a
      | .list [] => .ok a
      | _ => .error .malformed
  | .value, n => .error n.mismatch
  | .held, n => .error n.mismatch
  | .stream, _ => .error .malformed
  | .toml, _ => .error .malformed
where
  named (s : String) : Except DecodeError α :=
    match ofWord? s with
    | some a => .ok a
    | none => .error (.unknownVariant s)

end Decoder

/-! ## Records -/

/-- A field of a record. -/
structure Field where
  Value : Type
  name : String
  /-- the other keys under which the field is found -/
  aliases : List String
  decode : Decoder Value
  /-- what a missing field stands for; `none` if it must be there -/
  default : Option Value

namespace Field

/-- A field that must be there. -/
def required {α : Type} (name : String) (d : Decoder α) (aliases : List String := []) : Field :=
  ⟨α, name, aliases, d, none⟩

/-- A field that may be missing. -/
def optional {α : Type} (name : String) (d : Decoder α) (default : α)
    (aliases : List String := []) : Field :=
  ⟨α, name, aliases, d, some default⟩

/-- Whether the field is found under a key. -/
def accepts (f : Field) (key : String) : Bool := f.name == key || f.aliases.contains key

end Field

/-- A value for each field. -/
def Values : List Field → Type
  | [] => Unit
  | f :: fs => f.Value × Values fs

/-- A value for each field that was found so far. -/
def Draft : List Field → Type
  | [] => Unit
  | f :: fs => Option f.Value × Draft fs

namespace Draft

/-- No field was found yet. -/
def empty : (fs : List Field) → Draft fs
  | [] => ()
  | _ :: fs => (none, empty fs)

/-- Reads a member into the field that accepts its key, the first of them; `none` if no
field does. -/
def member? : (fs : List Field) → Source → String → Node → Draft fs →
    Option (Except DecodeError (Draft fs))
  | [], _, _, _, _ => none
  | f :: fs, src, key, n, (found, rest) =>
    if f.accepts key then
      match found with
      | some _ => some (.error (.duplicateField f.name))
      | none =>
        match f.decode src n with
        | .error e => some (.error e)
        | .ok v => some (.ok (some v, rest))
    else (member? fs src key n rest).map (·.map fun rest => (found, rest))

/-- Reads members one after the other.  What stands under an unknown key is passed over. -/
def members (fs : List Field) (src : Source) :
    List (String × Node) → Draft fs → Except DecodeError (Draft fs)
  | [], d => .ok d
  | (_, .unlabelled _) :: _, _ => .error .malformed
  | (key, n) :: rest, d =>
    match member? fs src key n d with
    | some (.error e) => .error e
    | some (.ok d) => members fs src rest d
    | none => if n.wellFormed then members fs src rest d else .error .malformed

/-- Fills in what is missing. -/
def finish : (fs : List Field) → Draft fs → Except DecodeError (Values fs)
  | [], () => .ok ()
  | f :: fs, (found, rest) =>
    match found, f.default with
    | some v, _ => (finish fs rest).map fun vs => (v, vs)
    | none, some v => (finish fs rest).map fun vs => (v, vs)
    | none, none => .error (.missingField f.name)

end Draft

/-- Reads fields by position. -/
def positional : (fs : List Field) → Source → List Node → Except DecodeError (Values fs)
  | [], _, [] => .ok ()
  | [], src, _ :: _ =>
    match src with
    | .value => .error .invalidLength
    | .held => .error .invalidLength
    | .stream => .error .malformed
    | .toml => .ok ()
  | f :: fs, src, [] =>
    match f.default with
    | some v => (positional fs src []).map fun vs => (v, vs)
    | none => .error .invalidLength
  | f :: fs, src, n :: ns =>
    match f.decode src n with
    | .error e => .error e
    | .ok v => (positional fs src ns).map fun vs => (v, vs)

/-- Reads fields by key. -/
def keyed (fs : List Field) (src : Source) (ms : List (String × Node)) :
    Except DecodeError (Values fs) :=
  match Draft.members fs src ms (Draft.empty fs) with
  | .error e => .error e
  | .ok d => Draft.finish fs d

/-- Reads the fields of a record, by key or by position. -/
def Decoder.record (fs : List Field) : Decoder (Values fs)
  | src, .record ms => keyed fs src ms
  | src, .list ns => positional fs src ns
  | _, .marred (.list _) => .error .malformed
  | _, .marred (.record _) => .error .malformed
  | _, n => .error n.mismatch

end ParamSql.Document
