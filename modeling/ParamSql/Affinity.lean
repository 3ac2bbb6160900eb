import ParamSql.Truth
import ParamSql.Value

/-!
# Order and affinity of values

All values are ordered: nothing first, then numbers by size, whether they are integers or
floats, then texts by their characters, then bytes.

A column draws values towards its declared type: a number becomes a text in a text column,
and a text that is a number becomes one in a numeric column.  The same happens to a value
that a column is compared with.

## Main definitions

* `Value.order`, `Value.same`
* `Value.toNumber`, `Value.toText`, `Value.lower`, `Value.upper`
* `ColumnType.stored`: the value that a column holds
* `Comparison.truth`: the truth of a comparison
-/

namespace ParamSql

namespace Value

/-! ## Order -/

/-- The place of a storage class in the order. -/
def rank : Value → Nat
  | null => 0
  | integer _ => 1
  | real _ => 1
  | text _ => 2
  | blob _ => 3

/-- Compares floats, neither of which is `NaN`. -/
def floatOrder (x y : Float) : Ordering := if x < y then .lt else if y < x then .gt else .eq

/-- Compares an integer with a float without rounding either. -/
def integerOrder (n : Int64) (x : Float) : Ordering :=
  if x < -9223372036854775808.0 then .gt
  else if x < 9223372036854775808.0 then
    (compare n x.toInt64).then (floatOrder n.toFloat x)
  else .lt

/-- Compares bytes from the front. -/
def bytesOrder : List UInt8 → List UInt8 → Ordering
  | [], [] => .eq
  | [], _ => .lt
  | _, [] => .gt
  | a :: as, b :: bs => (compare a b).then (bytesOrder as bs)

/-- The order of all values. -/
def order : Value → Value → Ordering
  | integer n, integer m => compare n m
  | integer n, real x => integerOrder n x
  | real x, integer n => (integerOrder n x).swap
  | real x, real y => floatOrder x y
  | text s, text t => compare s t
  | blob a, blob b => bytesOrder a b
  | a, b => compare a.rank b.rank

/-- Whether two values are the same in the order. -/
def same (a b : Value) : Bool := order a b == .eq

/-! ## Conversions -/

/-- A float that is a whole number within 64 bits, as an integer. -/
def whole? (x : Float) : Option Int64 :=
  let n := x.toInt64
  if n.toFloat == x && -9223372036854775808.0 < x && x < 9223372036854775807.0 then some n else none

/-- The number that a text is throughout, blanks around it aside. -/
def ofNumeral? (s : String) : Option Value :=
  let cs := s.toList.dropWhile (· == ' ')
  let cs := (cs.reverse.dropWhile (· == ' ')).reverse
  match Decimal.integerWithin? 64 cs with
  | some n => some (integer (Int64.ofInt n))
  | none =>
    let (negative, digits) := Decimal.splitSign cs
    (Decimal.positionalFloat? negative digits).map real

/-- A text that is a number becomes one. -/
def toNumber : Value → Value
  | text s => (ofNumeral? s).getD (text s)
  | v => v

/-- A number becomes the text that writes it. -/
def toText : Value → Value
  | integer n => text (toString n.toInt)
  | real x => text (Decimal.column.text x)
  | v => v

/-- Folds the ASCII letters of a text; a number is taken as its text. -/
def fold (f : Char → Char) (v : Value) : Value :=
  match v.toText with
  | text s => text (s.map f)
  | v => v

/-- Folds to lower case. -/
def lower : Value → Value := fold Char.toLower

/-- Folds to upper case. -/
def upper : Value → Value := fold Char.toUpper

/-- A value as it is bound: a float that is no number is nothing. -/
def bound : Value → Value
  | real x => if x.isNaN then null else real x
  | v => v

end Value

/-! ## Columns -/

namespace ColumnType

/-- Whether a column of this type draws texts towards numbers. -/
def isNumeric : ColumnType → Bool
  | integer => true
  | numeric => true
  | real => true
  | _ => false

/-- An integer where the float is one. -/
def integral (v : Value) : Value :=
  match v with
  | .real x => ((Value.whole? x).map .integer).getD v
  | v => v

/-- The value that a column of this type holds when it is given a value. -/
def stored (t : ColumnType) (v : Value) : Value :=
  match t with
  | blob => v
  | text => v.toText
  | integer => integral v.toNumber
  | numeric => integral v.toNumber
  | real =>
    match v.toNumber with
    | .integer n => .real n.toFloat
    | v => v

/-- How two operands are drawn towards each other when they are compared.  An operand that
is no column has no type. -/
def drawn (a b : Option ColumnType) : Value → Value :=
  let numeric (t : ColumnType) : Value → Value := if t.isNumeric then Value.toNumber else id
  match a, b with
  | some a, some b => if a.isNumeric then Value.toNumber else numeric b
  | some t, none => if t = text then Value.toText else numeric t
  | none, some t => if t = text then Value.toText else numeric t
  | none, none => id

end ColumnType

namespace Comparison

/-- Whether a comparison holds of two values in this order. -/
def holds (c : Comparison) (o : Ordering) : Bool :=
  match c with
  | eq => o == .eq
  | ne => o != .eq
  | gt => o == .gt
  | ge => o != .lt
  | lt => o == .lt
  | le => o != .gt

/-- The truth of a comparison of two values: unknown if one is missing. -/
def truth (c : Comparison) : Value → Value → Truth
  | .null, _ => .unknown
  | _, .null => .unknown
  | a, b => .ofBool (c.holds (a.order b))

end Comparison

end ParamSql
