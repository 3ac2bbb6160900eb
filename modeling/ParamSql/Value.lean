import ParamSql.Decimal.Layout
import ParamSql.Decimal.Numeral

/-!
# Values

What a placeholder is bound to and what a column holds: nothing, an integer of 64
bits, a float, a text, or bytes.

## Main definitions

* `Value`
* `Value.ofArgument`: the value that a word on the command line stands for
* `Value.shown`: how a bound value is shown
-/

namespace ParamSql

/-- A value of one of the five storage classes. -/
inductive Value where
  | null
  | integer (n : Int64)
  | real (x : Float)
  | text (s : String)
  | blob (bytes : List UInt8)
deriving Repr, Inhabited

namespace Value

/-- A truth value, as the integer that stands for it. -/
def ofBool (b : Bool) : Value := integer (if b then 1 else 0)

/-- The value that a word without a number stands for: nothing, a truth value, or itself. -/
def ofWord (s : String) : Value :=
  if s = "null" ∨ s = "NULL" then null
  else if s = "true" then ofBool true
  else if s = "false" then ofBool false
  else text s

/-- The value that an argument stands for: an integer if it is written as one and 64 bits
hold it, or else a float, or else a word. -/
def ofArgument (s : String) : Value :=
  match Decimal.integerWithin? 64 s.toList with
  | some n => integer (Int64.ofInt n)
  | none =>
    match Decimal.float? s.toList with
    | some x => real x
    | none => ofWord s

/-- How a bound value is shown: a text between quotes, bytes by their count. -/
def shown : Value → String
  | null => "NULL"
  | integer n => toString n.toInt
  | real x => Decimal.positional.text x
  | text s => "'" ++ s ++ "'"
  | blob bytes => "<" ++ toString bytes.length ++ " bytes>"

end Value

end ParamSql
