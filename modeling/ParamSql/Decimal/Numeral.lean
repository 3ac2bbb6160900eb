import ParamSql.Decimal.Power
import ParamSql.Decimal.Reading

/-!
# Numerals

The two ways in which a number is written as a word of its own.  An integer is an
optional sign before digits.  A float is, behind an optional sign, one of the words
`inf`, `infinity` and `nan` in any letter case, or digits with an optional point and
an optional exponent.

## Main definitions

* `Decimal.integer?`, `Decimal.integerWithin?`
* `Decimal.float?`
-/

namespace ParamSql.Decimal

/-- The value of a decimal digit. -/
def digitValue (c : Char) : Nat := c.toNat - '0'.toNat

/-- The number that digits write. -/
def ofDigits (ds : List Char) : Nat := ds.foldl (fun n d => n * 10 + digitValue d) 0

/-- Splits off a sign; whether it is a minus. -/
def splitSign : List Char → Bool × List Char
  | '-' :: cs => (true, cs)
  | '+' :: cs => (false, cs)
  | cs => (false, cs)

/-- The number that a word writes as an optional sign before digits. -/
def integer? (cs : List Char) : Option Int :=
  let (negative, ds) := splitSign cs
  if ds.isEmpty || !ds.all Char.isDigit then none
  else some (if negative then -(ofDigits ds : Int) else ofDigits ds)

/-- The number that a word writes, if `bits` bits with a sign hold it. -/
def integerWithin? (bits : Nat) (cs : List Char) : Option Int :=
  (integer? cs).filter (fitsSigned bits)

/-- Whether two words agree but for the case of their ASCII letters. -/
def sameWord (w : String) (cs : List Char) : Bool := cs.map Char.toLower == w.toList

/-- The exponent at the end of a float: nothing at all, or the letter `e` and an integer. -/
def exponent? : List Char → Option Int
  | [] => some 0
  | e :: cs => if e = 'e' ∨ e = 'E' then integer? cs else none

/-- The digits behind the point, if there is one, and what follows them. -/
def fraction : List Char → List Char × List Char
  | '.' :: cs => cs.span Char.isDigit
  | cs => ([], cs)

/-- The float that digits without a sign write. -/
def positionalFloat? (negative : Bool) (cs : List Char) : Option Float :=
  let (whole, rest) := cs.span Char.isDigit
  let (part, rest) := fraction rest
  if whole.isEmpty && part.isEmpty then none
  else
    (exponent? rest).map fun e => nearest negative (ofDigits (whole ++ part)) (e - part.length)

/-- The float that a word without a sign writes. -/
def magnitude? (negative : Bool) (cs : List Char) : Option Float :=
  if sameWord "inf" cs || sameWord "infinity" cs then
    some (if negative then -(1 / 0) else 1 / 0)
  else if sameWord "nan" cs then some (0 / 0)
  else positionalFloat? negative cs

/-- The float that a word writes, rounded to the nearest. -/
def float? (cs : List Char) : Option Float :=
  let (negative, cs) := splitSign cs
  magnitude? negative cs

end ParamSql.Decimal
