/-!
# Reading decimals

Two ways from a decimal to a float.  `nearest` rounds once, so its result is the
float nearest to the decimal.  `stepwise` takes a 64-bit significand and scales it
by a tabled power of ten, which rounds twice and may be one unit off.

## Main definitions

* `Decimal.nearest`
* `Decimal.stepwise`
-/

namespace ParamSql.Decimal

/-- The float nearest to `mantissa * 10 ^ exponent`.  Exponents beyond every float are
settled by the count of digits, before any power is computed. -/
def nearest (negative : Bool) (mantissa : Nat) (exponent : Int) : Float :=
  let size := ((toString mantissa).length : Int) + exponent
  let magnitude : Float :=
    if mantissa = 0 then 0
    else if 310 < size then 1 / 0
    else if size < -330 then 0
    else if 0 ≤ exponent then Float.ofScientific mantissa false exponent.toNat
    else Float.ofScientific mantissa true (-exponent).toNat
  if negative then -magnitude else magnitude

/-- The float nearest to `10 ^ k`, for `k` up to 308. -/
def floatTenTo (k : Nat) : Float := Float.ofScientific 1 false k

/-- Divides by `10 ^ k`, in steps of at most `10 ^ 308`. -/
def divideByTenTo (x : Float) (k : Nat) : Float :=
  if k ≤ 308 then x / floatTenTo k
  else if x == 0 then x
  else divideByTenTo (x / floatTenTo 308) (k - 308)
termination_by k

/-- Scales a significand by a power of ten; `none` when the result is beyond every float. -/
def stepwise (negative : Bool) (significand : UInt64) (exponent : Int) : Option Float :=
  let x := significand.toFloat
  let scaled : Option Float :=
    if exponent < 0 then some (divideByTenTo x (-exponent).toNat)
    else if exponent ≤ 308 then
      let y := x * floatTenTo exponent.toNat
      if y.isInf then none else some y
    else if x == 0 then some x
    else none
  scaled.map fun y => if negative then -y else y

end ParamSql.Decimal
