import ParamSql.Decimal.Power

/-!
# The fewest digits that read back

Every finite nonzero binary magnitude `m * 2 ^ q` is the value nearest to some
decimals, those of an interval around it.  This module finds, among the decimals
of that interval, one with the fewest digits, and among those the nearest.  All
arithmetic is exact, on natural numbers.

## Main definitions

* `Decimal.Magnitude`: `mantissa * 2 ^ exponent`, and the magnitude of a float
* `Decimal.Digits`: `mantissa * 10 ^ exponent`
* `Decimal.shortest`: the digits of a magnitude
* `Decimal.rounded`: a magnitude rounded to a number of digits
-/

namespace ParamSql.Decimal

/-- A binary magnitude `mantissa * 2 ^ exponent`. -/
structure Magnitude where
  mantissa : Nat
  exponent : Int
  /-- whether the next smaller magnitude is only half as far away as the next larger one -/
  narrow : Bool := false
deriving Repr, DecidableEq

/-- A decimal magnitude `mantissa * 10 ^ exponent`. -/
structure Digits where
  mantissa : Nat
  exponent : Int
deriving Repr, DecidableEq

/-- The magnitude of a finite float: 52 stored bits below an implicit one, or below
a zero where the exponent is the smallest. -/
def Magnitude.ofFloat (x : Float) : Magnitude :=
  let bits : Nat := x.toBits.toNat
  let stored : Nat := bits % twoTo 52
  let biased : Nat := bits / twoTo 52 % twoTo 11
  if biased = 0 then ⟨stored, -1074, false⟩
  else ⟨stored + twoTo 52, (biased : Int) - 1075, stored == 0 && biased != 1⟩

namespace Magnitude

/-- The magnitude as a fraction `(p, r)`, each quarter of the distance to a
neighbour being one `2 ^ exponent / 4`: the value is `4 * mantissa * p / r`. -/
def scale (v : Magnitude) : Nat × Nat :=
  if 0 ≤ v.exponent then (twoTo v.exponent.toNat, 4) else (1, 4 * twoTo (-v.exponent).toNat)

/-- The lower end of the interval that reads back, in quarters. -/
def lowerQuarters (v : Magnitude) : Nat := 4 * v.mantissa - (if v.narrow then 1 else 2)

/-- The upper end of the interval that reads back, in quarters. -/
def upperQuarters (v : Magnitude) : Nat := 4 * v.mantissa + 2

/-- The power of ten at or below the value: the `e` with `10 ^ e ≤ v < 10 ^ (e + 1)`,
for magnitudes above `10 ^ -400`. -/
def decimalExponent (v : Magnitude) : Int :=
  let (p, r) := v.scale
  ((toString (4 * v.mantissa * p * tenTo 400 / r)).length : Int) - 401

end Magnitude

/-- The better of the two neighbours of `v` on the grid `10 ^ k`, if one of them reads
back; the ends of the interval read back when the binary mantissa is even, and an
exact tie goes up. -/
def onGrid (v : Magnitude) (k : Int) : Option Digits :=
  let (p, r) := v.scale
  -- everything is brought to the common unit `10 ^ min k 0 / r`
  let unit := if 0 ≤ k then r * tenTo k.toNat else r
  let lift := fun quarters : Nat => if 0 ≤ k then quarters * p else quarters * p * tenTo (-k).toNat
  let value := lift (4 * v.mantissa)
  let reads := fun d : Nat =>
    let x := d * unit
    if v.mantissa % 2 = 0 then lift v.lowerQuarters ≤ x && x ≤ lift v.upperQuarters
    else lift v.lowerQuarters < x && x < lift v.upperQuarters
  let below := value / unit
  let above := below + 1
  match reads below && below != 0, reads above with
  | true, true =>
    some ⟨if value - below * unit < above * unit - value then below else above, k⟩
  | true, false => some ⟨below, k⟩
  | false, true => some ⟨above, k⟩
  | false, false => none

/-- Drops zeros at the end of the mantissa, at most `fuel` of them. -/
def Digits.trim : Nat → Digits → Digits
  | 0, d => d
  | fuel + 1, ⟨m, e⟩ => if m != 0 && m % 10 == 0 then trim fuel ⟨m / 10, e + 1⟩ else ⟨m, e⟩

/-- The shortest decimal that reads back as the nonzero magnitude `v`, nearest to it
among the shortest.  Seventeen digits always suffice for a double. -/
def shortest (v : Magnitude) : Digits :=
  let e := v.decimalExponent
  let found := (List.range 17).findSome? fun (n : Nat) => onGrid v (e - Int.ofNat n)
  (found.getD ⟨0, 0⟩).trim 17

/-- The nearest decimal with at most `count` digits to the nonzero magnitude `v`; a half goes
up. -/
def rounded (count : Nat) (v : Magnitude) : Digits :=
  let k := v.decimalExponent - Int.ofNat (count - 1)
  let (p, r) := v.scale
  let unit := if 0 ≤ k then r * tenTo k.toNat else r
  let value := 4 * v.mantissa * p * (if 0 ≤ k then 1 else tenTo (-k).toNat)
  Digits.trim count ⟨(2 * value + unit) / (2 * unit), k⟩

end ParamSql.Decimal
