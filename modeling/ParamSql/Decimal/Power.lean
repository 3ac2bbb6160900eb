/-!
# Powers and widths

Powers of two and ten as natural numbers, and the integers that a word of some width holds.

## Main definitions

* `Decimal.twoTo`, `Decimal.tenTo`
* `Decimal.fitsSigned`
-/

namespace ParamSql.Decimal

/-- A power of two. -/
def twoTo (n : Nat) : Nat := Nat.pow 2 n

/-- A power of ten. -/
def tenTo (n : Nat) : Nat := Nat.pow 10 n

/-- Whether a word of so many bits, one of them for the sign, holds an integer. -/
def fitsSigned (bits : Nat) (n : Int) : Bool :=
  -(twoTo (bits - 1) : Int) ≤ n && n < (twoTo (bits - 1) : Int)

end ParamSql.Decimal
