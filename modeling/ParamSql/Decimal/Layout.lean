import ParamSql.Decimal.Shortest

/-!
# How a float is written

A finite float is written with the fewest digits that read back, or rounded to a number of
digits.  A `Layout` holds what is left to decide: when a value is written positionally,
whether a whole number keeps a fraction, and how an exponent looks.

## Main definitions

* `Decimal.Layout` and `Decimal.Layout.text`
* `Decimal.positional`: never an exponent, no fraction on whole numbers
* `Decimal.json`: as a document writes it
* `Decimal.column`: as a text column holds it
-/

namespace ParamSql.Decimal

/-- The decisions of a float format. -/
structure Layout where
  /-- how many digits are written at most; as many as needed when absent -/
  significant : Option Nat := none
  /-- the counts of digits before the point that are written positionally, both ends
  included; every count when absent -/
  window : Option (Int × Int) := none
  /-- what follows a whole number -/
  whole : String := ""
  /-- what follows a single digit before an exponent -/
  point : String := ""
  /-- the least count of digits of an exponent -/
  exponentWidth : Nat := 1
  /-- what stands before an exponent that is not negative -/
  plus : String := ""

/-- Floats in SQL text and in messages: positional, `2` for two. -/
def positional : Layout := {}

/-- Floats in documents and result tables: positional from `1e-5` to `1e16`, `2.0` for two. -/
def json : Layout := { window := some (-4, 16), whole := ".0" }

/-- Floats in a text column: fifteen digits, positional from `0.0001` to `1e15`, `2.0` for
two, `1.0e+15` for ten to the fifteenth. -/
def column : Layout where
  significant := some 15
  window := some (-3, 15)
  whole := ".0"
  point := ".0"
  exponentWidth := 2
  plus := "+"

namespace Layout

/-- So many zeros, none for a negative count. -/
def zeros (n : Int) : String := String.ofList (List.replicate n.toNat '0')

/-- Writes digits with the point where it belongs. -/
def place (l : Layout) (digits : List Char) (point : Int) : String :=
  if point ≤ 0 then "0." ++ zeros (-point) ++ String.ofList digits
  else if (digits.length : Int) ≤ point then
    String.ofList digits ++ zeros (point - digits.length) ++ l.whole
  else
    String.ofList (digits.take point.toNat) ++ "." ++ String.ofList (digits.drop point.toNat)

/-- An exponent behind its mark. -/
def exponentText (l : Layout) (e : Int) : String :=
  let digits := toString e.natAbs
  "e" ++ (if e < 0 then "-" else l.plus) ++ zeros (l.exponentWidth - digits.length) ++ digits

/-- Writes digits with one before the point and an exponent. -/
def withExponent (l : Layout) (digits : List Char) (point : Int) : String :=
  let fraction := digits.drop 1
  String.ofList (digits.take 1) ++
    (if fraction.isEmpty then l.point else "." ++ String.ofList fraction) ++
    l.exponentText (point - 1)

/-- A positive decimal in this layout. -/
def magnitudeText (l : Layout) (d : Digits) : String :=
  let digits := (toString d.mantissa).toList
  let point := (digits.length : Int) + d.exponent
  match l.window with
  | none => l.place digits point
  | some (least, most) =>
    if least ≤ point && point ≤ most then l.place digits point else l.withExponent digits point

/-- The digits that are written of a nonzero magnitude. -/
def digits (l : Layout) (v : Magnitude) : Digits :=
  match l.significant with
  | none => shortest v
  | some count => rounded count v

/-- A float in this layout: `NaN`, `inf`, or its digits behind its sign. -/
def text (l : Layout) (x : Float) : String :=
  if x.isNaN then "NaN"
  else
    let sign := if x.toBits.toNat / twoTo 63 = 1 then "-" else ""
    if x.isInf then sign ++ "inf"
    else
      let v := Magnitude.ofFloat x
      if v.mantissa = 0 then sign ++ "0" ++ l.whole
      else sign ++ l.magnitudeText (l.digits v)

end Layout

end ParamSql.Decimal
