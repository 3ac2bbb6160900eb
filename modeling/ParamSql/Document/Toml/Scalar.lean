import ParamSql.Decimal.Numeral
import ParamSql.Document.Decoder
import ParamSql.Document.Toml.Text

/-!
# Numbers, dates and truth values of a configuration document

An underscore may stand between two digits.  A whole number has 64 bits with a sign, and
is decimal or, without a sign, of base 16, 8 or 2.  A float has a fraction or an exponent,
or is one of the words `inf` and `nan`.  A date and a time of day may stand alone or
together, and then with the distance from universal time.

## Main definitions

* `Toml.digitRun`, `Toml.number`
* `Toml.dateTime`
* `Toml.scalar`
-/

namespace ParamSql.Document.Toml

open Decimal (splitSign ofDigits)
open Reader (symbol)

/-! ## Numbers -/

/-- The digits at the front of a text, with single underscores between them dropped. -/
def moreDigits (isDigit : Char → Bool) : List Char → List Char × List Char
  | '_' :: c :: cs =>
    if isDigit c then
      let (ds, rest) := moreDigits isDigit cs
      (c :: ds, rest)
    else ([], '_' :: c :: cs)
  | c :: cs =>
    if isDigit c then
      let (ds, rest) := moreDigits isDigit cs
      (c :: ds, rest)
    else ([], c :: cs)
  | [] => ([], [])

/-- Reads digits, one at least; the first character is one. -/
def digitRun (isDigit : Char → Bool) : Reader (List Char)
  | c :: cs =>
    if isDigit c then
      let (ds, rest) := moreDigits isDigit cs
      some (c :: ds, rest)
    else none
  | [] => none

/-- Reads the digits of a decimal number.  A leading zero stands alone. -/
def wholeDigits : Reader (List Char)
  | '0' :: cs => some (['0'], cs)
  | cs => digitRun Char.isDigit cs

/-- A whole number, if 64 bits with a sign hold it. -/
def integerNode? (n : Int) : Option Node :=
  if Decimal.fitsSigned 64 n then some (.int n) else none

/-- Reads a number without a sign in a base other than ten. -/
def based (base : Nat) (isDigit : Char → Bool) : Reader Node := fun cs =>
  match digitRun isDigit cs with
  | none => none
  | some (ds, rest) =>
    let n := ds.foldl (fun n d => n * base + (hexDigit? d).getD 0) 0
    (integerNode? n).map fun node => (node, rest)

/-- Reads an exponent behind its letter. -/
def exponent : Reader Int := fun cs =>
  let (down, cs) := splitSign cs
  (digitRun Char.isDigit cs).map fun (ds, rest) =>
    (if down then -(ofDigits ds : Int) else ofDigits ds, rest)

/-- Whether a letter begins an exponent. -/
def isExponentMark (c : Char) : Bool := c == 'e' || c == 'E'

/-- Reads an exponent, if there is one. -/
def exponentOrZero : Reader Int
  | c :: cs => if isExponentMark c then exponent cs else some (0, c :: cs)
  | [] => some (0, [])

/-- A float.  One that is too large is refused above all numbers, and infinite below. -/
def floatNode? (negative : Bool) (digits : List Char) (exponent : Int) : Option Node :=
  let x := Decimal.nearest negative (ofDigits digits) exponent
  if x.isInf && !negative then none else some (.real x)

/-- Reads a decimal number behind its sign. -/
def decimal (negative : Bool) : Reader Node := fun cs =>
  match wholeDigits cs with
  | none => none
  | some (whole, '.' :: rest) =>
    match digitRun Char.isDigit rest with
    | none => none
    | some (part, rest) =>
      match exponentOrZero rest with
      | none => none
      | some (e, rest) =>
        (floatNode? negative (whole ++ part) (e - part.length)).map fun node => (node, rest)
  | some (whole, rest) =>
    if (rest.head?.map isExponentMark).getD false then
      match exponentOrZero rest with
      | none => none
      | some (e, rest) => (floatNode? negative whole e).map fun node => (node, rest)
    else
      let n : Int := ofDigits whole
      (integerNode? (if negative then -n else n)).map fun node => (node, rest)

/-- Reads a word that is a float behind its sign. -/
def specialFloat (negative : Bool) : Reader Node := fun cs =>
  let signed (x : Float) : Node := .real (if negative then -x else x)
  match symbol "inf".toList cs with
  | some (_, rest) => some (signed (1 / 0), rest)
  | none => (symbol "nan".toList cs).map fun (_, rest) => (signed (0 / 0), rest)

/-- Reads a number. -/
def number : Reader Node := fun cs =>
  match cs with
  | '0' :: 'x' :: cs => based 16 (fun c => (hexDigit? c).isSome) cs
  | '0' :: 'o' :: cs => based 8 (fun c => '0' ≤ c && c ≤ '7') cs
  | '0' :: 'b' :: cs => based 2 (fun c => c == '0' || c == '1') cs
  | cs =>
    let (negative, cs) := splitSign cs
    if (cs.head?.map Char.isDigit).getD false then decimal negative cs
    else specialFloat negative cs

/-! ## Dates and times -/

/-- Reads a number of exactly so many digits that lies between two bounds. -/
def fixed (digits least most : Nat) : Reader Nat := fun cs =>
  let ds := cs.take digits
  let n := ofDigits ds
  if ds.length = digits ∧ ds.all Char.isDigit ∧ least ≤ n ∧ n ≤ most then
    some (n, cs.drop digits)
  else none

/-- Reads a mark and then what the reader reads. -/
def after {α : Type} (mark : Char) (reader : Reader α) : Reader α
  | c :: cs => if c = mark then reader cs else none
  | [] => none

/-- How many days a month has. -/
def daysIn (year month : Nat) : Nat :=
  if month = 2 then
    if year % 4 = 0 ∧ (year % 100 ≠ 0 ∨ year % 400 = 0) then 29 else 28
  else if month = 4 ∨ month = 6 ∨ month = 9 ∨ month = 11 then 30
  else 31

/-- Reads a date; the text behind it. -/
def date? (cs : List Char) : Option (List Char) := do
  let (year, cs) ← fixed 4 0 9999 cs
  let (month, cs) ← after '-' (fixed 2 1 12) cs
  let (_, cs) ← after '-' (fixed 2 1 (daysIn year month)) cs
  return cs

/-- Reads a time of day; the text behind it. -/
def time? (cs : List Char) : Option (List Char) := do
  let (_, cs) ← fixed 2 0 23 cs
  let (_, cs) ← after ':' (fixed 2 0 59) cs
  let (_, cs) ← after ':' (fixed 2 0 60) cs
  match cs with
  | '.' :: ds =>
    let (part, rest) := ds.span Char.isDigit
    return if part.isEmpty then cs else rest
  | cs => return cs

/-- Reads the distance from universal time, if it is given; the text behind it. -/
def offset? (cs : List Char) : Option (List Char) :=
  match cs with
  | 'Z' :: cs => some cs
  | 'z' :: cs => some cs
  | '+' :: cs => distance? cs
  | '-' :: cs => distance? cs
  | cs => some cs
where
  distance? (cs : List Char) : Option (List Char) := do
    let (_, cs) ← fixed 2 0 23 cs
    let (_, cs) ← after ':' (fixed 2 0 59) cs
    return cs

/-- Reads a date, a time of day, or both; the text behind it. -/
def dateTime? (cs : List Char) : Option (List Char) :=
  match date? cs with
  | none => time? cs
  | some rest =>
    match rest with
    | mark :: more =>
      if mark = 'T' ∨ mark = 't' ∨ mark = ' ' then
        match time? more with
        | some last => offset? last
        | none => some rest
      else some rest
    | [] => some rest

/-- Reads a date or time as the record that stands for it. -/
def dateTime : Reader Node := fun cs =>
  (dateTime? cs).map fun rest =>
    let written := cs.take (cs.length - rest.length)
    (.record [(Decoder.dateKey, .text (String.ofList written))], rest)

/-! ## Scalars -/

/-- Reads a text, a truth value, a date or a number. -/
def scalar : Reader Node := fun cs =>
  match cs with
  | '"' :: _ => (text cs).map fun (s, rest) => (.text s, rest)
  | '\'' :: _ => (text cs).map fun (s, rest) => (.text s, rest)
  | 't' :: _ => (symbol "true".toList cs).map fun (_, rest) => (.bool true, rest)
  | 'f' :: _ => (symbol "false".toList cs).map fun (_, rest) => (.bool false, rest)
  | cs =>
    match dateTime cs with
    | some found => some found
    | none => number cs

end ParamSql.Document.Toml
