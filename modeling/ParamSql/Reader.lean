/-!
# Readers

A reader takes a value off the front of a text and yields it with the text that is
left, or nothing when the text does not begin that way.

## Main definitions

* `Reader`
* `Reader.symbol`, `Reader.many`
-/

namespace ParamSql

/-- Reads a value from the front of a text; the rest of the text is returned with it. -/
abbrev Reader (α : Type) := List Char → Option (α × List Char)

namespace Reader

/-- Reads exactly the given characters. -/
def symbol : List Char → Reader Unit
  | [], cs => some ((), cs)
  | _ :: _, [] => none
  | s :: ss, c :: cs => if s = c then symbol ss cs else none

/-- Reads at most `n` times in a row. -/
def upTo {α : Type} (reader : Reader α) : Nat → List Char → List α × List Char
  | 0, cs => ([], cs)
  | n + 1, cs =>
    match reader cs with
    | none => ([], cs)
    | some (a, rest) =>
      let (as, last) := upTo reader n rest
      (a :: as, last)

/-- Reads as often as possible.  The length of the text bounds the number of times, for
readers that use up some text. -/
def many {α : Type} (reader : Reader α) (cs : List Char) : List α × List Char :=
  upTo reader cs.length cs

end Reader

end ParamSql
