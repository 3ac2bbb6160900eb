import ParamSql.Statement
import ParamSql.Value

/-!
# Sharing values out

A list of values is shared out among statements in order: every statement takes as many as
it binds.  When too few are left, either the sharing ends there, or the statement takes what
is left.

## Main definitions

* `Allotment`, `Allotment.ofList`
-/

namespace ParamSql

/-- How values are shared out among statements. -/
structure Allotment where
  /-- the statements with their values -/
  shares : List (Statement × List Value)
  /-- the statement for which too few values are left, and how many are left -/
  shortage : Option (Statement × Nat) := none
  /-- how many values nothing takes -/
  unused : Nat := 0

namespace Allotment

/-- Gives a statement its values before all others. -/
def cons (share : Statement × List Value) (a : Allotment) : Allotment :=
  { a with shares := share :: a.shares }

/-- Shares values out.  If all values must be there, the sharing ends at a shortage. -/
def ofList (allRequired : Bool) : List Statement → List Value → Allotment
  | [], values => ⟨[], none, values.length⟩
  | s :: rest, values =>
    let n := s.placeholderCount
    if allRequired && values.length < n then ⟨[], some (s, values.length), 0⟩
    else cons (s, values.take n) (ofList allRequired rest (values.drop n))

end Allotment

end ParamSql
