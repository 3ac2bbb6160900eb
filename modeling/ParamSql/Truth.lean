import ParamSql.Predicate

/-!
# Truth values

A comparison with a missing value is neither true nor false.  Conditions are therefore
evaluated over three truth values, in which `and` takes the lesser and `or` the greater of
its operands, `no < unknown < yes`.

## Main definitions

* `Truth`, `Truth.and`, `Truth.or`
* `Predicate.truth`: the truth of a tree, given the truth of its leaves
-/

namespace ParamSql

/-- The truth of a condition. -/
inductive Truth where
  | no
  | unknown
  | yes
deriving Repr, DecidableEq, Inhabited

namespace Truth

/-- The truth of a decided condition. -/
def ofBool (b : Bool) : Truth := if b then yes else no

/-- Holds if both hold, and fails if one fails. -/
def and : Truth → Truth → Truth
  | no, _ => no
  | _, no => no
  | unknown, _ => unknown
  | _, unknown => unknown
  | yes, yes => yes

/-- Holds if one holds, and fails if both fail. -/
def or : Truth → Truth → Truth
  | yes, _ => yes
  | _, yes => yes
  | unknown, _ => unknown
  | _, unknown => unknown
  | no, no => no

@[simp] theorem yes_and (t : Truth) : and yes t = t := by cases t <;> rfl

@[simp] theorem and_yes (t : Truth) : and t yes = t := by cases t <;> rfl

@[simp] theorem no_or (t : Truth) : or no t = t := by cases t <;> rfl

@[simp] theorem or_no (t : Truth) : or t no = t := by cases t <;> rfl

theorem and_assoc (s t u : Truth) : and (and s t) u = and s (and t u) := by
  cases s <;> cases t <;> cases u <;> rfl

theorem or_assoc (s t u : Truth) : or (or s t) u = or s (or t u) := by
  cases s <;> cases t <;> cases u <;> rfl

/-- Whether a condition selects a row: only if it holds. -/
def selects (t : Truth) : Bool := t == yes

end Truth

namespace Predicate

mutual

/-- The truth of a node whose first leaf has the number `i` in binding order. -/
def truthFrom (leafTruth : Nat → Truth) : Predicate → Nat → Truth
  | ⟨_, ands, ors⟩, i =>
    ((leafTruth i).and (allFrom leafTruth ands (i + 1))).or
      (anyFrom leafTruth ors (i + 1 + placeholderCountOfAll ands))

/-- Whether all nodes hold. -/
def allFrom (leafTruth : Nat → Truth) : List Predicate → Nat → Truth
  | [], _ => .yes
  | p :: ps, i => (truthFrom leafTruth p i).and (allFrom leafTruth ps (i + p.placeholderCount))

/-- Whether some node holds. -/
def anyFrom (leafTruth : Nat → Truth) : List Predicate → Nat → Truth
  | [], _ => .no
  | p :: ps, i => (truthFrom leafTruth p i).or (anyFrom leafTruth ps (i + p.placeholderCount))

end

/-- The truth of a tree, given the truth of every leaf by its number in binding order. -/
def truth (p : Predicate) (leafTruth : Nat → Truth) : Truth := p.truthFrom leafTruth 0

end Predicate

end ParamSql
