import ParamSql.Operator

/-!
# Predicate trees

A predicate is a tree of comparisons between a column and a bound value.  Each
node is a leaf comparison with two lists of further nodes: the node holds when
its leaf and every node of `ands` hold, or when some node of `ors` holds.

Every leaf stands for one placeholder.  Placeholders are bound in the order
*leaf, then `ands`, then `ors`*, which is also the order in which they are
written.

## Main definitions

* `Leaf`: a comparison of one column, with its folding of letter case
* `Predicate`: the tree, with its builders
* `Predicate.leaves`, `Predicate.placeholderColumns`, `Predicate.placeholderCount`
* `Predicate.byDefault`: what a statement without a filter matches on

## Main results

* `Predicate.length_placeholderColumns`: there is one placeholder per leaf.
-/

namespace ParamSql

/-- A comparison between one column, possibly folded in case, and a bound value. -/
structure Leaf where
  column : String
  table : Option String := none
  op : Comparison := .eq
  lower : Bool := false
  upper : Bool := false
deriving Repr, DecidableEq, Inhabited

/-- A tree of comparisons: the leaf and all of `ands`, or any of `ors`. -/
structure Predicate where
  leaf : Leaf
  ands : List Predicate := []
  ors : List Predicate := []
deriving Repr, Inhabited

namespace Predicate

/-! ## Builders -/

/-- The comparison `column = ?` alone. -/
def ofColumn (column : String) : Predicate := ⟨⟨column, none, .eq, false, false⟩, [], []⟩

/-- The comparison of a column with the given operator, alone. -/
def compare (column : String) (op : Comparison) : Predicate :=
  ⟨⟨column, none, op, false, false⟩, [], []⟩

/-- Equality up to letter case: the column is folded to lower case. -/
def eqIgnoreCase (column : String) : Predicate := ⟨⟨column, none, .eq, true, false⟩, [], []⟩

/-- The column that a statement without a filter matches on. -/
def defaultColumn : String := "id"

/-- What a statement without a filter matches on: `id = ?`. -/
def byDefault : Predicate := ofColumn defaultColumn

/-- Qualifies the leaf's column with a table. -/
def inTable (p : Predicate) (table : String) : Predicate :=
  { p with leaf := { p.leaf with table := some table } }

/-- Compares the leaf with another operator. -/
def withOp (p : Predicate) (op : Comparison) : Predicate :=
  { p with leaf := { p.leaf with op := op } }

/-- Folds the leaf's column to lower case. -/
def lowercase (p : Predicate) : Predicate := { p with leaf := { p.leaf with lower := true } }

/-- Folds the leaf's column to upper case. -/
def uppercase (p : Predicate) : Predicate := { p with leaf := { p.leaf with upper := true } }

/-- Adds nodes that must all hold together with the leaf. -/
def andAll (p : Predicate) (qs : List Predicate) : Predicate := { p with ands := p.ands ++ qs }

/-- Adds nodes of which one suffices. -/
def orAll (p : Predicate) (qs : List Predicate) : Predicate := { p with ors := p.ors ++ qs }

/-- Adds one node that must hold together with the leaf. -/
def and (p q : Predicate) : Predicate := p.andAll [q]

/-- Adds one node that suffices on its own. -/
def or (p q : Predicate) : Predicate := p.orAll [q]

/-! ## Placeholders -/

mutual

/-- The leaves in binding order. -/
def leaves : Predicate → List Leaf
  | ⟨leaf, ands, ors⟩ => leaf :: (leavesOfAll ands ++ leavesOfAll ors)

/-- The leaves of several nodes, node after node. -/
def leavesOfAll : List Predicate → List Leaf
  | [] => []
  | p :: ps => leaves p ++ leavesOfAll ps

end

/-- The columns that the placeholders are compared with, in binding order. -/
def placeholderColumns (p : Predicate) : List String := p.leaves.map (·.column)

mutual

/-- How many values the predicate binds. -/
def placeholderCount : Predicate → Nat
  | ⟨_, ands, ors⟩ => 1 + placeholderCountOfAll ands + placeholderCountOfAll ors

/-- How many values several nodes bind together. -/
def placeholderCountOfAll : List Predicate → Nat
  | [] => 0
  | p :: ps => placeholderCount p + placeholderCountOfAll ps

end

mutual

theorem length_leaves : ∀ p : Predicate, p.leaves.length = p.placeholderCount
  | ⟨leaf, ands, ors⟩ => by
    simp only [leaves, placeholderCount, List.length_cons, List.length_append,
      length_leavesOfAll ands, length_leavesOfAll ors]
    omega

theorem length_leavesOfAll :
    ∀ ps : List Predicate, (leavesOfAll ps).length = placeholderCountOfAll ps
  | [] => rfl
  | p :: ps => by
    simp only [leavesOfAll, placeholderCountOfAll, List.length_append, length_leaves p,
      length_leavesOfAll ps]

end

/-- **One placeholder per leaf**: the columns to bind are as many as the count says. -/
theorem length_placeholderColumns (p : Predicate) :
    p.placeholderColumns.length = p.placeholderCount := by
  simp [placeholderColumns, length_leaves]

end Predicate

end ParamSql
