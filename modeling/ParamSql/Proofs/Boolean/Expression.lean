import Mathlib.Data.List.Basic
import ParamSql.Proofs.Tree
import ParamSql.Truth

/-!
# Boolean expressions

A condition of SQL is a comparison, or two conditions joined by `AND` or by `OR`.  A predicate
describes one such expression: its leaf `AND` every node of its `ands`, `OR` every node of its
`ors`, grouped from the left.

## Main definitions

* `Sql.BoolExpr`, `Sql.BoolExpr.leaves`, `Sql.BoolExpr.truth`
* `Predicate.boolExpr`: the expression that a predicate describes

## Main results

* `Predicate.leaves_boolExpr`: the same comparisons in the same order
* `Predicate.truth_boolExpr`: the same truth, whatever the truth of the comparisons
-/

namespace ParamSql

namespace Sql

/-- A boolean expression over comparisons with placeholders. -/
inductive BoolExpr where
  | test (leaf : Leaf)
  | and (a b : BoolExpr)
  | or (a b : BoolExpr)
deriving Repr, DecidableEq

namespace BoolExpr

/-- The comparisons from left to right. -/
def leaves : BoolExpr → List Leaf
  | test l => [l]
  | and a b => a.leaves ++ b.leaves
  | or a b => a.leaves ++ b.leaves

/-- The truth of an expression whose first comparison has the number `i`. -/
def truthFrom (leafTruth : Nat → Truth) : BoolExpr → Nat → Truth
  | test _, i => leafTruth i
  | and a b, i => (a.truthFrom leafTruth i).and (b.truthFrom leafTruth (i + a.leaves.length))
  | or a b, i => (a.truthFrom leafTruth i).or (b.truthFrom leafTruth (i + a.leaves.length))

/-- The truth of an expression, given the truth of every comparison by its number from left to
right. -/
def truth (e : BoolExpr) (leafTruth : Nat → Truth) : Truth := e.truthFrom leafTruth 0

theorem leaves_foldl_and (e : BoolExpr) (es : List BoolExpr) :
    (es.foldl and e).leaves = e.leaves ++ es.flatMap leaves := by
  induction es generalizing e with
  | nil => simp
  | cons f es ih => rw [List.foldl_cons, ih, leaves, List.flatMap_cons, List.append_assoc]

theorem leaves_foldl_or (e : BoolExpr) (es : List BoolExpr) :
    (es.foldl or e).leaves = e.leaves ++ es.flatMap leaves := by
  induction es generalizing e with
  | nil => simp
  | cons f es ih => rw [List.foldl_cons, ih, leaves, List.flatMap_cons, List.append_assoc]

end BoolExpr

end Sql

namespace Predicate

open Sql (BoolExpr)

mutual

/-- The expression that a predicate describes. -/
def boolExpr : Predicate → BoolExpr
  | ⟨leaf, ands, ors⟩ =>
    (boolExprs ors).foldl .or ((boolExprs ands).foldl .and (.test leaf))

/-- The expression of each predicate of a list. -/
def boolExprs : List Predicate → List BoolExpr
  | [] => []
  | p :: ps => boolExpr p :: boolExprs ps

end

theorem boolExprs_eq_map (ps : List Predicate) : boolExprs ps = ps.map boolExpr := by
  induction ps with
  | nil => rfl
  | cons p ps ih => rw [boolExprs, ih, List.map_cons]

theorem boolExpr_mk (leaf : Leaf) (ands ors : List Predicate) :
    boolExpr ⟨leaf, ands, ors⟩ =
      (ors.map boolExpr).foldl .or ((ands.map boolExpr).foldl .and (.test leaf)) := by
  rw [boolExpr, boolExprs_eq_map, boolExprs_eq_map]

/-- **The same comparisons** in the same order. -/
theorem leaves_boolExpr (p : Predicate) : p.boolExpr.leaves = p.leaves := by
  induction p using induction with
  | node leaf ands ors iha iho =>
    have ha : (ands.map boolExpr).flatMap BoolExpr.leaves = ands.flatMap leaves := by
      rw [List.flatMap_map]
      exact List.flatMap_congr iha
    have ho : (ors.map boolExpr).flatMap BoolExpr.leaves = ors.flatMap leaves := by
      rw [List.flatMap_map]
      exact List.flatMap_congr iho
    rw [boolExpr_mk, leaves_mk, BoolExpr.leaves_foldl_or, BoolExpr.leaves_foldl_and, ha, ho]
    rfl

theorem length_leaves_boolExpr (p : Predicate) :
    p.boolExpr.leaves.length = p.placeholderCount := by
  rw [leaves_boolExpr, length_leaves]

section Truth

variable (leafTruth : Nat → Truth)

/-- What follows a first expression by `AND` is asked to hold altogether. -/
theorem truthFrom_foldl_and (e : BoolExpr) (ps : List Predicate)
    (h : ∀ p ∈ ps, ∀ i, p.boolExpr.truthFrom leafTruth i = p.truthFrom leafTruth i) (i : Nat) :
    ((ps.map boolExpr).foldl .and e).truthFrom leafTruth i =
      (e.truthFrom leafTruth i).and (allFrom leafTruth ps (i + e.leaves.length)) := by
  induction ps generalizing e with
  | nil => simp [allFrom]
  | cons p ps ih =>
    have hp := h p (by simp) (i + e.leaves.length)
    rw [List.map_cons, List.foldl_cons, ih _ fun q hq => h q (by simp [hq])]
    rw [BoolExpr.truthFrom, BoolExpr.leaves, List.length_append, length_leaves_boolExpr, hp,
      Truth.and_assoc, allFrom, Nat.add_assoc]

/-- Of what follows a first expression by `OR`, one suffices. -/
theorem truthFrom_foldl_or (e : BoolExpr) (ps : List Predicate)
    (h : ∀ p ∈ ps, ∀ i, p.boolExpr.truthFrom leafTruth i = p.truthFrom leafTruth i) (i : Nat) :
    ((ps.map boolExpr).foldl .or e).truthFrom leafTruth i =
      (e.truthFrom leafTruth i).or (anyFrom leafTruth ps (i + e.leaves.length)) := by
  induction ps generalizing e with
  | nil => simp [anyFrom]
  | cons p ps ih =>
    have hp := h p (by simp) (i + e.leaves.length)
    rw [List.map_cons, List.foldl_cons, ih _ fun q hq => h q (by simp [hq])]
    rw [BoolExpr.truthFrom, BoolExpr.leaves, List.length_append, length_leaves_boolExpr, hp,
      Truth.or_assoc, anyFrom, Nat.add_assoc]

theorem truthFrom_boolExpr (p : Predicate) :
    ∀ i, p.boolExpr.truthFrom leafTruth i = p.truthFrom leafTruth i := by
  induction p using induction with
  | node leaf ands ors iha iho =>
    intro i
    have hcount : ((ands.map boolExpr).foldl BoolExpr.and (.test leaf)).leaves.length =
        1 + placeholderCountOfAll ands := by
      rw [BoolExpr.leaves_foldl_and, List.length_append, BoolExpr.leaves, List.length_singleton,
        ← length_leavesOfAll, leavesOfAll_eq_flatMap, List.flatMap_map,
        List.flatMap_congr fun p _ => leaves_boolExpr p]
    rw [boolExpr_mk, truthFrom_foldl_or leafTruth _ _ iho, truthFrom_foldl_and leafTruth _ _ iha,
      hcount, truthFrom, BoolExpr.truthFrom, Nat.add_assoc]
    rfl

end Truth

/-- **The same truth**, for every truth of the comparisons. -/
theorem truth_boolExpr (p : Predicate) (leafTruth : Nat → Truth) :
    p.boolExpr.truth leafTruth = p.truth leafTruth :=
  truthFrom_boolExpr leafTruth p 0

end Predicate

end ParamSql
