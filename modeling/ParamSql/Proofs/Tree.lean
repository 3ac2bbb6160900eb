import ParamSql.Predicate

/-!
# Predicates as trees

A predicate is a node with a leaf comparison and two lists of further nodes.  What holds of
every node whose further nodes it holds of, holds of every predicate.  The nodes of a
predicate have one order throughout: a node, then those of its `ands`, then those of its
`ors`.

## Main definitions

* `Leaf.names`, `Predicate.names`: the names that are written
* `Predicate.nodes`: all nodes, in binding order

## Main results

* `Predicate.induction`: induction over the tree
* `Predicate.map_leaf_nodes`, `Predicate.length_nodes`: one leaf and one placeholder per node
-/

namespace ParamSql

/-- The names that a comparison is written with. -/
def Leaf.names (l : Leaf) : List String := l.table.toList ++ [l.column]

namespace Predicate

mutual

/-- Induction over the tree: a property holds of a predicate if every node has it whose
further nodes have it. -/
@[elab_as_elim]
theorem induction {motive : Predicate → Prop}
    (node : ∀ leaf ands ors, (∀ p ∈ ands, motive p) → (∀ p ∈ ors, motive p) →
      motive ⟨leaf, ands, ors⟩) : ∀ p, motive p
  | ⟨leaf, ands, ors⟩ => node leaf ands ors (induction_mem node ands) (induction_mem node ors)

theorem induction_mem {motive : Predicate → Prop}
    (node : ∀ leaf ands ors, (∀ p ∈ ands, motive p) → (∀ p ∈ ors, motive p) →
      motive ⟨leaf, ands, ors⟩) : ∀ (ps : List Predicate), ∀ p ∈ ps, motive p
  | [], _, h => by cases h
  | q :: qs, p, h => by
    rcases List.mem_cons.mp h with h | h
    · exact h ▸ induction node q
    · exact induction_mem node qs p h

end

/-! ## Equality -/

mutual

/-- Two predicates are equal if their leaves and their further nodes are. -/
def decideEq : ∀ p q : Predicate, Decidable (p = q)
  | ⟨l, as, os⟩, ⟨l', as', os'⟩ =>
    haveI := decideEqAll as as'
    haveI := decideEqAll os os'
    decidable_of_iff (l = l' ∧ as = as' ∧ os = os') (by rw [mk.injEq])

def decideEqAll : ∀ ps qs : List Predicate, Decidable (ps = qs)
  | [], [] => isTrue rfl
  | [], _ :: _ => isFalse nofun
  | _ :: _, [] => isFalse nofun
  | p :: ps, q :: qs =>
    haveI := decideEq p q
    haveI := decideEqAll ps qs
    decidable_of_iff (p = q ∧ ps = qs) (by rw [List.cons.injEq])

end

instance : DecidableEq Predicate := decideEq

/-! ## Leaves -/

theorem leavesOfAll_eq_flatMap (ps : List Predicate) : leavesOfAll ps = ps.flatMap leaves := by
  induction ps with
  | nil => rfl
  | cons p ps ih => rw [leavesOfAll, ih, List.flatMap_cons]

theorem leaves_mk (leaf : Leaf) (ands ors : List Predicate) :
    leaves ⟨leaf, ands, ors⟩ = leaf :: (ands.flatMap leaves ++ ors.flatMap leaves) := by
  rw [leaves, leavesOfAll_eq_flatMap, leavesOfAll_eq_flatMap]

/-! ## Nodes -/

mutual

/-- The nodes in binding order: the node itself, then its `ands`, then its `ors`. -/
def nodes : Predicate → List Predicate
  | ⟨leaf, ands, ors⟩ => ⟨leaf, ands, ors⟩ :: (nodesOfAll ands ++ nodesOfAll ors)

/-- The nodes of several predicates, one predicate after the other. -/
def nodesOfAll : List Predicate → List Predicate
  | [] => []
  | p :: ps => nodes p ++ nodesOfAll ps

end

mutual

/-- The leaves are those of the nodes. -/
theorem map_leaf_nodes : ∀ p : Predicate, p.nodes.map (·.leaf) = p.leaves
  | ⟨leaf, ands, ors⟩ => by
    rw [nodes, leaves, List.map_cons, List.map_append, map_leaf_nodesOfAll ands,
      map_leaf_nodesOfAll ors]

theorem map_leaf_nodesOfAll :
    ∀ ps : List Predicate, (nodesOfAll ps).map (·.leaf) = leavesOfAll ps
  | [] => rfl
  | p :: ps => by
    rw [nodesOfAll, leavesOfAll, List.map_append, map_leaf_nodes p, map_leaf_nodesOfAll ps]

end

theorem nodesOfAll_eq_flatMap (ps : List Predicate) : nodesOfAll ps = ps.flatMap nodes := by
  induction ps with
  | nil => rfl
  | cons p ps ih => rw [nodesOfAll, ih, List.flatMap_cons]

theorem nodes_mk (leaf : Leaf) (ands ors : List Predicate) :
    nodes ⟨leaf, ands, ors⟩ = ⟨leaf, ands, ors⟩ :: (ands.flatMap nodes ++ ors.flatMap nodes) := by
  rw [nodes, nodesOfAll_eq_flatMap, nodesOfAll_eq_flatMap]

/-- **One placeholder per node**. -/
theorem length_nodes (p : Predicate) : p.nodes.length = p.placeholderCount := by
  rw [← length_leaves, ← map_leaf_nodes, List.length_map]

/-! ## Names -/

/-- The names of columns and tables that a predicate is written with. -/
def names (p : Predicate) : List String := p.leaves.flatMap (·.names)

theorem names_mk (leaf : Leaf) (ands ors : List Predicate) :
    names ⟨leaf, ands, ors⟩ = leaf.names ++ (ands.flatMap names ++ ors.flatMap names) := by
  rw [names, leaves_mk, List.flatMap_cons, List.flatMap_append, List.flatMap_assoc,
    List.flatMap_assoc]
  rfl

/-- A node whose names have a property has a leaf and further nodes whose names have it. -/
theorem forall_names_mk {P : String → Prop} {leaf : Leaf} {ands ors : List Predicate} :
    (∀ name ∈ names ⟨leaf, ands, ors⟩, P name) ↔
      (∀ name ∈ leaf.names, P name) ∧ (∀ p ∈ ands, ∀ name ∈ p.names, P name) ∧
        ∀ p ∈ ors, ∀ name ∈ p.names, P name := by
  simp only [names_mk, List.forall_mem_append, List.forall_mem_flatMap]

end Predicate

end ParamSql
