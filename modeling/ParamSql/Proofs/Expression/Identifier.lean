import ParamSql.Proofs.Expression.Grammar
import ParamSql.Proofs.Tree

/-!
# The names of an expression

An expression names columns and tables by identifiers only.  The grammar reads a name nowhere
but in a path, so this goes from identifiers to paths, leaves, groups and nodes, however deep
parentheses nest.

## Main definitions

* `IsIdentifier`: a letter or an underscore, and characters that continue it

## Main results

* `Grammar.Node.isIdentifier`: the names of a node are identifiers
* `IsIdentifier.not_mem`: a character that continues no identifier occurs in none
-/

namespace ParamSql.Expression

/-! ## Identifiers -/

/-- A letter of ASCII or an underscore, and behind it letters, digits and underscores. -/
def IsIdentifier (name : String) : Prop :=
  ∃ c cs, name.toList = c :: cs ∧ isIdentStart c = true ∧ cs.all isIdentRest = true

theorem isIdentRest_of_isIdentStart {c : Char} (h : isIdentStart c = true) :
    isIdentRest c = true := by
  rw [isIdentStart, Bool.or_eq_true] at h
  rw [isIdentRest, Bool.or_eq_true]
  rcases h with hletter | hunderscore
  · exact .inl (Unicode.isAlphanumeric_of_isAlphanum (by simp [Char.isAlphanum, hletter]))
  · exact .inr hunderscore

/-- Among the characters of ASCII, letters, digits and the underscore continue an identifier. -/
theorem isIdentRest_of_lt {c : Char} (h : c.toNat < 0xAA) :
    isIdentRest c = (c.isAlphanum || c == '_') := by
  rw [isIdentRest, Unicode.isAlphanumeric_of_lt h]

namespace IsIdentifier

variable {name : String} {c : Char}

theorem isIdentRest_of_mem (h : IsIdentifier name) (hc : c ∈ name.toList) :
    isIdentRest c = true := by
  obtain ⟨first, rest, hname, hstart, hrest⟩ := h
  rw [hname] at hc
  rcases List.mem_cons.mp hc with rfl | hc
  · exact isIdentRest_of_isIdentStart hstart
  · exact List.all_eq_true.mp hrest c hc

theorem not_mem (h : IsIdentifier name) (hc : isIdentRest c = false) : c ∉ name.toList := by
  intro hmem
  rw [h.isIdentRest_of_mem hmem] at hc
  cases hc

end IsIdentifier

/-! ## Names that are read -/

namespace Grammar

variable {α : Type} {item : Rule α} {P : α → Prop} {cs rest : List Char}

theorem Ident.isIdentifier {name : String} (h : Ident cs name rest) : IsIdentifier name := by
  obtain ⟨start, continues, -⟩ := h
  exact ⟨_, _, String.toList_ofList, start, continues⟩

theorem Path.isIdentifier {p : Expression.Path} (h : Path cs p rest) :
    (∀ table ∈ p.table, IsIdentifier table) ∧ IsIdentifier p.column := by
  rcases h with h | ⟨ht, hn⟩
  · exact ⟨nofun, h.isIdentifier⟩
  · refine ⟨?_, hn.isIdentifier⟩
    rintro _ ⟨⟩
    exact ht.isIdentifier

/-- The folding of letter case leaves the path as it is. -/
theorem Fold.path {l : ParamSql.Leaf} (h : Fold cs l rest) :
    ∃ inner more, Path inner ⟨l.table, l.column⟩ more := by
  rcases h with ⟨-, h, -⟩ | ⟨-, h, -⟩ | ⟨-, h, -⟩ | h <;> exact ⟨_, _, h⟩

theorem Leaf.isIdentifier {l : ParamSql.Leaf} (h : Leaf cs l rest) :
    ∀ name ∈ l.names, IsIdentifier name := by
  obtain ⟨fold, -, -, -, -⟩ := h
  obtain ⟨_, _, path⟩ := fold.path
  obtain ⟨htable, hcolumn⟩ := path.isIdentifier
  intro name hname
  rw [ParamSql.Leaf.names, List.mem_append, Option.mem_toList, List.mem_singleton] at hname
  rcases hname with hname | rfl
  · exact htable name hname
  · exact hcolumn

/-- What holds of every thing that a rule admits holds of all things in a row. -/
theorem Star.forall {mark : Char} {as : List α} (h : Star (Behind mark item) cs as rest)
    (hitem : ∀ {cs a rest}, item cs a rest → P a) : ∀ a ∈ as, P a := by
  induction h with
  | nil => nofun
  | cons head tail ih =>
    obtain ⟨-, -, hhead⟩ := head
    exact List.forall_mem_cons.mpr ⟨hitem hhead, ih⟩

theorem Group.forall {node : Rule Predicate} {P : Predicate → Prop} {ps : List Predicate}
    (h : Group node cs ps rest) (hnode : ∀ {cs p rest}, node cs p rest → P p)
    (hleaf : ∀ {cs l rest}, Leaf cs l rest → P ⟨l, [], []⟩) : ∀ p ∈ ps, P p := by
  rcases h with ⟨-, first, others, -⟩ | h
  · exact List.forall_mem_cons.mpr ⟨hnode first, others.forall hnode⟩
  · exact List.forall_mem_singleton.mpr (hleaf h)

/-- **An expression names identifiers only**. -/
theorem Node.isIdentifier {p : Predicate} (h : Node cs p rest) :
    ∀ name ∈ p.names, IsIdentifier name := by
  let motive : Rule Predicate := fun _ p _ => ∀ name ∈ p.names, IsIdentifier name
  have hleaf : ∀ {cs l rest}, Leaf cs l rest → motive cs ⟨l, [], []⟩ rest := fun h =>
    Predicate.forall_names_mk.mpr ⟨h.isIdentifier, nofun, nofun⟩
  refine Node.induction (motive := motive) (fun leaf conjuncts disjuncts => ?_) h
  have hgroups : ∀ {mark cs rest} {groups : List (List Predicate)},
      Star (Behind mark (Group fun cs p rest => Node cs p rest ∧ motive cs p rest)) cs groups
        rest → ∀ p ∈ groups.flatten, ∀ name ∈ p.names, IsIdentifier name := by
    intro _ _ _ groups hstar p hp
    obtain ⟨group, hgroup, hp⟩ := List.mem_flatten.mp hp
    exact hstar.forall (fun h => h.forall And.right hleaf) group hgroup p hp
  exact Predicate.forall_names_mk.mpr
    ⟨leaf.isIdentifier, hgroups conjuncts, hgroups disjuncts⟩

end Grammar

end ParamSql.Expression
