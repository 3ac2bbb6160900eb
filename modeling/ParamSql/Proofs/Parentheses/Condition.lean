import ParamSql.Proofs.Parentheses.Balance
import ParamSql.Proofs.Tree
import ParamSql.Sql.Condition

/-!
# The parentheses of a condition

A condition has parentheses around its groups and around the columns that it folds in letter
case.  They are balanced as far as those of the names are.

## Main results

* `Leaf.balanced_sql`: a comparison
* `Predicate.balanced_condition`, `Predicate.balanced_whereClause`: a condition with all its
  groups
-/

namespace ParamSql

open Sql (Balanced)

/-! ## One comparison -/

namespace Leaf

theorem balanced_qualified {table : Option String} {column : String}
    (ht : ∀ t ∈ table, Balanced t) (hc : Balanced column) :
    Balanced (Sql.qualified table column) := by
  cases table with
  | none => exact hc
  | some t => exact ((ht t rfl).append (.of_not_mem (by decide) (by decide))).append hc

theorem balanced_operand {l : Leaf} (h : ∀ name ∈ l.names, Balanced name) :
    Balanced l.operand := by
  rcases l with ⟨column, table, op, lower, upper⟩
  have hq : Balanced (Sql.qualified table column) :=
    balanced_qualified (fun t ht => h t (by simp_all [names])) (h column (by simp [names]))
  have hlower : ∀ {t}, Balanced t → Balanced ("lower(" ++ t ++ ")") :=
    Balanced.call (s := "lower") (.of_not_mem (by decide) (by decide))
  have hupper : ∀ {t}, Balanced t → Balanced ("upper(" ++ t ++ ")") :=
    Balanced.call (s := "upper") (.of_not_mem (by decide) (by decide))
  cases lower <;> cases upper
  · exact hq
  · exact hupper hq
  · exact hlower hq
  · exact hupper (hlower hq)

theorem balanced_sql {l : Leaf} (h : ∀ name ∈ l.names, Balanced name) : Balanced l.sql := by
  have hsymbol : Balanced l.op.symbol := by
    cases l.op <;> exact .of_not_mem (by decide) (by decide)
  exact ((balanced_operand h).append hsymbol).append (.of_not_mem (by decide) (by decide))

end Leaf

/-! ## Groups and trees -/

theorem Sql.Balanced.grouped {word first : String} {rest : List String} (hw : Balanced word)
    (hf : Balanced first) (hr : ∀ t ∈ rest, Balanced t) : Balanced (grouped word first rest) := by
  cases rest with
  | nil => exact hf
  | cons t rest =>
    rw [Sql.grouped, if_neg (by simp)]
    exact (Balanced.intercalate hw (List.forall_mem_cons.mpr ⟨hf, hr⟩)).enclosed

namespace Predicate

/-- **The parentheses of a condition are balanced**, whatever the grouping. -/
theorem balanced_condition (p : Predicate) (h : ∀ name ∈ p.names, Balanced name) :
    Balanced p.condition := by
  induction p using induction with
  | node leaf ands ors iha iho =>
    obtain ⟨hl, ha, ho⟩ := forall_names_mk.mp h
    have hands : ∀ t ∈ ands.map condition, Balanced t :=
      List.forall_mem_map.mpr fun q hq => iha q hq (ha q hq)
    have hors : ∀ t ∈ ors.map condition, Balanced t :=
      List.forall_mem_map.mpr fun q hq => iho q hq (ho q hq)
    have hand : Balanced " AND " := .of_not_mem (by decide) (by decide)
    have hor : Balanced " OR " := .of_not_mem (by decide) (by decide)
    rw [condition, conditions_eq_map, conditions_eq_map]
    exact Balanced.grouped hor (Balanced.grouped hand (Leaf.balanced_sql hl) hands) hors

theorem balanced_whereClause (p : Predicate) (h : ∀ name ∈ p.names, Balanced name) :
    Balanced p.whereClause :=
  Balanced.append (.of_not_mem (by decide) (by decide)) (p.balanced_condition h)

end Predicate

end ParamSql
