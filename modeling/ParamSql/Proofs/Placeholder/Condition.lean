import ParamSql.Proofs.Placeholder.Binding
import ParamSql.Proofs.Tree
import ParamSql.Sql.Condition

/-!
# The placeholders of a condition

A condition is written with parentheses around groups of groups, and its values are counted
and named by walking the tree.  Both go through the nodes in the same order, so the `k`-th
value meets the comparison of the `k`-th node.

## Main definitions

* `Leaf.lead`: a comparison up to its placeholder

## Main results

* `Predicate.binds_condition`, `Predicate.binds_whereClause`: a condition binds at the leads
  of its leaves
* `Predicate.placeholders_whereClause`: text, columns and count agree, placeholder by
  placeholder
-/

namespace ParamSql

/-! ## One comparison -/

namespace Leaf

/-- The comparison up to its placeholder: the column with its folding of letter case, and the
symbol. -/
def lead (l : Leaf) : String :=
  let column := Sql.qualified l.table l.column
  let operand :=
    match l.lower, l.upper with
    | false, false => column
    | true, false => "lower(" ++ column ++ ")"
    | false, true => "upper(" ++ column ++ ")"
    | true, true => "upper(lower(" ++ column ++ "))"
  operand ++ l.op.symbol

theorem sql_eq_lead (l : Leaf) : l.sql = l.lead ++ "?" := by
  rcases l with ⟨column, table, op, lower, upper⟩
  apply String.toList_inj.mp
  cases lower <;> cases upper <;> simp [sql, operand, lead]

theorem unmarked_qualified {table : Option String} {column : String}
    (ht : ∀ t ∈ table, Sql.Unmarked t) (hc : Sql.Unmarked column) :
    Sql.Unmarked (Sql.qualified table column) := by
  cases table with
  | none => exact hc
  | some t =>
    rw [Sql.qualified, Sql.unmarked_append, Sql.unmarked_append]
    exact ⟨⟨ht t rfl, by decide⟩, hc⟩

theorem unmarked_lead {l : Leaf} (h : ∀ name ∈ l.names, Sql.Unmarked name) :
    Sql.Unmarked l.lead := by
  rcases l with ⟨column, table, op, lower, upper⟩
  have hq : Sql.Unmarked (Sql.qualified table column) :=
    unmarked_qualified (fun t ht => h t (by simp_all [names])) (h column (by simp [names]))
  have ho : Sql.Unmarked op.symbol := by cases op <;> decide
  rw [lead, Sql.unmarked_append]
  refine ⟨?_, ho⟩
  cases lower <;> cases upper <;> simp only [Sql.unmarked_append, hq, and_true] <;> decide

/-- A comparison binds one value, behind its lead. -/
theorem binds_sql {l : Leaf} (h : ∀ name ∈ l.names, Sql.Unmarked name) :
    Sql.Binds [l.lead] l.sql := by
  rw [sql_eq_lead]
  exact Sql.Binds.mark (unmarked_lead h)

end Leaf

/-! ## Groups and trees -/

/-- A group binds what its first condition binds, and then what the others bind. -/
theorem Sql.Binds.grouped {α : Type} {leads : List String} {first : String}
    {others : α → List String} {text : α → String} (word : String) (hw : Unmarked word)
    (hf : Binds leads first) (as : List α) (h : ∀ a ∈ as, Binds (others a) (text a)) :
    Binds (leads ++ as.flatMap others) (grouped word first (as.map text)) := by
  cases as with
  | nil => simpa [Sql.grouped] using hf
  | cons a as =>
    have hr : Binds ((a :: as).flatMap others)
        (String.intercalate word ((a :: as).map text)) := Binds.intercalate hw _ h
    have hj : String.intercalate word (first :: (a :: as).map text) =
        first ++ word ++ String.intercalate word ((a :: as).map text) := by
      rw [List.map_cons, String.intercalate_cons_cons]
    rw [Sql.grouped, if_neg (by simp), hj]
    exact (((hf.before hw).append hr).behind (by decide)).before (by decide)

namespace Predicate

/-- **A condition binds at its leaves**, in binding order, whatever the grouping. -/
theorem binds_condition (p : Predicate) (h : ∀ name ∈ p.names, Sql.Unmarked name) :
    Sql.Binds (p.leaves.map (·.lead)) p.condition := by
  induction p using induction with
  | node leaf ands ors iha iho =>
    obtain ⟨hl, ha, ho⟩ := forall_names_mk.mp h
    -- the group of the `ands` is the first condition in the group of the `ors`
    have hand := Sql.Binds.grouped " AND " (by decide) (Leaf.binds_sql hl) ands
      fun q hq => iha q hq (ha q hq)
    have hor := Sql.Binds.grouped " OR " (by decide) hand ors fun q hq => iho q hq (ho q hq)
    rw [condition, conditions_eq_map, conditions_eq_map, leaves_mk]
    simpa [List.map_flatMap] using hor

theorem binds_whereClause (p : Predicate) (h : ∀ name ∈ p.names, Sql.Unmarked name) :
    Sql.Binds (p.leaves.map (·.lead)) p.whereClause :=
  (p.binds_condition h).behind (by decide)

/-- **Values meet their comparisons**: the `k`-th placeholder of a clause stands directly
behind the comparison of the `k`-th node, the `k`-th column to bind is the column of that
node, and nodes, columns, placeholders and the count are equally many. -/
theorem placeholders_whereClause (p : Predicate) (h : ∀ name ∈ p.names, Sql.Unmarked name) :
    (∀ k (hk : k < p.nodes.length), ∃ before after,
      p.whereClause.toList = before ++ '?' :: after ∧ before.count '?' = k ∧
        p.nodes[k].leaf.lead.toList <:+ before ∧
        p.placeholderColumns[k]? = some p.nodes[k].leaf.column) ∧
      p.nodes.length = p.placeholderCount ∧
      p.placeholderCount = p.placeholderColumns.length ∧
      p.placeholderColumns.length = p.whereClause.toList.count '?' := by
  have hb := p.binds_whereClause h
  rw [← map_leaf_nodes, List.map_map] at hb
  refine ⟨fun k hk => ?_, p.length_nodes, p.length_placeholderColumns.symm, ?_⟩
  · obtain ⟨before, after, he, hc, hs⟩ := hb.2 k (by simpa using hk)
    refine ⟨before, after, he, hc, by simpa using hs, ?_⟩
    rw [placeholderColumns, ← map_leaf_nodes, List.map_map, List.getElem?_map,
      List.getElem?_eq_getElem hk]
    rfl
  · rw [hb.count_eq, List.length_map, p.length_nodes, p.length_placeholderColumns]

theorem placeholders_whereClause_nested :
    let p := ((compare "a" .lt).and ((eqIgnoreCase "b").or (ofColumn "c"))).or (ofColumn "d")
    (∀ name ∈ p.names, Sql.Unmarked name) ∧ p.placeholderColumns[2]? = some "c" ∧
      ∃ before after, p.whereClause.toList = before ++ '?' :: after ∧ before.count '?' = 2 ∧
        "c=".toList <:+ before := by
  intro p
  have hp : ∀ name ∈ p.names, Sql.Unmarked name := by decide
  obtain ⟨before, after, he, hc, hs, hk⟩ := (placeholders_whereClause p hp).1 2 (by decide)
  exact ⟨hp, hk, before, after, he, hc, hs⟩

end Predicate

end ParamSql
