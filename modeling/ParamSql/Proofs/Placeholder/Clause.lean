import ParamSql.Proofs.Decimal.Numeral
import ParamSql.Proofs.Placeholder.Condition
import ParamSql.Proofs.Vocabulary
import ParamSql.Sql.Clause

/-!
# Clauses without placeholders

Besides conditions, assignments and the values of a new row, no clause of a statement has a
placeholder, provided that none of its strings has one.

## Main results

* `Sql.unmarked_selectList`, `Sql.unmarked_joinClause`, `Sql.unmarked_orderClause`,
  `Sql.unmarked_limitClause`: the clauses of a query
* `Sql.unmarked_columnDefinition`, `Sql.unmarked_references`, `Sql.unmarked_tableElements`:
  the clauses of a table
-/

namespace ParamSql

open Sql

/-- A written number has no placeholder. -/
theorem Decimal.AllNumeral.unmarked {text : String} (h : Decimal.AllNumeral text) :
    Unmarked text := by
  intro hc
  have hmark : isNumeral '?' = true := allNumeral_iff.mp h '?' hc
  cases hmark

theorem SelectColumn.unmarked_sql {c : SelectColumn} (h : ∀ s ∈ c.strings, Unmarked s) :
    Unmarked c.sql := by
  cases c with
  | raw expr => exact h expr (by simp [strings])
  | ref c =>
    have hq : Unmarked (qualified c.table c.column) :=
      Leaf.unmarked_qualified (fun t ht => h t (by simp_all [strings])) (h _ (by simp [strings]))
    rw [sql, unmarked_append]
    refine ⟨hq, ?_⟩
    cases hl : c.label with
    | none => decide
    | some a => exact unmarked_append.mpr ⟨by decide, h a (by simp [strings, hl])⟩

theorem OrderTerm.unmarked_sql {t : OrderTerm} (h : ∀ s ∈ t.strings, Unmarked s) :
    Unmarked t.sql := by
  have hq : Unmarked (qualified t.table t.column) :=
    Leaf.unmarked_qualified (fun u hu => h u (by simp_all [strings])) (h _ (by simp [strings]))
  rw [sql, unmarked_append, unmarked_append]
  refine ⟨⟨hq, by decide⟩, ?_⟩
  split <;> decide

theorem InnerJoin.unmarked_sql {j : InnerJoin} (h : ∀ s ∈ j.strings, Unmarked s) :
    Unmarked j.sql := by
  simp only [strings, List.forall_mem_cons] at h
  obtain ⟨hthis, hother, hcolumn, -⟩ := h
  delta sql
  simp only [unmarked_append, hthis, hother, hcolumn, and_true]
  decide

namespace Sql

/-! ## Queries -/

theorem unmarked_selectList {columns : List SelectColumn}
    (h : ∀ s ∈ columns.flatMap (·.strings), Unmarked s) : Unmarked (selectList columns) := by
  refine unmarked_intercalate (by decide) fun t ht => ?_
  obtain ⟨c, hc, rfl⟩ := List.mem_map.mp ht
  exact SelectColumn.unmarked_sql (List.forall_mem_flatMap.mp h c hc)

theorem unmarked_joinClause {joins : List InnerJoin}
    (h : ∀ s ∈ joins.flatMap (·.strings), Unmarked s) : Unmarked (joinClause joins) := by
  refine unmarked_intercalate (by decide) fun t ht => ?_
  obtain ⟨j, hj, rfl⟩ := List.mem_map.mp ht
  exact InnerJoin.unmarked_sql (List.forall_mem_flatMap.mp h j hj)

theorem unmarked_orderClause {terms : List OrderTerm}
    (h : ∀ s ∈ terms.flatMap (·.strings), Unmarked s) : Unmarked (orderClause terms) := by
  unfold orderClause
  split
  · decide
  · refine unmarked_append.mpr ⟨by decide, unmarked_intercalate (by decide) fun t ht => ?_⟩
    obtain ⟨o, ho, rfl⟩ := List.mem_map.mp ht
    exact OrderTerm.unmarked_sql (List.forall_mem_flatMap.mp h o ho)

theorem unmarked_limitClause (limit offset : Option UInt64) :
    Unmarked (limitClause limit offset) := by
  have hn : ∀ n : Nat, Unmarked (toString n) := fun n => (Decimal.allNumeral_natural n).unmarked
  cases limit with
  | none => exact (by decide : Unmarked "")
  | some n =>
    have hl : Unmarked ("LIMIT " ++ toString n.toNat) := unmarked_append.mpr ⟨by decide, hn _⟩
    cases offset with
    | none => exact hl
    | some m =>
      exact unmarked_append.mpr ⟨unmarked_append.mpr ⟨hl, by decide⟩, hn _⟩

/-! ## Tables -/

theorem unmarked_text {d : DefaultValue} (h : ∀ s ∈ d.strings, Unmarked s) :
    Unmarked d.text := by
  cases d with
  | integer n => exact (Decimal.allNumeral_integer _).unmarked
  | real x => exact (Decimal.allNumeral_positional x).unmarked
  | expr sql => exact h sql (by simp [DefaultValue.strings])

theorem unmarked_columnModifiers {o : ColumnOptions}
    (h : ∀ s ∈ o.default.toList.flatMap (·.strings), Unmarked s) :
    Unmarked (columnModifiers o) := by
  have hflag : ∀ (b : Bool) (word : String), Unmarked word →
      Unmarked (if b then word else "") := by
    intro b word hw
    cases b
    · exact (by decide : Unmarked "")
    · exact hw
  rw [columnModifiers, unmarked_append, unmarked_append]
  refine ⟨⟨hflag _ _ (by decide), hflag _ _ (by decide)⟩, ?_⟩
  cases hd : o.default with
  | none => decide
  | some d =>
    refine unmarked_append.mpr ⟨by decide, unmarked_text fun s hs => h s ?_⟩
    simpa [hd] using hs

theorem unmarked_columnDefinition {c : ColumnDef} (h : ∀ s ∈ c.strings, Unmarked s) :
    Unmarked (columnDefinition c) := by
  simp only [ColumnDef.strings, List.forall_mem_cons, List.forall_mem_append] at h
  obtain ⟨hname, hdefault, -⟩ := h
  have htype : Unmarked c.type.word := by cases c.type <;> decide
  simp only [columnDefinition, unmarked_append]
  exact ⟨⟨⟨hname, by decide⟩, htype⟩, unmarked_columnModifiers hdefault⟩

theorem unmarked_references {f : ForeignKey} (h : ∀ s ∈ f.strings, Unmarked s) :
    Unmarked (references f) := by
  simp only [ForeignKey.strings, List.forall_mem_cons] at h
  obtain ⟨htable, hcolumn, hoptions⟩ := h
  delta references
  simp only [unmarked_append, htable, hcolumn, and_true]
  refine ⟨by decide, ?_⟩
  split
  · decide
  · exact unmarked_append.mpr ⟨by decide, unmarked_intercalate (by decide) hoptions⟩

theorem unmarked_primaryKeyClause {columns : List ColumnDef}
    (h : ∀ s ∈ columns.flatMap (·.strings), Unmarked s) :
    ∀ t ∈ primaryKeyClause? columns, Unmarked t := by
  intro t ht
  simp only [primaryKeyClause?, Option.mem_def] at ht
  split at ht
  · cases ht
  · obtain rfl := Option.some.inj ht
    simp only [unmarked_append]
    refine ⟨⟨by decide, unmarked_intercalate (by decide) fun u hu => ?_⟩, by decide⟩
    obtain ⟨c, hc, rfl⟩ := List.mem_map.mp hu
    exact List.forall_mem_flatMap.mp h c (List.mem_filter.mp hc).1 _
      (by simp [ColumnDef.strings])

theorem unmarked_tableElements {columns : List ColumnDef}
    (h : ∀ s ∈ columns.flatMap (·.strings), Unmarked s) : Unmarked (tableElements columns) := by
  have hc : ∀ c ∈ columns, ∀ s ∈ c.strings, Unmarked s := List.forall_mem_flatMap.mp h
  refine unmarked_intercalate (by decide) fun t ht => ?_
  rcases List.mem_append.mp ht with ht | ht
  · rcases List.mem_append.mp ht with ht | ht
    · obtain ⟨c, hm, rfl⟩ := List.mem_map.mp ht
      exact unmarked_columnDefinition (hc c hm)
    · exact unmarked_primaryKeyClause h t (by simpa using ht)
  · obtain ⟨c, hm, hf⟩ := List.mem_filterMap.mp ht
    obtain ⟨f, hcf, rfl⟩ := Option.map_eq_some_iff.mp hf
    have hs := hc c hm
    simp only [ColumnDef.strings, hcf, List.forall_mem_cons, List.forall_mem_append] at hs
    delta foreignKeyClause
    simp only [unmarked_append]
    exact ⟨⟨⟨by decide, hs.1⟩, by decide⟩, unmarked_references (by simpa using hs.2.2)⟩

end Sql

end ParamSql
