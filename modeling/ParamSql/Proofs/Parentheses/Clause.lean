import ParamSql.Proofs.Decimal.Numeral
import ParamSql.Proofs.Expression.Safety
import ParamSql.Proofs.Vocabulary
import ParamSql.Sql.Clause

/-!
# Clauses within a statement

A clause stands within one statement: it does not end the statement, and it closes the
parentheses that it opens.  Fixed words and written numbers do neither, so this holds of every
clause whose strings are like that.

## Main definitions

* `Sql.Fragment text`: the text has balanced parentheses and no semicolon

## Main results

* `Sql.Fragment.append`, `Sql.Fragment.intercalate`, `Sql.Fragment.enclosed`: fragments behind
  each other and in parentheses
* `Sql.fragment_selectList`, `Sql.fragment_joinClause`, `Sql.fragment_orderClause`,
  `Sql.fragment_limitClause`: the clauses of a query
* `Sql.fragment_columnDefinition`, `Sql.fragment_references`, `Sql.fragment_tableElements`: the
  clauses of a table
-/

namespace ParamSql

namespace Sql

/-- The text can stand within a statement. -/
structure Fragment (text : String) : Prop where
  balanced : Balanced text
  /-- the text does not end the statement -/
  unended : ';' ∉ text.toList

namespace Fragment

variable {s t : String}

/-- Words have neither parentheses nor a semicolon. -/
theorem word (h : '(' ∉ t.toList ∧ ')' ∉ t.toList ∧ ';' ∉ t.toList) : Fragment t where
  balanced := .of_not_mem h.1 h.2.1
  unended := h.2.2

theorem append (hs : Fragment s) (ht : Fragment t) : Fragment (s ++ t) where
  balanced := hs.balanced.append ht.balanced
  unended := by
    rw [String.toList_append, List.mem_append]
    exact not_or_intro hs.unended ht.unended

theorem intercalate (hs : Fragment s) :
    ∀ {texts : List String}, (∀ t ∈ texts, Fragment t) → Fragment (String.intercalate s texts)
  | [], _ => word (by simp)
  | [t], h => by simpa using h t (by simp)
  | t :: u :: texts, h => by
    rw [String.intercalate_cons_cons]
    exact ((h t (by simp)).append hs).append (intercalate hs fun v hv => h v (by simp [hv]))

theorem enclosed (ht : Fragment t) : Fragment ("(" ++ t ++ ")") where
  balanced := ht.balanced.enclosed
  unended := by
    have hinner := ht.unended
    simp [hinner]

/-- Words with an opening parenthesis behind them, and what is closed again. -/
theorem opened (hs : Fragment s) (ht : Fragment t) : Fragment (s ++ " (" ++ t ++ ")") := by
  have hopen : " (" = " " ++ "(" := rfl
  have htext : s ++ " (" ++ t ++ ")" = s ++ " " ++ ("(" ++ t ++ ")") := by
    simp only [hopen, String.append_assoc]
  rw [htext]
  exact (hs.append (word (by decide))).append ht.enclosed

/-- A word that is there only under a condition. -/
theorem flag (b : Bool) (ht : Fragment t) : Fragment (if b then t else "") := by
  cases b
  · exact word (by simp)
  · exact ht

end Fragment

end Sql

open Sql

/-- A written number stands within a statement. -/
theorem Decimal.AllNumeral.fragment {text : String} (h : Decimal.AllNumeral text) :
    Fragment text := by
  have hother : ∀ c, isNumeral c = false → c ∉ text.toList := by
    intro c hc hmem
    rw [allNumeral_iff.mp h c hmem] at hc
    cases hc
  exact .word ⟨hother '(' (by decide), hother ')' (by decide), hother ';' (by decide)⟩

/-! ## Conditions -/

theorem Leaf.fragment_qualified {table : Option String} {column : String}
    (ht : ∀ t ∈ table, Fragment t) (hc : Fragment column) :
    Fragment (qualified table column) := by
  cases table with
  | none => exact hc
  | some t => exact ((ht t rfl).append (.word (by decide))).append hc

theorem Predicate.fragment_whereClause (p : Predicate) (h : ∀ name ∈ p.names, Fragment name) :
    Fragment p.whereClause where
  balanced := p.balanced_whereClause fun name hname => (h name hname).balanced
  unended := p.spelled_whereClause.not_mem (fun name hname => (h name hname).unended) (by decide)

/-! ## Queries -/

theorem SelectColumn.fragment_sql {c : SelectColumn} (h : ∀ s ∈ c.strings, Fragment s) :
    Fragment c.sql := by
  cases c with
  | raw expr => exact h expr (by simp [strings])
  | ref c =>
    have hq : Fragment (qualified c.table c.column) :=
      Leaf.fragment_qualified (fun t ht => h t (by simp_all [strings])) (h _ (by simp [strings]))
    refine hq.append ?_
    cases hl : c.label with
    | none => exact .word (by decide)
    | some a => exact (Fragment.word (by decide)).append (h a (by simp [strings, hl]))

theorem OrderTerm.fragment_sql {t : OrderTerm} (h : ∀ s ∈ t.strings, Fragment s) :
    Fragment t.sql := by
  have hq : Fragment (qualified t.table t.column) :=
    Leaf.fragment_qualified (fun u hu => h u (by simp_all [strings])) (h _ (by simp [strings]))
  refine (hq.append (.word (by decide))).append ?_
  split <;> exact .word (by decide)

theorem InnerJoin.fragment_sql {j : InnerJoin} (h : ∀ s ∈ j.strings, Fragment s) :
    Fragment j.sql := by
  simp only [strings, List.forall_mem_cons] at h
  obtain ⟨hthis, hother, hcolumn, -⟩ := h
  have hjoin : Fragment ("INNER JOIN " ++ j.otherTable) := (Fragment.word (by decide)).append hother
  have hon := (hjoin.append (t := " ON ") (.word (by decide))).append hother
  have hdot := (hon.append (t := ".") (.word (by decide))).append hcolumn
  exact (hdot.append (t := "=") (.word (by decide))).append hthis

namespace Sql

/-- The texts of the parts of a list, joined by a separator. -/
theorem fragment_joined {α : Type} {separator : String} {strings : α → List String}
    {text : α → String} {as : List α} (hs : Fragment separator)
    (htext : ∀ {a}, (∀ s ∈ strings a, Fragment s) → Fragment (text a))
    (h : ∀ s ∈ as.flatMap strings, Fragment s) :
    Fragment (String.intercalate separator (as.map text)) := by
  refine .intercalate hs fun t ht => ?_
  obtain ⟨a, ha, rfl⟩ := List.mem_map.mp ht
  exact htext (List.forall_mem_flatMap.mp h a ha)

theorem fragment_selectList {columns : List SelectColumn}
    (h : ∀ s ∈ columns.flatMap (·.strings), Fragment s) : Fragment (selectList columns) :=
  fragment_joined (.word (by decide)) SelectColumn.fragment_sql h

theorem fragment_joinClause {joins : List InnerJoin}
    (h : ∀ s ∈ joins.flatMap (·.strings), Fragment s) : Fragment (joinClause joins) :=
  fragment_joined (.word (by decide)) InnerJoin.fragment_sql h

theorem fragment_orderClause {terms : List OrderTerm}
    (h : ∀ s ∈ terms.flatMap (·.strings), Fragment s) : Fragment (orderClause terms) := by
  unfold orderClause
  split
  · exact .word (by decide)
  · exact (Fragment.word (by decide)).append
      (fragment_joined (.word (by decide)) OrderTerm.fragment_sql h)

theorem fragment_limitClause (limit offset : Option UInt64) :
    Fragment (limitClause limit offset) := by
  have hn : ∀ n : Nat, Fragment (toString n) := fun n => (Decimal.allNumeral_natural n).fragment
  cases limit with
  | none => exact (.word (by decide) : Fragment "")
  | some n =>
    have hl : Fragment ("LIMIT " ++ toString n.toNat) := (Fragment.word (by decide)).append (hn _)
    cases offset with
    | none => exact hl
    | some m => exact (hl.append (.word (by decide))).append (hn _)

/-! ## Tables -/

theorem fragment_text {d : DefaultValue} (h : ∀ s ∈ d.strings, Fragment s) :
    Fragment d.text := by
  cases d with
  | integer n => exact (Decimal.allNumeral_integer _).fragment
  | real x => exact (Decimal.allNumeral_positional x).fragment
  | expr sql => exact h sql (by simp [DefaultValue.strings])

theorem fragment_columnModifiers {o : ColumnOptions}
    (h : ∀ s ∈ o.default.toList.flatMap (·.strings), Fragment s) :
    Fragment (columnModifiers o) := by
  have hunique : Fragment (if o.unique then " UNIQUE" else "") := .flag _ (.word (by decide))
  have hnull : Fragment (if o.notNull then " NOT NULL" else "") := .flag _ (.word (by decide))
  refine (hunique.append hnull).append ?_
  cases hd : o.default with
  | none => exact .word (by decide)
  | some d =>
    refine (Fragment.word (by decide)).append (fragment_text fun s hs => h s ?_)
    simpa [hd] using hs

theorem fragment_columnDefinition {c : ColumnDef} (h : ∀ s ∈ c.strings, Fragment s) :
    Fragment (columnDefinition c) := by
  simp only [ColumnDef.strings, List.forall_mem_cons, List.forall_mem_append] at h
  obtain ⟨hname, hdefault, -⟩ := h
  have htype : Fragment c.type.word := by cases c.type <;> exact .word (by decide)
  exact ((hname.append (.word (by decide))).append htype).append
    (fragment_columnModifiers hdefault)

theorem fragment_references {f : ForeignKey} (h : ∀ s ∈ f.strings, Fragment s) :
    Fragment (references f) := by
  simp only [ForeignKey.strings, List.forall_mem_cons] at h
  obtain ⟨htable, hcolumn, hoptions⟩ := h
  have htarget : Fragment ("REFERENCES " ++ f.table) := (Fragment.word (by decide)).append htable
  refine (htarget.opened hcolumn).append ?_
  split
  · exact .word (by decide)
  · exact (Fragment.word (by decide)).append (.intercalate (.word (by decide)) hoptions)

theorem fragment_foreignKeyClause {column : String} {f : ForeignKey} (hc : Fragment column)
    (h : ∀ s ∈ f.strings, Fragment s) : Fragment (foreignKeyClause column f) := by
  have hkey : Fragment ("FOREIGN KEY" ++ " (" ++ column ++ ")") :=
    (Fragment.word (by decide)).opened hc
  have hspace : Fragment " " := .word (by decide)
  have hclose : ") " = ")" ++ " " := rfl
  rw [foreignKeyClause, hclose, ← String.append_assoc]
  exact (hkey.append hspace).append (fragment_references h)

theorem fragment_primaryKeyClause {columns : List ColumnDef}
    (h : ∀ s ∈ columns.flatMap (·.strings), Fragment s) :
    ∀ t ∈ primaryKeyClause? columns, Fragment t := by
  intro t ht
  simp only [primaryKeyClause?, Option.mem_def] at ht
  split at ht
  · cases ht
  · obtain rfl := Option.some.inj ht
    refine (Fragment.word (t := "PRIMARY KEY") (by decide)).opened
      (.intercalate (.word (by decide)) fun u hu => ?_)
    obtain ⟨c, hc, rfl⟩ := List.mem_map.mp hu
    exact List.forall_mem_flatMap.mp h c (List.mem_filter.mp hc).1 _ (by simp [ColumnDef.strings])

theorem fragment_tableElements {columns : List ColumnDef}
    (h : ∀ s ∈ columns.flatMap (·.strings), Fragment s) : Fragment (tableElements columns) := by
  have hc : ∀ c ∈ columns, ∀ s ∈ c.strings, Fragment s := List.forall_mem_flatMap.mp h
  refine .intercalate (.word (by decide)) fun t ht => ?_
  rcases List.mem_append.mp ht with ht | ht
  · rcases List.mem_append.mp ht with ht | ht
    · obtain ⟨c, hm, rfl⟩ := List.mem_map.mp ht
      exact fragment_columnDefinition (hc c hm)
    · exact fragment_primaryKeyClause h t (by simpa using ht)
  · obtain ⟨c, hm, hf⟩ := List.mem_filterMap.mp ht
    obtain ⟨f, hcf, rfl⟩ := Option.map_eq_some_iff.mp hf
    have hs := hc c hm
    simp only [ColumnDef.strings, hcf, List.forall_mem_cons, List.forall_mem_append] at hs
    exact fragment_foreignKeyClause hs.1 (by simpa using hs.2.2)

end Sql

end ParamSql
