import ParamSql.Proofs.Placeholder.Clause
import ParamSql.Sql.Statement

/-!
# The placeholders of a statement

A statement is written by one function and its values are counted by another.  They agree on
every statement whose own strings have no question mark: the text has as many placeholders as
values are counted, and those of an update are first those of its assignments and then those
of its filter.

## Main definitions

* `Assignment.lead`: an assignment up to its placeholder
* `Statement.leads`: what stands in front of each placeholder of a statement

## Main results

* `Statement.binds_sql`: a statement binds at its leads
* `Statement.length_leads`: there are as many leads as counted values
* `Statement.placeholders_sql`: the count is right, and an update binds in the order
  assignments, filter
-/

namespace ParamSql

open Sql

/-! ## Leads -/

namespace Assignment

/-- The assignment up to its placeholder. -/
def lead : Assignment → String
  | set c => c ++ "="
  | adjust c none => c ++ "="
  | adjust c (some a) => c ++ "=" ++ c ++ a.symbol

theorem sql_eq_lead (a : Assignment) : a.sql = a.lead ++ "?" := by
  apply String.toList_inj.mp
  rcases a with c | ⟨c, _ | a⟩ <;> simp [sql, lead]

theorem unmarked_lead {a : Assignment} (h : Unmarked a.column) : Unmarked a.lead := by
  rcases a with c | ⟨c, _ | a⟩
  · exact unmarked_append.mpr ⟨h, by decide⟩
  · exact unmarked_append.mpr ⟨h, by decide⟩
  · have ha : Unmarked a.symbol := by cases a <;> decide
    exact unmarked_append.mpr
      ⟨unmarked_append.mpr ⟨unmarked_append.mpr ⟨h, by decide⟩, h⟩, ha⟩

/-- An assignment binds one value, behind its lead. -/
theorem binds_sql {a : Assignment} (h : Unmarked a.column) : Binds [a.lead] a.sql := by
  rw [sql_eq_lead]
  exact Binds.mark (unmarked_lead h)

end Assignment

/-- What stands in front of each placeholder of a predicate. -/
def Predicate.leads (p : Predicate) : List String := p.nodes.map (·.leaf.lead)

theorem Predicate.leads_eq_map_leaves (p : Predicate) : p.leads = p.leaves.map (·.lead) := by
  rw [← map_leaf_nodes, List.map_map]
  rfl

theorem Predicate.length_leads (p : Predicate) : p.leads.length = p.placeholderCount := by
  rw [leads, List.length_map, length_nodes]

namespace Statement

/-- The leads of a filter that nothing stands in for. -/
def bareFilterLeads (filter : Option Predicate) : List String :=
  filter.toList.flatMap (·.leads)

/-- The leads of a filter that may be left out. -/
def filterLeads (filter : Option Predicate) : List String :=
  (filter.getD Predicate.byDefault).leads

/-- What stands in front of each placeholder of a statement.  The values of a new row stand
behind commas, which say nothing. -/
def leads : Statement → List String
  | select _ _ o => bareFilterLeads o.filter
  | insert _ columns => columns.map fun _ => ""
  | update _ columns filter => columns.map (·.lead) ++ filterLeads filter
  | delete _ filter => filterLeads filter
  | .exists _ filter => filterLeads filter
  | createTable .. => []
  | alterTable .. => []
  | dropTable .. => []
  | createView _ _ _ o _ => bareFilterLeads o.filter
  | dropView .. => []
  | createIndex _ _ _ _ filter => bareFilterLeads filter
  | dropIndex .. => []

theorem length_bareFilterLeads (filter : Option Predicate) :
    (bareFilterLeads filter).length = bareFilterCount filter := by
  cases filter with
  | none => rfl
  | some p => simp [bareFilterLeads, bareFilterCount, Predicate.length_leads]

theorem length_filterLeads (filter : Option Predicate) :
    (filterLeads filter).length = filterCount filter := by
  cases filter with
  | none => rfl
  | some p => exact p.length_leads

/-- As many leads as counted values. -/
theorem length_leads (s : Statement) : s.leads.length = s.placeholderCount := by
  cases s <;>
    simp [leads, placeholderCount, length_bareFilterLeads, length_filterLeads]

end Statement

/-! ## Queries -/

namespace Sql

/-- A clause that is there binds behind its space, and one that is not binds nothing. -/
theorem Binds.clause {leads : List String} {clause : String} (h : Binds leads clause) :
    Binds leads (if clause = "" then "" else " " ++ clause) := by
  split
  · next he => rwa [he] at h
  · exact h.behind (by decide)

/-- A condition that is there, with or without text around it. -/
theorem binds_bareFilter {filter : Option Predicate}
    (h : ∀ s ∈ filter.toList.flatMap (·.names), Unmarked s) :
    Binds (Statement.bareFilterLeads filter) ((filter.map (·.whereClause)).getD "") := by
  cases filter with
  | none => exact Binds.nil_iff.mpr (by decide : Unmarked "")
  | some p =>
    simpa [Statement.bareFilterLeads, Predicate.leads_eq_map_leaves] using
      p.binds_whereClause (by simpa using h)

theorem binds_whereOrDefault {filter : Option Predicate}
    (h : ∀ s ∈ filter.toList.flatMap (·.names), Unmarked s) :
    Binds (Statement.filterLeads filter) (whereOrDefault filter) := by
  cases filter with
  | none =>
    have hd := Predicate.byDefault.binds_whereClause (by decide)
    rwa [← Predicate.leads_eq_map_leaves] at hd
  | some p =>
    have hp := p.binds_whereClause (by simpa using h)
    rwa [← Predicate.leads_eq_map_leaves] at hp

theorem binds_select {table : String} {columns : List SelectColumn} {o : SelectOptions}
    (ht : Unmarked table) (hc : ∀ s ∈ columns.flatMap (·.strings), Unmarked s)
    (ho : ∀ s ∈ o.strings, Unmarked s) :
    Binds (Statement.bareFilterLeads o.filter) (select table columns o) := by
  simp only [SelectOptions.strings, List.forall_mem_append] at ho
  obtain ⟨⟨hj, hf⟩, hb⟩ := ho
  have hdistinct : Unmarked (if o.distinct then "DISTINCT " else "") := by split <;> decide
  -- of the four clauses only the second one binds
  have hclauses : Binds (Statement.bareFilterLeads o.filter)
      (spaced [joinClause o.innerJoins, (o.filter.map (·.whereClause)).getD "",
        orderClause o.orderBy, limitClause o.limit o.offset]) := by
    have hj' := (Binds.nil_iff.mpr (unmarked_joinClause hj)).clause
    have hf' := (binds_bareFilter hf).clause
    have hb' := (Binds.nil_iff.mpr (unmarked_orderClause hb)).clause
    have hl' := (Binds.nil_iff.mpr (unmarked_limitClause o.limit o.offset)).clause
    have hend : Binds [] (spaced []) := Binds.nil_iff.mpr (by decide)
    simp only [spaced_cons]
    simpa using hj'.append (hf'.append (hb'.append (hl'.append hend)))
  refine (Binds.behind ?_ hclauses).before (by decide)
  simp only [unmarked_append]
  exact ⟨⟨⟨⟨by decide, hdistinct⟩, unmarked_selectList hc⟩, by decide⟩, ht⟩

/-! ## Rows -/

theorem binds_insert {table : String} {columns : List String} (ht : Unmarked table)
    (hc : ∀ c ∈ columns, Unmarked c) :
    Binds (columns.map fun _ => "") (insert table columns) := by
  -- a question mark completes the empty text in front of it
  have hvalues : Binds (columns.flatMap fun _ => [""])
      (String.intercalate "," (columns.map fun _ => "?")) :=
    Binds.intercalate (by decide) columns fun _ _ => Binds.mark (by decide : Unmarked "")
  rw [← List.map_eq_flatMap] at hvalues
  refine (hvalues.behind ?_).before (by decide)
  simp only [unmarked_append]
  exact ⟨⟨⟨⟨by decide, ht⟩, by decide⟩, unmarked_intercalate (by decide) hc⟩, by decide⟩

/-- The part of an update in front of its condition binds at the assignments. -/
theorem binds_assignments {table : String} {columns : List Assignment} (ht : Unmarked table)
    (hc : ∀ c ∈ columns.map (·.column), Unmarked c) :
    Binds (columns.map (·.lead))
      ("UPDATE " ++ table ++ " SET " ++ String.intercalate "," (columns.map (·.sql))) := by
  have hset : Binds (columns.flatMap fun a => [a.lead])
      (String.intercalate "," (columns.map (·.sql))) :=
    Binds.intercalate (by decide) columns fun a ha =>
      Assignment.binds_sql (hc _ (List.mem_map_of_mem ha))
  rw [← List.map_eq_flatMap] at hset
  refine hset.behind ?_
  simp only [unmarked_append]
  exact ⟨⟨by decide, ht⟩, by decide⟩

/-- The condition of a statement, with the space in front and the semicolon behind it. -/
theorem binds_condition {filter : Option Predicate}
    (h : ∀ s ∈ filter.toList.flatMap (·.names), Unmarked s) :
    Binds (Statement.filterLeads filter) (" " ++ whereOrDefault filter ++ ";") :=
  ((binds_whereOrDefault h).behind (by decide)).before (by decide)

theorem update_eq_append (table : String) (columns : List Assignment)
    (filter : Option Predicate) :
    update table columns filter =
      ("UPDATE " ++ table ++ " SET " ++ String.intercalate "," (columns.map (·.sql))) ++
        (" " ++ whereOrDefault filter ++ ";") := by
  delta update
  simp only [String.append_assoc]

theorem binds_delete {table : String} {filter : Option Predicate} (ht : Unmarked table)
    (hf : ∀ s ∈ filter.toList.flatMap (·.names), Unmarked s) :
    Binds (Statement.filterLeads filter) (delete table filter) := by
  refine ((binds_whereOrDefault hf).behind ?_).before (by decide)
  simp only [unmarked_append]
  exact ⟨⟨by decide, ht⟩, by decide⟩

theorem binds_probe {table : String} {filter : Option Predicate} (ht : Unmarked table)
    (hf : ∀ s ∈ filter.toList.flatMap (·.names), Unmarked s) :
    Binds (Statement.filterLeads filter) (probe table filter) := by
  refine ((((binds_whereOrDefault hf).behind ?_).before (by decide)).before
    (by decide : Unmarked probeColumn)).before (by decide)
  simp only [unmarked_append]
  exact ⟨⟨by decide, ht⟩, by decide⟩

/-! ## Objects -/

theorem unmarked_unlessExists (flag : Bool) : Unmarked (unlessExists flag) := by
  cases flag <;> decide

theorem unmarked_createTable {table : String} {columns : List ColumnDef} {flag : Bool}
    (ht : Unmarked table) (hc : ∀ s ∈ columns.flatMap (·.strings), Unmarked s) :
    Unmarked (createTable table columns flag) := by
  delta createTable
  simp only [unmarked_append, ht, unmarked_tableElements hc, unmarked_unlessExists, and_true]
  decide

theorem unmarked_alteration {a : Alteration} (h : ∀ s ∈ a.strings, Unmarked s) :
    Unmarked (alteration a) := by
  cases a with
  | addColumn new =>
    have hd : Unmarked ("ADD COLUMN " ++ columnDefinition new.column) :=
      unmarked_append.mpr ⟨by decide, unmarked_columnDefinition h⟩
    refine unmarked_append.mpr ⟨hd, ?_⟩
    cases hf : new.column.foreign with
    | none => exact (by decide : Unmarked "")
    | some f =>
      refine unmarked_append.mpr ⟨by decide, unmarked_references fun s hs => h s ?_⟩
      simp [Alteration.strings, ColumnDef.strings, hf, hs]
  | dropColumn name =>
    exact unmarked_append.mpr ⟨by decide, h name (by simp [Alteration.strings])⟩
  | renameTable name =>
    exact unmarked_append.mpr ⟨by decide, h name (by simp [Alteration.strings])⟩
  | renameColumn source target =>
    have hs : Unmarked ("RENAME COLUMN " ++ source) :=
      unmarked_append.mpr ⟨by decide, h source (by simp [Alteration.strings])⟩
    have ht : Unmarked target := h target (by simp [Alteration.strings])
    exact unmarked_append.mpr ⟨unmarked_append.mpr ⟨hs, by decide⟩, ht⟩

theorem unmarked_alterTable {table : String} {a : Alteration} (ht : Unmarked table)
    (ha : ∀ s ∈ a.strings, Unmarked s) : Unmarked (alterTable table a) := by
  delta alterTable
  simp only [unmarked_append, ht, unmarked_alteration ha, and_true]
  decide

theorem binds_createView {view table : String} {columns : List SelectColumn}
    {o : SelectOptions} {flag : Bool} (hv : Unmarked view) (ht : Unmarked table)
    (hc : ∀ s ∈ columns.flatMap (·.strings), Unmarked s) (ho : ∀ s ∈ o.strings, Unmarked s) :
    Binds (Statement.bareFilterLeads o.filter) (createView view table columns o flag) := by
  refine (binds_select ht hc ho).behind ?_
  simp only [unmarked_append, hv, unmarked_unlessExists, and_true]
  decide

theorem binds_createIndex {index table : String} {columns : List String} {flag : Bool}
    {filter : Option Predicate} (hi : Unmarked index) (ht : Unmarked table)
    (hc : ∀ c ∈ columns, Unmarked c)
    (hf : ∀ s ∈ filter.toList.flatMap (·.names), Unmarked s) :
    Binds (Statement.bareFilterLeads filter) (createIndex index table columns flag filter) := by
  have hhead : Unmarked ("CREATE INDEX " ++ unlessExists flag ++ index ++ " ON " ++ table ++
      " (" ++ String.intercalate "," columns ++ ")") := by
    have hj : Unmarked (String.intercalate "," columns) := unmarked_intercalate (by decide) hc
    simp only [unmarked_append, hi, ht, hj, unmarked_unlessExists, and_true]
    decide
  refine (Binds.behind hhead ?_).before (by decide)
  have hb := binds_bareFilter hf
  cases filter with
  | none => exact hb
  | some p => exact hb.behind (by decide)

theorem unmarked_drop {kind name : String} {flag : Bool} (hk : Unmarked kind)
    (hn : Unmarked name) : Unmarked (drop kind name flag) := by
  have hflag : Unmarked (if flag then "IF EXISTS " else "") := by cases flag <;> decide
  delta drop
  simp only [unmarked_append, hk, hn, hflag, and_true]
  decide

end Sql

/-! ## Statements -/

namespace Statement

/-- **A statement binds at its leads**, whatever its kind. -/
theorem binds_sql (s : Statement) (h : ∀ t ∈ s.strings, Unmarked t) : Binds s.leads s.sql := by
  cases s <;> simp only [strings, List.forall_mem_cons, List.forall_mem_append] at h
  case select table columns o => exact binds_select h.1 h.2.1 h.2.2
  case insert table columns => exact binds_insert h.1 h.2
  case update table columns filter =>
    show Binds _ (Sql.update table columns filter)
    rw [update_eq_append]
    exact (binds_assignments h.1 h.2.1).append (binds_condition h.2.2)
  case delete table filter => exact binds_delete h.1 h.2
  case «exists» table filter => exact binds_probe h.1 h.2
  case createTable table columns flag => exact Binds.nil_iff.mpr (unmarked_createTable h.1 h.2)
  case alterTable table alter => exact Binds.nil_iff.mpr (unmarked_alterTable h.1 h.2)
  case dropTable table flag => exact Binds.nil_iff.mpr (unmarked_drop (by decide) h.1)
  case createView view table columns o flag =>
    exact binds_createView h.1 h.2.1 h.2.2.1 h.2.2.2
  case dropView view flag => exact Binds.nil_iff.mpr (unmarked_drop (by decide) h.1)
  case createIndex index table columns flag filter =>
    exact binds_createIndex h.1 h.2.1 h.2.2.1 h.2.2.2
  case dropIndex index flag => exact Binds.nil_iff.mpr (unmarked_drop (by decide) h.1)

/-- **The count of values is right, and an update binds its assignments first.**  A statement
of any kind has as many placeholders as it counts values.  The text of an update is cut behind
its assignments: the placeholders before the cut are theirs, in the order of the columns, and
those behind it are those of the filter's nodes, in the order of the columns to bind.  Without
a filter the one placeholder there is that of `id=?`. -/
theorem placeholders_sql (s : Statement) (h : ∀ t ∈ s.strings, Unmarked t) :
    s.sql.toList.count '?' = s.placeholderCount ∧
      ∀ table columns filter, s = update table columns filter →
        ∃ assignments condition f, s.sql = assignments ++ condition ∧
          assignments =
            "UPDATE " ++ table ++ " SET " ++ String.intercalate "," (columns.map (·.sql)) ∧
          f = filter.getD Predicate.byDefault ∧
          condition = " " ++ f.whereClause ++ ";" ∧
          Binds (columns.map (·.lead)) assignments ∧
          Binds (f.nodes.map (·.leaf.lead)) condition ∧
          f.placeholderColumns = f.nodes.map (·.leaf.column) ∧
          (filter = none → f.nodes.map (·.leaf.lead) = ["id="]) := by
  refine ⟨by rw [(s.binds_sql h).count_eq, s.length_leads], ?_⟩
  rintro table columns filter rfl
  simp only [strings, List.forall_mem_cons, List.forall_mem_append] at h
  obtain ⟨htable, hcolumns, hfilter⟩ := h
  refine ⟨_, _, _, update_eq_append table columns filter, rfl, rfl, rfl,
    binds_assignments htable hcolumns, binds_condition hfilter, ?_, ?_⟩
  · rw [Predicate.placeholderColumns, ← Predicate.map_leaf_nodes, List.map_map]
    rfl
  · rintro rfl
    decide

theorem placeholders_sql_adjusted :
    let filter := (Predicate.compare "a" .ge).or ((Predicate.ofColumn "b").inTable "t")
    let s := update "t" [.increment "n", .set "a"] (some filter)
    (∀ t ∈ s.strings, Unmarked t) ∧ s.sql.toList.count '?' = 4 ∧
      ∃ assignments condition, s.sql = assignments ++ condition ∧
        Binds ["n=n+", "a="] assignments ∧ Binds ["a>=", "t.b="] condition := by
  intro filter s
  have hs : ∀ t ∈ s.strings, Unmarked t := by decide
  obtain ⟨hcount, hupdate⟩ := placeholders_sql s hs
  obtain ⟨assignments, condition, f, hsql, -, rfl, -, hset, hwhere, -, -⟩ :=
    hupdate "t" [.increment "n", .set "a"] (some filter) rfl
  exact ⟨hs, hcount, assignments, condition, hsql, hset, hwhere⟩

end Statement

end ParamSql
