import ParamSql.Executor
import ParamSql.Proofs.Legible.Statement
import ParamSql.Proofs.Parentheses.Clause

/-!
# One text is one statement

The text of a statement is ended once, at its end, and its parentheses are balanced.  A view
takes the semicolon of its query for its own, and a probe has its inner query in parentheses
without one.  What a text begins with tells whether it yields rows.

## Main definitions

* `Sql.Ended text`: the text is a fragment with the semicolon that ends it

## Main results

* `Statement.ended_sql`: statements of all kinds
* `Statement.select_prefix_iff`: which texts begin with `SELECT`
* `Statement.sql_is_one_statement`: both, and what an executor is asked for
-/

namespace ParamSql

namespace Sql

/-! ## Texts that are ended -/

/-- The text is one whole statement: it is ended once, and before that it is a fragment. -/
def Ended (text : String) : Prop := ∃ body, Fragment body ∧ text = body ++ ";"

theorem Fragment.ended {body : String} (h : Fragment body) : Ended (body ++ ";") := ⟨body, h, rfl⟩

namespace Ended

variable {s t : String}

/-- What stands in front of a whole statement becomes part of it. -/
theorem behind (hs : Fragment s) (ht : Ended t) : Ended (s ++ t) := by
  obtain ⟨body, hbody, rfl⟩ := ht
  exact ⟨s ++ body, hs.append hbody, by rw [String.append_assoc]⟩

theorem count_eq (h : Ended t) : t.toList.count ';' = 1 := by
  obtain ⟨body, hbody, rfl⟩ := h
  rw [String.toList_append, List.count_append, List.count_eq_zero.mpr hbody.unended]
  rfl

theorem getLast?_eq (h : Ended t) : t.toList.getLast? = some ';' := by
  obtain ⟨body, -, rfl⟩ := h
  rw [String.toList_append]
  exact List.getLast?_concat

theorem balanced (h : Ended t) : Balanced t := by
  obtain ⟨body, hbody, rfl⟩ := h
  exact hbody.balanced.append (.of_not_mem (by decide) (by decide))

end Ended

/-! ## Queries -/

theorem fragment_clause {clause : String} (h : Fragment clause) :
    Fragment (if clause = "" then "" else " " ++ clause) := by
  split
  · exact .word (by decide)
  · exact (Fragment.word (by decide)).append h

theorem fragment_bareFilter {filter : Option Predicate}
    (h : ∀ s ∈ filter.toList.flatMap (·.names), Fragment s) :
    Fragment ((filter.map (·.whereClause)).getD "") := by
  cases filter with
  | none => exact (.word (by decide) : Fragment "")
  | some p => exact p.fragment_whereClause (by simpa using h)

theorem fragment_whereOrDefault {filter : Option Predicate}
    (h : ∀ s ∈ filter.toList.flatMap (·.names), Fragment s) :
    Fragment (whereOrDefault filter) := by
  cases filter with
  | none =>
    have hnames : ∀ name ∈ Predicate.byDefault.names, name = "id" := by decide
    refine Predicate.byDefault.fragment_whereClause fun name hname => ?_
    rw [hnames name hname]
    exact .word (by decide)
  | some p => exact p.fragment_whereClause (by simpa using h)

theorem ended_select {table : String} {columns : List SelectColumn} {o : SelectOptions}
    (ht : Fragment table) (hc : ∀ s ∈ columns.flatMap (·.strings), Fragment s)
    (ho : ∀ s ∈ o.strings, Fragment s) : Ended (select table columns o) := by
  simp only [SelectOptions.strings, List.forall_mem_append] at ho
  obtain ⟨⟨hjoins, hfilter⟩, horder⟩ := ho
  have hdistinct : Fragment (if o.distinct then "DISTINCT " else "") := .flag _ (.word (by decide))
  have hclauses : Fragment (spaced [joinClause o.innerJoins,
      (o.filter.map (·.whereClause)).getD "", orderClause o.orderBy,
      limitClause o.limit o.offset]) := by
    have hjoins' := fragment_clause (fragment_joinClause hjoins)
    have hfilter' := fragment_clause (fragment_bareFilter hfilter)
    have horder' := fragment_clause (fragment_orderClause horder)
    have hlimit' := fragment_clause (fragment_limitClause o.limit o.offset)
    have hend : Fragment (spaced []) := .word (by decide)
    simp only [spaced_cons]
    exact hjoins'.append (hfilter'.append (horder'.append (hlimit'.append hend)))
  have hhead := (Fragment.word (t := "SELECT ") (by decide)).append hdistinct
  have hfrom := (hhead.append (fragment_selectList hc)).append (t := " FROM ") (.word (by decide))
  exact ((hfrom.append ht).append hclauses).ended

/-! ## Rows -/

theorem ended_insert {table : String} {columns : List String} (ht : Fragment table)
    (hc : ∀ c ∈ columns, Fragment c) : Ended (insert table columns) := by
  have hnames : Fragment (String.intercalate "," columns) := .intercalate (.word (by decide)) hc
  have hmarks : Fragment (String.intercalate "," (columns.map fun _ => "?")) := by
    refine .intercalate (.word (by decide)) fun t hmark => ?_
    obtain ⟨c, -, rfl⟩ := List.mem_map.mp hmark
    exact .word (by decide)
  have htable : Fragment ("INSERT INTO " ++ table) := (Fragment.word (by decide)).append ht
  have hvalues : Fragment " VALUES" := .word (by decide)
  have hmiddle : ") VALUES(" = ")" ++ (" VALUES" ++ "(") := rfl
  have hend : ");" = ")" ++ ";" := rfl
  have htext : insert table columns =
      "INSERT INTO " ++ table ++ ("(" ++ String.intercalate "," columns ++ ")") ++
        (" VALUES" ++ ("(" ++ String.intercalate "," (columns.map fun _ => "?") ++ ")")) ++
          ";" := by
    delta insert
    simp only [hmiddle, hend, String.append_assoc]
  rw [htext]
  exact ((htable.append hnames.enclosed).append (hvalues.append hmarks.enclosed)).ended

theorem fragment_assignment {a : Assignment} (h : Fragment a.column) : Fragment a.sql := by
  have hmark : Fragment (a.column ++ "=?") := h.append (.word (by decide))
  cases a with
  | set c => exact hmark
  | adjust c change =>
    cases change with
    | none => exact hmark
    | some change =>
      have hequal : Fragment (c ++ "=" ++ c) := (h.append (.word (by decide))).append h
      have hsymbol : Fragment change.symbol := by cases change <;> exact .word (by decide)
      exact (hequal.append hsymbol).append (.word (by decide))

theorem ended_update {table : String} {columns : List Assignment} {filter : Option Predicate}
    (ht : Fragment table) (hc : ∀ c ∈ columns.map (·.column), Fragment c)
    (hf : ∀ s ∈ filter.toList.flatMap (·.names), Fragment s) :
    Ended (update table columns filter) := by
  have hset : Fragment (String.intercalate "," (columns.map (·.sql))) :=
    .intercalate (.word (by decide)) (List.forall_mem_map.mpr fun a ha =>
      fragment_assignment (hc _ (List.mem_map_of_mem ha)))
  have htable : Fragment ("UPDATE " ++ table) := (Fragment.word (by decide)).append ht
  have hrows := (htable.append (t := " SET ") (.word (by decide))).append hset
  exact ((hrows.append (t := " ") (.word (by decide))).append (fragment_whereOrDefault hf)).ended

theorem ended_delete {table : String} {filter : Option Predicate} (ht : Fragment table)
    (hf : ∀ s ∈ filter.toList.flatMap (·.names), Fragment s) : Ended (delete table filter) := by
  have htable : Fragment ("DELETE FROM " ++ table) := (Fragment.word (by decide)).append ht
  exact ((htable.append (t := " ") (.word (by decide))).append (fragment_whereOrDefault hf)).ended

/-- The inner query of a probe is in parentheses, and has no semicolon of its own. -/
theorem ended_probe {table : String} {filter : Option Predicate} (ht : Fragment table)
    (hf : ∀ s ∈ filter.toList.flatMap (·.names), Fragment s) : Ended (probe table filter) := by
  have hinner : Fragment ("SELECT 1 FROM " ++ table ++ " " ++ whereOrDefault filter) :=
    (((Fragment.word (by decide)).append ht).append (.word (by decide))).append
      (fragment_whereOrDefault hf)
  have hhead : Fragment "SELECT EXISTS" := .word (by decide)
  have hlabel : Fragment (" AS " ++ probeColumn) := .word (by decide)
  have hopen : "SELECT EXISTS(SELECT 1 FROM " = "SELECT EXISTS" ++ ("(" ++ "SELECT 1 FROM ") := rfl
  have hclose : ") AS " = ")" ++ " AS " := rfl
  have htext : probe table filter =
      "SELECT EXISTS" ++ ("(" ++ ("SELECT 1 FROM " ++ table ++ " " ++ whereOrDefault filter) ++
        ")") ++ (" AS " ++ probeColumn) ++ ";" := by
    delta probe
    simp only [hopen, hclose, String.append_assoc]
  rw [htext]
  exact ((hhead.append hinner.enclosed).append hlabel).ended

/-! ## Objects -/

theorem fragment_unlessExists (flag : Bool) : Fragment (unlessExists flag) :=
  .flag flag (.word (by decide))

theorem ended_createTable {table : String} {columns : List ColumnDef} {flag : Bool}
    (ht : Fragment table) (hc : ∀ s ∈ columns.flatMap (·.strings), Fragment s) :
    Ended (createTable table columns flag) := by
  have hhead := (Fragment.word (t := "CREATE TABLE ") (by decide)).append
    (fragment_unlessExists flag)
  have hbody := ((hhead.append ht).opened (fragment_tableElements hc)).ended
  have hend : ");" = ")" ++ ";" := rfl
  delta createTable
  rwa [hend, ← String.append_assoc]

theorem fragment_alteration {a : Alteration} (h : ∀ s ∈ a.strings, Fragment s) :
    Fragment (alteration a) := by
  cases a with
  | addColumn new =>
    have hd : Fragment ("ADD COLUMN " ++ columnDefinition new.column) :=
      (Fragment.word (by decide)).append (fragment_columnDefinition h)
    refine hd.append ?_
    cases hf : new.column.foreign with
    | none => exact (.word (by decide) : Fragment "")
    | some f =>
      refine (Fragment.word (by decide)).append (fragment_references fun s hs => h s ?_)
      simp [Alteration.strings, ColumnDef.strings, hf, hs]
  | dropColumn name =>
    exact (Fragment.word (by decide)).append (h name (by simp [Alteration.strings]))
  | renameTable name =>
    exact (Fragment.word (by decide)).append (h name (by simp [Alteration.strings]))
  | renameColumn source target =>
    have hs : Fragment ("RENAME COLUMN " ++ source) :=
      (Fragment.word (by decide)).append (h source (by simp [Alteration.strings]))
    exact (hs.append (.word (by decide))).append (h target (by simp [Alteration.strings]))

theorem ended_alterTable {table : String} {a : Alteration} (ht : Fragment table)
    (ha : ∀ s ∈ a.strings, Fragment s) : Ended (alterTable table a) := by
  have htable : Fragment ("ALTER TABLE " ++ table) := (Fragment.word (by decide)).append ht
  exact ((htable.append (t := " ") (.word (by decide))).append (fragment_alteration ha)).ended

/-- A view ends where its query ends. -/
theorem ended_createView {view table : String} {columns : List SelectColumn} {o : SelectOptions}
    {flag : Bool} (hv : Fragment view) (ht : Fragment table)
    (hc : ∀ s ∈ columns.flatMap (·.strings), Fragment s) (ho : ∀ s ∈ o.strings, Fragment s) :
    Ended (createView view table columns o flag) := by
  have hhead := (Fragment.word (t := "CREATE VIEW ") (by decide)).append
    (fragment_unlessExists flag)
  exact .behind ((hhead.append hv).append (.word (by decide))) (ended_select ht hc ho)

theorem ended_createIndex {index table : String} {columns : List String} {flag : Bool}
    {filter : Option Predicate} (hi : Fragment index) (ht : Fragment table)
    (hc : ∀ c ∈ columns, Fragment c)
    (hf : ∀ s ∈ filter.toList.flatMap (·.names), Fragment s) :
    Ended (createIndex index table columns flag filter) := by
  have hnames : Fragment (String.intercalate "," columns) := .intercalate (.word (by decide)) hc
  have hindex := ((Fragment.word (t := "CREATE INDEX ") (by decide)).append
    (fragment_unlessExists flag)).append hi
  have htable := (hindex.append (t := " ON ") (.word (by decide))).append ht
  refine ((htable.opened hnames).append ?_).ended
  have hfilter := fragment_bareFilter hf
  cases filter with
  | none => exact hfilter
  | some p => exact (Fragment.word (by decide)).append hfilter

theorem ended_drop {kind name : String} {flag : Bool} (hk : Fragment kind) (hn : Fragment name) :
    Ended (drop kind name flag) := by
  have hkind : Fragment ("DROP " ++ kind) := (Fragment.word (by decide)).append hk
  have hflag : Fragment (if flag then "IF EXISTS " else "") := .flag flag (.word (by decide))
  exact (((hkind.append (t := " ") (.word (by decide))).append hflag).append hn).ended

end Sql

/-! ## Statements -/

namespace Statement

open Sql (Ended Fragment Balanced)

/-- **A statement of any kind** is ended once, and balanced. -/
theorem ended_sql (s : Statement) (h : ∀ t ∈ s.strings, Fragment t) : Ended s.sql := by
  cases s <;> simp only [strings, List.forall_mem_cons, List.forall_mem_append] at h
  case select table columns o => exact Sql.ended_select h.1 h.2.1 h.2.2
  case insert table columns => exact Sql.ended_insert h.1 h.2
  case update table columns filter => exact Sql.ended_update h.1 h.2.1 h.2.2
  case delete table filter => exact Sql.ended_delete h.1 h.2
  case «exists» table filter => exact Sql.ended_probe h.1 h.2
  case createTable table columns flag => exact Sql.ended_createTable h.1 h.2
  case alterTable table alter => exact Sql.ended_alterTable h.1 h.2
  case dropTable table flag => exact Sql.ended_drop (.word (by decide)) h.1
  case createView view table columns o flag =>
    exact Sql.ended_createView h.1 h.2.1 h.2.2.1 h.2.2.2
  case dropView view flag => exact Sql.ended_drop (.word (by decide)) h.1
  case createIndex index table columns flag filter =>
    exact Sql.ended_createIndex h.1 h.2.1 h.2.2.1 h.2.2.2
  case dropIndex index flag => exact Sql.ended_drop (.word (by decide)) h.1

/-- Queries and probes are the statements that begin with `SELECT`. -/
theorem select_prefix_iff (s : Statement) :
    "SELECT ".toList <+: s.sql.toList ↔ s.isQuery = true := by
  have hquery : s.isQuery = true ↔ s.kind = .select ∨ s.kind = .exists := by
    cases s <;> simp [isQuery, kind]
  rw [hquery]
  constructor
  · intro hselect
    rcases List.prefix_or_prefix_of_prefix hselect s.lead_prefix with hlead | hlead
    · rcases Kind.eq_of_lead_prefix (k := .select) hlead with hkind | ⟨-, hkind⟩
      · exact .inl hkind.symm
      · exact .inr hkind
    · rcases Kind.eq_of_lead_prefix (l := .select) hlead with hkind | ⟨-, hkind⟩
      · exact .inl hkind
      · cases hkind
  · have hlead := s.lead_prefix
    rintro (hkind | hkind) <;> rw [hkind] at hlead
    · exact hlead
    · exact List.IsPrefix.trans (by decide) hlead

/-- **One statement, one text.**  If no string of a statement has a semicolon, and the
parentheses of each are balanced, then the text has one semicolon, at its end, and balanced
parentheses.  The text of any statement begins with `SELECT` exactly if the statement yields
rows, so whatever executor runs it is asked for rows for these texts and for no others. -/
theorem sql_is_one_statement (s : Statement)
    (h : ∀ t ∈ s.strings, ';' ∉ t.toList ∧ Balanced t) :
    s.sql.toList.count ';' = 1 ∧ s.sql.toList.getLast? = some ';' ∧
      (∀ before, before <+: s.sql.toList → before.count ')' ≤ before.count '(') ∧
      s.sql.toList.count ')' = s.sql.toList.count '(' ∧
      ("SELECT ".toList <+: s.sql.toList ↔ s.isQuery = true) ∧
      ∀ (m : Type → Type) [Monad m] (e : Executor m) (params : List Value),
        e.run s params =
          if "SELECT ".toList <+: s.sql.toList then do
            return (← e.fetchAll s.sql params).map .rows
          else do
            return (← e.execute s.sql params).map .done := by
  have hended : Ended s.sql := s.ended_sql fun t ht => ⟨(h t ht).2, (h t ht).1⟩
  refine ⟨hended.count_eq, hended.getLast?_eq, hended.balanced.opened, hended.balanced.closed,
    s.select_prefix_iff, fun m _ e params => ?_⟩
  simp only [select_prefix_iff]
  rfl

/-- A view over a count has a query with its own parentheses and semicolon in it. -/
theorem sql_is_one_statement_view :
    let filter := (Predicate.eqIgnoreCase "a").and ((Predicate.ofColumn "b").or (.ofColumn "c"))
    let s := createView "v" "t" [.raw "count(*)", .ref ⟨"a", none, some "x"⟩]
      { filter := some filter, limit := some 3 } true
    (∀ t ∈ s.strings, ';' ∉ t.toList ∧ Balanced t) ∧ s.sql.toList.count ';' = 1 ∧
      s.sql.toList.getLast? = some ';' ∧ s.sql.toList.count ')' = s.sql.toList.count '(' ∧
      ¬ "SELECT ".toList <+: s.sql.toList := by
  intro filter s
  have hcount : Balanced "count(*)" :=
    Balanced.call (s := "count") (t := "*") (.of_not_mem (by decide) (by decide))
      (.of_not_mem (by decide) (by decide))
  have hwords : ∀ t ∈ ["v", "t", "a", "x", "b", "c"], Balanced t := by
    intro t ht
    have hplain : '(' ∉ t.toList ∧ ')' ∉ t.toList := by
      revert t
      decide
    exact .of_not_mem hplain.1 hplain.2
  have hs : ∀ t ∈ s.strings, ';' ∉ t.toList ∧ Balanced t := by
    intro t ht
    have hmem : ∀ t ∈ s.strings,
        ';' ∉ t.toList ∧ (t = "count(*)" ∨ t ∈ ["v", "t", "a", "x", "b", "c"]) := by
      decide
    obtain ⟨hsemicolon, rfl | hword⟩ := hmem t ht
    · exact ⟨hsemicolon, hcount⟩
    · exact ⟨hsemicolon, hwords t hword⟩
  obtain ⟨hsemicolon, hlast, -, hclosed, hselect, -⟩ := sql_is_one_statement s hs
  exact ⟨hs, hsemicolon, hlast, hclosed, fun hprefix => Bool.false_ne_true (hselect.mp hprefix)⟩

end Statement

end ParamSql
