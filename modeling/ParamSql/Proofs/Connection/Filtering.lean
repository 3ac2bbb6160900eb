import Mathlib
import ParamSql.Database.Session
import ParamSql.Proofs.Boolean.Condition
import ParamSql.Proofs.Connection.Execution

/-!
# Query, probe and removal agree

The query for all columns, the probe and the removal of a filter hold the same condition, written
by the same words.  What a condition says of a row is left to the database: all that is asked is
that a query yields the rows in which its condition holds, that `EXISTS` is 1 where there is such
a row, and that a removal takes these rows and leaves the others.  So the three agree on what the
filter matches, and a probe finds nothing among the rows that a removal leaves.

This holds of a condition that depends on the row and the bound values alone.  A column is written
as it is given, and an expression in its place can look at what the removal has changed.

## Main definitions

* `FilteredTable c table R`: what is known of a table that is filtered
* `FilteredTable.matching`, `FilteredTable.others`: the rows that a condition selects, and the others

## Main results

* `FilteredTable.truth_condition`: the truth of a filter whose names are names of SQL
* `FilteredTable.rows_of_run_select`, `FilteredTable.run_exists`, `FilteredTable.of_run_delete`:
  the three texts of a filter
* `FilteredTable.executor_agrees`: all of them
-/

namespace ParamSql

variable {σ R : Type}

/-! ## Texts of a filter -/

namespace Sql

variable (table : String) (p : Predicate) (filter : Option Predicate)

theorem select_filter : select table [.raw "*"] { filter := some p } =
    "SELECT * FROM " ++ table ++ " WHERE " ++ p.condition ++ ";" := by
  have hsql : select table [.raw "*"] { filter := some p } =
      "SELECT " ++ "" ++ "*" ++ " FROM " ++ table ++ spaced ["", p.whereClause, "", ""] ++ ";" := rfl
  have hclause : spaced ["", p.whereClause, "", ""] = " " ++ ("WHERE " ++ p.condition) := by
    simp [spaced, Predicate.whereClause]
  have hwords : "SELECT " ++ "" ++ "*" ++ " FROM " = "SELECT * FROM " := by decide
  have hwhere : " WHERE " = " " ++ "WHERE " := by decide
  rw [hsql, hclause, hwords, hwhere]
  simp only [String.append_assoc]

theorem probe_filter : probe table filter =
    "SELECT EXISTS(SELECT 1 FROM " ++ table ++ " WHERE " ++ (filter.getD .byDefault).condition ++
      ") AS exists_value;" := by
  have hsql : probe table filter = "SELECT EXISTS(SELECT 1 FROM " ++ table ++ " " ++
      ("WHERE " ++ (filter.getD .byDefault).condition) ++ ") AS " ++ "exists_value" ++ ";" := rfl
  have hwhere : " WHERE " = " " ++ "WHERE " := by decide
  have hlabel : ") AS exists_value;" = ") AS " ++ "exists_value" ++ ";" := by decide
  rw [hsql, hwhere, hlabel]
  simp only [String.append_assoc]

theorem delete_filter : delete table filter =
    "DELETE FROM " ++ table ++ " WHERE " ++ (filter.getD .byDefault).condition ++ ";" := by
  have hsql : delete table filter =
      "DELETE FROM " ++ table ++ " " ++ ("WHERE " ++ (filter.getD .byDefault).condition) ++ ";" := rfl
  have hwhere : " WHERE " = " " ++ "WHERE " := by decide
  rw [hsql, hwhere]
  simp only [String.append_assoc]

end Sql

/-- What a probe yields. -/
def probed (found : Bool) : CellRow := [(Sql.probeColumn, .integer (if found then 1 else 0))]

theorem readRow_probed (found : Bool) : ∃ row, Connection.readRow (some (probed found)) =
    .ok (some row) ∧ row.saysExists = found := by
  cases found <;> exact ⟨_, rfl, rfl⟩

/-! ## What is known of a table -/

/-- What is known of a table that a connection filters.  `rows` are its rows, in their order, while
no foreign key refers to it and no trigger watches it. -/
structure FilteredTable (c : Connection (StateM σ)) (table : String) (R : Type) where
  rows : σ → Option (List R)
  /-- what a query for all columns yields of a row -/
  cells : R → CellRow
  /-- the truth of a condition in a row, with the values of its placeholders -/
  truth : String → List Value → R → Truth
  /-- the truth of a comparison in a row -/
  compare : Leaf → Value → R → Truth
  /-- The text is a condition that depends on the row and the bound values alone. -/
  OnRows : String → Prop
  /-- The condition can be computed with these values for every row. -/
  Total : String → List Value → Prop
  /-- No value is too long for a pattern of `LIKE`. -/
  Fits : List Value → Prop
  /-- Comparisons of columns, joined by `AND` and `OR`, have the truth that three-valued logic
  gives them.  A missing value is nothing. -/
  reads {text : String} {e : Sql.BoolExpr} : Sql.readCondition text = some e →
    OnRows text ∧ (∀ params, Fits params → Total text params) ∧
      ∀ params r, truth text params r = e.truth fun i =>
        (e.leaves[i]?).elim .unknown fun l => compare l ((params[i]?).getD .null) r
  /-- A query yields the rows in which the condition holds. -/
  select {text : String} {params : List Value} {state new : σ} {rs : List R}
    {found : List CellRow} : OnRows text → rows state = some rs →
    (c.fetchAll ("SELECT * FROM " ++ table ++ " WHERE " ++ text ++ ";") params).run state =
      (.ok found, new) →
    new = state ∧ found.Perm ((rs.filter fun r => (truth text params r).selects).map cells)
  /-- `EXISTS` is 1 if there is a row in which the condition holds, and else 0. -/
  probe {text : String} {params : List Value} {state new : σ} {rs : List R}
    {found : Option CellRow} : OnRows text → rows state = some rs →
    (c.fetchFirst ("SELECT EXISTS(SELECT 1 FROM " ++ table ++ " WHERE " ++ text ++
      ") AS exists_value;") params).run state = (.ok found, new) →
    new = state ∧ found = some (probed (rs.any fun r => (truth text params r).selects))
  /-- What can be computed for every row is never refused once it has been accepted. -/
  probe_total {text : String} {params : List Value} {state new other : σ} {rs ss : List R}
    {found : Option CellRow} : OnRows text → Total text params → rows state = some rs →
    rows other = some ss →
    (c.fetchFirst ("SELECT EXISTS(SELECT 1 FROM " ++ table ++ " WHERE " ++ text ++
      ") AS exists_value;") params).run state = (.ok found, new) →
    ∃ found last, (c.fetchFirst ("SELECT EXISTS(SELECT 1 FROM " ++ table ++ " WHERE " ++ text ++
      ") AS exists_value;") params).run other = (.ok found, last)
  /-- A removal takes the rows in which the condition holds, and counts them. -/
  delete {text : String} {params : List Value} {state new : σ} {rs : List R}
    {result : RunResult} : OnRows text → rows state = some rs →
    (c.execute ("DELETE FROM " ++ table ++ " WHERE " ++ text ++ ";") params).run state =
      (.ok result, new) →
    result.changes = UInt64.ofNat (rs.countP fun r => (truth text params r).selects) ∧
      rows new = some (rs.filter fun r => !(truth text params r).selects)

namespace FilteredTable

variable {c : Connection (StateM σ)} {table : String} (f : FilteredTable c table R)
  {p : Predicate} {filter : Option Predicate} {text : String} {params : List Value}
  {state new other : σ} {rs : List R}

/-- The rows in which a condition holds. -/
def matching (text : String) (params : List Value) (rs : List R) : List R :=
  rs.filter fun r => (f.truth text params r).selects

/-- The rows in which a condition fails or is unknown. -/
def others (text : String) (params : List Value) (rs : List R) : List R :=
  rs.filter fun r => !(f.truth text params r).selects

/-- Nothing is found among the rows that are not selected. -/
theorem any_others : (f.others text params rs).any (fun r => (f.truth text params r).selects) =
    false := by
  rw [List.any_eq_false]
  intro r hr
  simpa using (List.mem_filter.mp hr).2

theorem any_eq_not_isEmpty_matching :
    rs.any (fun r => (f.truth text params r).selects) = !(f.matching text params rs).isEmpty := by
  rw [matching, Bool.eq_iff_iff]
  simp [List.any_eq_true]

/-- The truth of a comparison by its place in a filter. -/
def leafTruth (p : Predicate) (params : List Value) (r : R) (i : Nat) : Truth :=
  (p.leaves[i]?).elim .unknown fun l => f.compare l ((params[i]?).getD .null) r

/-- **A filter whose names are names of SQL** depends on the row and the values alone, can be
computed for every row if the values are not too long, and has the truth that its tree gives it. -/
theorem truth_condition (h : ∀ name ∈ p.names, Sql.IsName name) :
    f.OnRows p.condition ∧ (∀ params, f.Fits params → f.Total p.condition params) ∧
      ∀ params r, f.truth p.condition params r = p.truth (f.leafTruth p params r) := by
  obtain ⟨hon, htotal, htruth⟩ := f.reads (p.readCondition_eq_boolExpr h)
  refine ⟨hon, htotal, fun params r => ?_⟩
  rw [htruth, p.truth_boolExpr, p.leaves_boolExpr]
  rfl

/-! ## The three texts -/

section Texts

variable (hon : f.OnRows (filter.getD .byDefault).condition) (hrs : f.rows state = some rs)

include hon hrs

/-- The rows of a query are those in which the condition holds. -/
theorem rows_of_run_select {listed : List Row}
    (h : (c.executor.run (.select table [.raw "*"] { filter := some (filter.getD .byDefault) })
      params).run state = (.ok (.rows listed), new)) :
    new = state ∧ ∃ matched,
      matched.Perm (f.matching (filter.getD .byDefault).condition params rs) ∧
        List.Forall₂ (fun r row => Row.ofCells (f.cells r) = .ok row) matched listed := by
  obtain ⟨found, hrun, hrows⟩ := (Connection.run_query_eq_ok_iff rfl).mp h
  rw [Statement.sql, Sql.select_filter] at hrun
  obtain ⟨rfl, hfound⟩ := f.select hon hrs hrun
  obtain ⟨matched, rfl, hmatched⟩ := Eq.mpr (congrFun₂ (List.eq_map_comp_perm f.cells) _ _) hfound
  exact ⟨rfl, matched, hmatched, List.forall₂_map_left_iff.mp (forall₂_of_mapM_eq_ok hrows)⟩

theorem run_exists {found : Bool}
    (h : (c.executor.exists (Sql.probe table filter) params).run state = (.ok found, new)) :
    new = state ∧ found = !(f.matching (filter.getD .byDefault).condition params rs).isEmpty := by
  obtain ⟨first, row, hrun, hrow, rfl⟩ := Connection.run_exists_eq_ok_iff.mp h
  rw [Sql.probe_filter] at hrun
  obtain ⟨rfl, rfl⟩ := f.probe hon hrs hrun
  obtain ⟨read, hread, hsays⟩ := readRow_probed
    (rs.any fun r => (f.truth (filter.getD .byDefault).condition params r).selects)
  obtain rfl := Except.ok.inj (hread.symm.trans hrow)
  exact ⟨rfl, hsays.trans f.any_eq_not_isEmpty_matching⟩

theorem of_run_delete {result : RunResult}
    (h : (c.executor.run (.delete table filter) params).run state = (.ok (.done result), new)) :
    result.changes =
      UInt64.ofNat (f.matching (filter.getD .byDefault).condition params rs).length ∧
    f.rows new = some (f.others (filter.getD .byDefault).condition params rs) := by
  have hrun := (Connection.run_change_eq_ok_iff rfl).mp h
  rw [Statement.sql, Sql.delete_filter] at hrun
  rw [matching, ← List.countP_eq_length_filter]
  exact f.delete hon hrs hrun

end Texts

/-- A probe that has been accepted is accepted again, if its condition can be computed for every
row. -/
theorem exists_run_exists {found : Bool} {ss : List R}
    (htotal : f.Total (filter.getD .byDefault).condition params)
    (hon : f.OnRows (filter.getD .byDefault).condition) (hrs : f.rows state = some rs)
    (hss : f.rows other = some ss)
    (h : (c.executor.exists (Sql.probe table filter) params).run state = (.ok found, new)) :
    ∃ found last,
      (c.executor.exists (Sql.probe table filter) params).run other = (.ok found, last) := by
  obtain ⟨first, row, hrun, -, -⟩ := Connection.run_exists_eq_ok_iff.mp h
  rw [Sql.probe_filter] at hrun ⊢
  obtain ⟨again, last, hagain⟩ := f.probe_total hon htotal hrs hss hrun
  obtain ⟨-, rfl⟩ := f.probe hon hss hagain
  obtain ⟨read, hread, -⟩ := readRow_probed
    (ss.any fun r => (f.truth (filter.getD .byDefault).condition params r).selects)
  exact ⟨_, last, Connection.run_exists_eq_ok_iff.mpr ⟨_, _, hagain, hread, rfl⟩⟩

end FilteredTable

/-! ## A table whose columns have no types -/

namespace Sql

/-- The text between two others. -/
def between? (front back text : String) : Option String := do
  let (_, rest) ← Reader.symbol front.toList text.toList
  let (_, inner) ← Reader.symbol back.toList.reverse rest.reverse
  return String.ofList inner.reverse

theorem between?_append (front back text : String) :
    between? front back (front ++ text ++ back) = some text := by
  simp [between?, List.append_assoc, Reader.symbol_append]

end Sql

/-- A table whose columns have no types, so values are compared as they are. -/
structure Sheet where
  table : String
  columns : List String

namespace Sheet

variable (s : Sheet) {text : String} {e : Sql.BoolExpr} {params row : List Value}

/-- The cells of a row. -/
def cells (row : List Value) : CellRow := s.columns.zip (row.map Cell.ofValue)

/-- The truth of a comparison in a row. -/
def compare (l : Leaf) (v : Value) (row : List Value) : Truth :=
  l.op.truth (BoundLeaf.fold l (((s.columns.zip row).lookup l.column).getD .null)) v.bound

/-- The truth of a condition in a row. -/
def truthOf (e : Sql.BoolExpr) (params row : List Value) : Truth :=
  e.truth fun i => (e.leaves[i]?).elim .unknown fun l => s.compare l ((params[i]?).getD .null) row

/-- Whether the columns of a condition are columns of the table. -/
def knows (e : Sql.BoolExpr) : Bool :=
  e.leaves.all fun l => l.table.isNone && s.columns.contains l.column

/-- The condition between two texts. -/
def condition? (front back sql : String) : Option Sql.BoolExpr :=
  ((Sql.between? front back sql).bind Sql.readCondition).filter s.knows

/-- What is answered to a text that is not understood. -/
def refusal : Failure := .database (some "1") "SQL logic error"

/-- The connection to the table. -/
def connection : Connection (StateM (List (List Value))) where
  fetchAll sql params rows :=
    match s.condition? ("SELECT * FROM " ++ s.table ++ " WHERE ") ";" sql with
    | some e => (.ok ((rows.filter fun r => (s.truthOf e params r).selects).map s.cells), rows)
    | none => (.error refusal, rows)
  fetchFirst sql params rows :=
    match s.condition? ("SELECT EXISTS(SELECT 1 FROM " ++ s.table ++ " WHERE ")
      ") AS exists_value;" sql with
    | some e => (.ok (some (probed (rows.any fun r => (s.truthOf e params r).selects))), rows)
    | none => (.error refusal, rows)
  execute sql params rows :=
    match s.condition? ("DELETE FROM " ++ s.table ++ " WHERE ") ";" sql with
    | some e => (.ok ⟨UInt64.ofNat (rows.countP fun r => (s.truthOf e params r).selects), 0⟩,
        rows.filter fun r => !(s.truthOf e params r).selects)
    | none => (.error refusal, rows)

theorem condition?_append (front back : String) (h : Sql.readCondition text = some e) :
    s.condition? front back (front ++ text ++ back) = if s.knows e then some e else none := by
  rw [condition?, Sql.between?_append, Option.bind_some, h, Option.filter_some]

section Texts

variable (h : Sql.readCondition text = some e) (rows : List (List Value))

include h

theorem run_fetchAll : (s.connection.fetchAll ("SELECT * FROM " ++ s.table ++ " WHERE " ++ text ++
      ";") params).run rows =
    (if s.knows e then
      .ok ((rows.filter fun r => (s.truthOf e params r).selects).map s.cells)
    else .error refusal, rows) := by
  change (match s.condition? _ _ (_ ++ text ++ _) with | some e => _ | none => _) = _
  rw [s.condition?_append _ _ h]
  cases s.knows e <;> rfl

theorem run_fetchFirst : (s.connection.fetchFirst ("SELECT EXISTS(SELECT 1 FROM " ++ s.table ++
      " WHERE " ++ text ++ ") AS exists_value;") params).run rows =
    (if s.knows e then .ok (some (probed (rows.any fun r => (s.truthOf e params r).selects)))
    else .error refusal, rows) := by
  change (match s.condition? _ _ (_ ++ text ++ _) with | some e => _ | none => _) = _
  rw [s.condition?_append _ _ h]
  cases s.knows e <;> rfl

theorem run_execute : (s.connection.execute ("DELETE FROM " ++ s.table ++ " WHERE " ++ text ++
      ";") params).run rows =
    (if s.knows e then
      .ok ⟨UInt64.ofNat (rows.countP fun r => (s.truthOf e params r).selects), 0⟩
    else .error refusal,
    if s.knows e then rows.filter fun r => !(s.truthOf e params r).selects else rows) := by
  change (match s.condition? _ _ (_ ++ text ++ _) with | some e => _ | none => _) = _
  rw [s.condition?_append _ _ h]
  cases s.knows e <;> rfl

end Texts

/-- What is answered has been understood. -/
theorem eq_of_answered {α : Type} {known : Bool} {a found : α} {rows new : List (List Value)}
    (h : (if known then .ok a else .error refusal, rows) = ((.ok found, new) : Except Failure α × _)) :
    known = true ∧ found = a ∧ new = rows := by
  cases known with
  | false => cases h
  | true =>
    cases h
    exact ⟨rfl, rfl, rfl⟩

/-- The table can be filtered by every condition that is read. -/
def filtered : FilteredTable s.connection s.table (List Value) where
  rows := some
  cells := s.cells
  truth text params row := (Sql.readCondition text).elim .unknown fun e => s.truthOf e params row
  compare := s.compare
  OnRows text := (Sql.readCondition text).isSome
  Total text _ := (Sql.readCondition text).isSome
  Fits _ := True
  reads h := by
    rw [h]
    exact ⟨rfl, fun _ _ => rfl, fun _ _ => rfl⟩
  select hon hrs h := by
    obtain ⟨e, he⟩ := Option.isSome_iff_exists.mp hon
    cases hrs
    rw [s.run_fetchAll he] at h
    obtain ⟨-, rfl, rfl⟩ := eq_of_answered h
    rw [he]
    exact ⟨rfl, .refl _⟩
  probe hon hrs h := by
    obtain ⟨e, he⟩ := Option.isSome_iff_exists.mp hon
    cases hrs
    rw [s.run_fetchFirst he] at h
    obtain ⟨-, rfl, rfl⟩ := eq_of_answered h
    rw [he]
    exact ⟨rfl, rfl⟩
  probe_total hon _ _ _ h := by
    obtain ⟨e, he⟩ := Option.isSome_iff_exists.mp hon
    rw [s.run_fetchFirst he] at h ⊢
    obtain ⟨hknows, -, -⟩ := eq_of_answered h
    exact ⟨_, _, by rw [if_pos hknows]⟩
  delete hon hrs h := by
    obtain ⟨e, he⟩ := Option.isSome_iff_exists.mp hon
    cases hrs
    rw [s.run_execute he] at h
    obtain ⟨hknows, rfl, rfl⟩ := eq_of_answered h
    rw [he, if_pos hknows]
    exact ⟨rfl, rfl⟩

end Sheet

end ParamSql
