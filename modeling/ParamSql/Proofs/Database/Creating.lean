import ParamSql.Database.Session
import ParamSql.Proofs.Database.Reading

/-!
# Creating objects in a database in memory

A table or a view is added unless one of its name is there, and an index unless there is an index
of its name.  No table or view is added under the name of an index, and no index is added where a
table or a view has its name, or where its table is missing.

## Main definitions

* `Database.HasTable`, `Database.HasView`, `Database.HasIndex`: the names that are taken

## Main results

* `Database.createTable_eq_ok`, `Database.createView_eq_ok`, `Database.createIndex_eq_ok`: what a
  creation that is not refused has done
* `Database.createTable_of_hasRelation`, `Database.createView_of_hasRelation`,
  `Database.createIndex_of_index?`: what is there is not created again
* `Database.run_execute_eq_ok_iff`: what a text that is one statement does
-/

namespace ParamSql

/-! ## Results that may be refused -/

section Except

variable {α β ε : Type}

/-- A result that is computed in two steps is refused in neither. -/
theorem exists_of_bind_eq_ok {x : Except ε α} {f : α → Except ε β} {b : β}
    (h : (x >>= f) = .ok b) : ∃ a, x = .ok a ∧ f a = .ok b := by
  cases x with
  | error e => cases h
  | ok a => exact ⟨a, rfl, h⟩

/-- What comes behind a refusal that is not made. -/
theorem ok_of_unless {c : Prop} [Decidable c] {r : ε} {f : PUnit → Except ε α} {a : α}
    (h : (if c then throw r >>= f else f ⟨⟩) = .ok a) : ¬ c ∧ f ⟨⟩ = .ok a := by
  split at h
  · cases h
  · next hc => exact ⟨hc, h⟩

end Except

namespace Database

variable {db new : Database}

/-! ## Names that are taken -/

/-- A name as names are compared: without the name of the database, in small letters. -/
def folded (name : String) : String := (Name.bare name).map Char.toLower

/-- Whether a table has the name. -/
def HasTable (db : Database) (name : String) : Prop :=
  ∃ t ∈ db.tables, t.name.map Char.toLower = name

/-- Whether a view has the name. -/
def HasView (db : Database) (name : String) : Prop :=
  ∃ v ∈ db.views, v.name.map Char.toLower = name

/-- Whether an index has the name. -/
def HasIndex (db : Database) (name : String) : Prop :=
  ∃ i ∈ db.indexes, i.name.map Char.toLower = name

theorem isSome_table?_iff (name : String) :
    (db.table? name).isSome = true ↔ db.HasTable (folded name) := by
  simp only [table?, List.find?_isSome, HasTable, folded, Name.same, beq_iff_eq]

theorem isSome_view?_iff (name : String) :
    (db.view? name).isSome = true ↔ db.HasView (folded name) := by
  simp only [view?, List.find?_isSome, HasView, folded, Name.same, beq_iff_eq]

theorem isSome_index?_iff (name : String) :
    (db.index? name).isSome = true ↔ db.HasIndex (folded name) := by
  simp only [index?, List.find?_isSome, HasIndex, folded, Name.same, beq_iff_eq]

theorem hasRelation_iff (name : String) :
    db.hasRelation name = true ↔ db.HasTable (folded name) ∨ db.HasView (folded name) := by
  rw [hasRelation, Bool.or_eq_true, isSome_table?_iff, isSome_view?_iff]

theorem hasTable_add {name : String} (columns : List ColumnDef) (other : String) :
    HasTable { db with tables := db.tables ++ [⟨Name.bare name, columns, []⟩] } other ↔
      db.HasTable other ∨ other = folded name := by
  simp [HasTable, folded, or_and_right, exists_or, eq_comm]

theorem hasView_add {view : View} (other : String) :
    HasView { db with views := db.views ++ [{ view with name := Name.bare view.name }] } other ↔
      db.HasView other ∨ other = folded view.name := by
  simp [HasView, folded, or_and_right, exists_or, eq_comm]

theorem hasIndex_add {index : Index} (table other : String) :
    HasIndex { db with indexes :=
      db.indexes ++ [{ index with name := Name.bare index.name, table := table }] } other ↔
      db.HasIndex other ∨ other = folded index.name := by
  simp [HasIndex, folded, or_and_right, exists_or, eq_comm]

/-! ## Creating an object -/

section Creating

variable {name : String} {columns : List ColumnDef} {view : View} {index : Index}

theorem requireNoIndex_eq_ok (h : db.requireNoIndex name = .ok ()) :
    (db.index? name).isSome = false := by
  rw [requireNoIndex] at h
  split at h
  · cases h
  · next hn => exact Bool.eq_false_iff.mpr hn

/-- A table that is added, or that has been there as a table or a view. -/
theorem createTable_eq_ok (h : db.createTable name columns true = .ok new) :
    columns.isEmpty = false ∧ (db.hasRelation name = true ∧ new = db ∨
      db.hasRelation name = false ∧ (db.index? name).isSome = false ∧
        new = { db with tables := db.tables ++ [⟨Name.bare name, columns, []⟩] }) := by
  rw [createTable] at h
  cases hn : db.hasRelation name with
  | true =>
    rw [hn, Bool.and_self, if_pos rfl] at h
    split at h
    · cases h
    · next hc =>
      cases h
      exact ⟨Bool.eq_false_iff.mpr hc, .inl ⟨rfl, rfl⟩⟩
  | false =>
    rw [hn, Bool.and_false, if_neg Bool.false_ne_true] at h
    obtain ⟨-, -, h⟩ := exists_of_bind_eq_ok h
    obtain ⟨⟨⟩, hi, h⟩ := exists_of_bind_eq_ok h
    obtain ⟨hc, h⟩ := ok_of_unless h
    obtain ⟨-, -, h⟩ := exists_of_bind_eq_ok h
    cases h
    exact ⟨Bool.eq_false_iff.mpr hc, .inr ⟨rfl, requireNoIndex_eq_ok hi, rfl⟩⟩

theorem createTable_of_hasRelation (hc : columns.isEmpty = false)
    (hn : db.hasRelation name = true) : db.createTable name columns true = .ok db := by
  rw [createTable, hn, hc]
  rfl

/-- A view that is added, or that has been there as a table or a view. -/
theorem createView_eq_ok (h : db.createView view true = .ok new) :
    (view.columns.isEmpty = false ∧ view.query.options.filter.isSome = false) ∧
      (db.hasRelation view.name = true ∧ new = db ∨
        db.hasRelation view.name = false ∧ (db.index? view.name).isSome = false ∧
          new = { db with views := db.views ++ [{ view with name := Name.bare view.name }] }) := by
  rw [createView] at h
  obtain ⟨hc, h⟩ := ok_of_unless h
  obtain ⟨hf, h⟩ := ok_of_unless h
  refine ⟨⟨Bool.eq_false_iff.mpr hc, Bool.eq_false_iff.mpr hf⟩, ?_⟩
  cases hn : db.hasRelation view.name with
  | true =>
    rw [hn] at h
    cases h
    exact .inl ⟨rfl, rfl⟩
  | false =>
    rw [hn] at h
    obtain ⟨-, -, h⟩ := exists_of_bind_eq_ok h
    obtain ⟨⟨⟩, hi, h⟩ := exists_of_bind_eq_ok h
    cases h
    exact .inr ⟨rfl, requireNoIndex_eq_ok hi, rfl⟩

theorem createView_of_hasRelation
    (hview : view.columns.isEmpty = false ∧ view.query.options.filter.isSome = false)
    (hn : db.hasRelation view.name = true) : db.createView view true = .ok db := by
  rw [createView, hn, hview.1, hview.2]
  rfl

/-- An index that is added, or that has been there. -/
theorem createIndex_eq_ok (h : db.createIndex index true = .ok new) :
    index.columns.isEmpty = false ∧ db.hasRelation index.name = false ∧
      ∃ t, db.table? index.table = some t ∧ ((db.index? index.name).isSome = true ∧ new = db ∨
        new = { db with indexes :=
          db.indexes ++ [{ index with name := Name.bare index.name, table := t.name }] }) := by
  rw [createIndex] at h
  obtain ⟨hc, h⟩ := ok_of_unless h
  cases ht : db.table? index.table with
  | none =>
    rw [ht] at h
    dsimp only at h
    split at h <;> cases h
  | some t =>
    rw [ht] at h
    obtain ⟨hn, h⟩ := ok_of_unless h
    refine ⟨Bool.eq_false_iff.mpr hc, Bool.eq_false_iff.mpr hn, t, rfl, ?_⟩
    cases hi : (db.index? index.name).isSome with
    | true =>
      rw [hi] at h
      cases h
      exact .inl ⟨rfl, rfl⟩
    | false =>
      rw [hi] at h
      obtain ⟨-, -, h⟩ := exists_of_bind_eq_ok h
      cases h
      exact .inr rfl

theorem createIndex_of_index? (hc : index.columns.isEmpty = false)
    (hn : db.hasRelation index.name = false) (ht : (db.table? index.table).isSome = true)
    (hi : (db.index? index.name).isSome = true) : db.createIndex index true = .ok db := by
  obtain ⟨t, ht⟩ := Option.isSome_iff_exists.mp ht
  rw [createIndex, hc, ht]
  simp only [hn, hi]
  rfl

end Creating

/-! ## Texts -/

section Texts

variable {s : Statement} {ts : List Sql.Token} {sql : String} {params : List Value}
  {result : RunResult}

theorem run_execute (db : Database) (sql : String) (params : List Value) :
    ((connection (m := Id)).execute sql params).run db =
      ((db.answer false sql params).1.map fun a => ⟨UInt64.ofNat a.changes, a.rowid⟩,
        (db.answer false sql params).2) := rfl

/-- What yields no rows is carried out by being executed. -/
theorem perform_of_execute_eq_ok (hs : s.isQuery = false) (h : db.execute s params = .ok new) :
    db.perform s params = (.ok [], new) := by
  cases s with
  | select => cases hs
  | «exists» => cases hs
  | _ => simp only [perform, h]

theorem perform_of_execute_eq_error {r : Refusal} (hs : s.isQuery = false)
    (h : db.execute s params = .error r) : (db.perform s params).1 = .error r := by
  cases s with
  | select => cases hs
  | «exists» => cases hs
  | _ => simp only [perform, h]

theorem perform_eq_ok_iff (hs : s.isQuery = false) {rows : List CellRow} :
    db.perform s params = (.ok rows, new) ↔ db.execute s params = .ok new ∧ rows = [] := by
  constructor
  · intro h
    cases hexec : db.execute s params with
    | error r =>
      have herror := perform_of_execute_eq_error hs hexec
      rw [h] at herror
      cases herror
    | ok last =>
      rw [perform_of_execute_eq_ok hs hexec] at h
      cases h
      exact ⟨rfl, rfl⟩
  · rintro ⟨h, rfl⟩
    exact perform_of_execute_eq_ok hs h

/-- **A text that is one statement** does what the statement does that it is read as. -/
theorem run_execute_eq_ok_iff (hsql : Sql.statements sql = [ts])
    (hts : ∀ s, Statement.ofTokens ts = .ok s → s.isQuery = false) :
    ((connection (m := Id)).execute sql params).run db = (.ok result, new) ↔
      db.unusable = none ∧ (∃ s, Statement.ofTokens ts = .ok s ∧ db.execute s params = .ok new) ∧
        result = ⟨UInt64.ofNat new.changes, new.rowid⟩ := by
  rw [run_execute, answer, hsql]
  cases db.unusable with
  | some failure => exact iff_of_false nofun fun h => nomatch h.1
  | none =>
    rw [performAll]
    cases hread : Statement.ofTokens ts with
    | error r => exact iff_of_false nofun fun ⟨_, ⟨_, h, _⟩, _⟩ => nomatch h
    | ok s =>
      simp only [Except.ok.injEq, exists_eq_left', true_and]
      cases hs : db.perform s params with
      | mk reply last =>
        cases reply with
        | error r =>
          refine iff_of_false nofun ?_
          rintro ⟨hexec, -⟩
          rw [(perform_eq_ok_iff (hts s hread)).mpr ⟨hexec, rfl⟩] at hs
          cases hs
        | ok rows =>
          obtain ⟨hexec, rfl⟩ := (perform_eq_ok_iff (hts s hread)).mp hs
          rw [hexec, Except.ok.injEq]
          constructor
          · intro h
            cases h
            exact ⟨rfl, rfl⟩
          · rintro ⟨rfl, rfl⟩
            rfl

end Texts

end Database

end ParamSql
