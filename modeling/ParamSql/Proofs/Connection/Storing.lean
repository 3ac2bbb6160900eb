import Mathlib.Data.Int.Basic
import ParamSql.Database.Session
import ParamSql.Proofs.Connection.Execution
import ParamSql.Proofs.Connection.RowText
import ParamSql.Proofs.Row

/-!
# What is stored comes back

A column of type `BLOB` holds what it is given.  A new row of a table whose columns are all of this
type, without modifiers, therefore holds the bound values, in the places of their columns.  It
is the last row of the table, because its number is the largest.  A query that names the columns
yields the rows that it has yielded before and then the new one, whose values are those that were
bound: the place in the list of columns says which.

There is no larger number behind the largest one of 64 bits.  A row that has it stays the last.

## Main definitions

* `Value.ComesBack v n`: `n` is the value `v` in a document, after it has been bound and stored
* `BlobTable c table columns`: what is known of a table of such columns

## Main results

* `Sql.createTable_blob`: the text of the table
* `Row.members_of_bound`: the row of the cells that hold bound values
* `BlobTable.stored_comes_back`: a new row, by its text, and the query behind it
-/

namespace ParamSql

variable {σ : Type}

/-! ## Values -/

namespace Value

/-- What a value is in a document once it has been bound, stored and read.  A float that is no
number is stored as nothing, and an infinite one cannot be written in a document. -/
inductive ComesBack : Value → Document.Node → Prop
  | null : ComesBack .null .null
  | integer (n : Int64) : ComesBack (.integer n) (.int n.toInt)
  | finite {x : Float} : x.isFinite = true → ComesBack (.real x) (.real x)
  | notANumber {x : Float} : x.isNaN = true → ComesBack (.real x) .null
  | infinite {x : Float} : x.isInf = true → ComesBack (.real x) .null
  | text (s : String) : ComesBack (.text s) (.text s)
  | blob (bytes : List UInt8) : ComesBack (.blob bytes) (.list (bytes.map fun b => .int b.toNat))

/-- A float is of exactly one of three kinds. -/
theorem float_kinds (x : Float) :
    (x.isFinite = true ∧ x.isNaN = false) ∨ (x.isFinite = false ∧ x.isNaN = true) ∨
      (x.isFinite = false ∧ x.isInf = true) := by
  unfold Float.isFinite Float.isNaN Float.isInf Float.Model.isFinite Float.Model.isNaN
    Float.Model.isInf
  cases x.toModel.unpack <;> simp [Float.Model.UnpackedFloat.isFinite,
    Float.Model.UnpackedFloat.isNaN, Float.Model.UnpackedFloat.isInf]

variable {v : Value} {n : Document.Node}

/-- **Every value that is bound comes back.** -/
theorem comesBack_of_decoded (h : (Cell.ofValue v.bound).Decoded n) : v.ComesBack n := by
  have hnode := Cell.node_eq_ok_iff.mpr h
  cases v with
  | null => exact Except.ok.inj hnode ▸ .null
  | integer i => exact Except.ok.inj hnode ▸ .integer i
  | real x =>
    rw [bound] at hnode
    -- what is no number is lost when it is bound, what is infinite when it is written
    rcases float_kinds x with ⟨hfinite, hnan⟩ | ⟨hfinite, hnan⟩ | ⟨hfinite, hinf⟩
    · rw [if_neg (Bool.eq_false_iff.mp hnan), Cell.ofValue, Cell.node, if_pos hfinite] at hnode
      exact Except.ok.inj hnode ▸ .finite hfinite
    · rw [if_pos hnan] at hnode
      exact Except.ok.inj hnode ▸ .notANumber hnan
    · split at hnode
      · exact Except.ok.inj hnode ▸ .infinite hinf
      · rw [Cell.ofValue, Cell.node, if_neg (Bool.eq_false_iff.mp hfinite)] at hnode
        exact Except.ok.inj hnode ▸ .infinite hinf
  | text s =>
    change (Utf8.decode (Utf8.encode s)).map Document.Node.text = _ at hnode
    rw [Utf8.decode_of_encode] at hnode
    exact Except.ok.inj hnode ▸ .text s
  | blob bytes => exact Except.ok.inj hnode ▸ .blob bytes

/-- A bound value can be read. -/
theorem exists_decoded_bound (v : Value) : ∃ n, (Cell.ofValue v.bound).Decoded n := by
  cases v.bound with
  | null => exact ⟨_, .null⟩
  | integer i => exact ⟨_, .integer i⟩
  | real x =>
    cases hx : x.isFinite with
    | true => exact ⟨_, .real hx⟩
    | false => exact ⟨_, .notFinite hx⟩
  | text s => exact ⟨_, .text s⟩
  | blob bytes => exact ⟨_, .blob bytes⟩

end Value

/-! ## Texts -/

namespace Sql

/-- The text of a table whose columns are of type `BLOB` and have no modifiers. -/
theorem createTable_blob (table : String) (columns : List String) (flag : Bool) :
    createTable table (columns.map (ColumnDef.ofType · .blob)) flag =
      "CREATE TABLE " ++ (if flag then "IF NOT EXISTS " else "") ++ table ++ " (" ++
        String.intercalate "," (columns.map (· ++ " BLOB")) ++ ");" := by
  have hdefinition : ∀ name, columnDefinition (.ofType name .blob) = name ++ " BLOB" := by
    intro name
    have hwords : " BLOB" = " " ++ "BLOB" ++ "" := by decide
    rw [hwords, ← String.append_assoc, ← String.append_assoc]
    rfl
  have helements : tableElements (columns.map (ColumnDef.ofType · .blob)) =
      String.intercalate "," (columns.map (· ++ " BLOB")) := by
    have hkeys : (columns.map (ColumnDef.ofType · .blob)).filter (·.options.primaryKey) = [] := by
      rw [List.filter_map]
      simp [Function.comp_def, ColumnDef.ofType]
    have hclauses : (columns.map (ColumnDef.ofType · .blob)).filterMap (fun c =>
        c.foreign.map (foreignKeyClause c.name)) = [] := by
      rw [List.filterMap_map]
      simp [Function.comp_def, ColumnDef.ofType]
    rw [tableElements, primaryKeyClause?, hkeys, hclauses, List.map_map]
    simp [Function.comp_def, hdefinition]
  rw [← helements]
  rfl

/-- Names of columns: there is one, none is a keyword, and they differ not only in the case of
their letters. -/
structure ColumnNames (columns : List String) : Prop where
  ne_nil : columns ≠ []
  names : ∀ n ∈ columns, IsName n
  distinct : columns.Pairwise fun a b => Name.same a b = false

theorem ColumnNames.nodup {columns : List String} (h : ColumnNames columns) : columns.Nodup := by
  refine h.distinct.imp fun hab heq => ?_
  rw [heq, Name.same, beq_self_eq_true] at hab
  cases hab

end Sql

/-! ## What is known of a table -/

/-- A row of a table: its number, and what its columns hold. -/
structure NumberedRow where
  number : Int64
  cell : String → Cell

/-- What is known of a table whose columns are of type `BLOB` and have no modifiers.  `rows` are its
rows in the order of their numbers, while it has these columns and neither an index nor a trigger
is on it, and `Fits` are the values of a row that is not too large. -/
structure BlobTable (c : Connection (StateM σ)) (table : String) (columns : List String) where
  rows : σ → Option (List NumberedRow)
  /-- nothing has the name of the table -/
  Absent : σ → Prop
  Fits : List Value → Prop
  /-- A new table has no rows. -/
  create {flag : Bool} {state new : σ} {result : RunResult} : Sql.ColumnNames columns →
    Absent state →
    (c.execute ("CREATE TABLE " ++ (if flag then "IF NOT EXISTS " else "") ++ table ++ " (" ++
      String.intercalate "," (columns.map (· ++ " BLOB")) ++ ");") []).run state =
        (.ok result, new) → rows new = some []
  /-- A new row stands behind the others, as long as there is a larger number.  The column that is
  named in a place holds the value of the placeholder in that place: nothing for `NaN`, and else
  what is bound, as a column of this type converts nothing.  Other columns hold nothing. -/
  insert {names : List String} {values : List Value} {state : σ} {rs : List NumberedRow} :
    Sql.ColumnNames columns → rows state = some rs → (∀ r ∈ rs, r.number < Int64.maxValue) →
    names ≠ [] → names.Nodup → (∀ n ∈ names, n ∈ columns) → values.length = names.length →
    Fits values → ∃ result new row,
      (c.execute ("INSERT INTO " ++ table ++ "(" ++ String.intercalate "," names ++ ") VALUES(" ++
        String.intercalate "," (names.map fun _ => "?") ++ ");") values).run state =
          (.ok result, new) ∧ result.changes = 1 ∧ rows new = some (rs ++ [row]) ∧
      (∀ (k : Nat) (n : String) (v : Value), names[k]? = some n → values[k]? = some v →
        row.cell n = .ofValue v.bound) ∧
      ∀ n ∉ names, row.cell n = .null
  /-- A query for all columns yields every row, in the order of their numbers. -/
  select {names : List String} {state : σ} {rs : List NumberedRow} : Sql.ColumnNames columns →
    rows state = some rs → names.Perm columns →
    (c.fetchAll ("SELECT " ++ String.intercalate "," names ++ " FROM " ++ table ++ ";") []).run state =
      (.ok (rs.map fun r => names.map fun n => (n, r.cell n)), state)

namespace BlobTable

variable {c : Connection (StateM σ)} {table : String} {columns : List String}
  {state new : σ} {rs : List NumberedRow} {values : List Value}

/-- What the columns of a row hold that was made of values. -/
theorem map_cell_of_values {row : NumberedRow} (hlength : values.length = columns.length)
    (hrow : ∀ (k : Nat) (n : String) (v : Value), columns[k]? = some n → values[k]? = some v →
      row.cell n = .ofValue v.bound) :
    columns.map (fun n => (n, row.cell n)) = columns.zip (values.map fun v => .ofValue v.bound) := by
  refine List.ext_getElem (by simp [hlength]) fun k hk _ => ?_
  rw [List.length_map] at hk
  have hvalue : k < values.length := hlength ▸ hk
  simp [hrow k columns[k] values[k] (List.getElem?_eq_getElem hk) (List.getElem?_eq_getElem hvalue)]

/-- **The row of bound values**: the names in their order, and the values that come back. -/
theorem exists_row_of_values (hcolumns : columns.Nodup) (hlength : values.length = columns.length) :
    ∃ row, Row.ofCells (columns.zip (values.map fun v => .ofValue v.bound)) = .ok row ∧
      row.columns = columns ∧ List.Forall₂ Value.ComesBack values (row.members.map (·.2)) := by
  have hnames : (columns.zip (values.map fun v => Cell.ofValue v.bound)).map (·.1) = columns :=
    List.map_fst_zip (by simp [hlength])
  have hvalues : (columns.zip (values.map fun v => Cell.ofValue v.bound)).map (·.2) =
      values.map fun v => .ofValue v.bound := List.map_snd_zip (by simp [hlength])
  obtain ⟨row, hrow⟩ : ∃ row,
      Row.ofCells (columns.zip (values.map fun v => .ofValue v.bound)) = .ok row := by
    refine Row.exists_ofCells fun cell hcell => ?_
    obtain ⟨v, -, hv⟩ := List.mem_map.mp (List.of_mem_zip hcell).2
    exact hv ▸ v.exists_decoded_bound
  have hmembers := Row.members_of_ofCells hrow (by rwa [hnames])
  refine ⟨row, hrow, ?_, ?_⟩
  · have hsame : List.Forall₂ (· = ·) (row.members.map (·.1))
        ((columns.zip (values.map fun v => Cell.ofValue v.bound)).map (·.1)) :=
      List.forall₂_map_left_iff.mpr (List.forall₂_map_right_iff.mpr
        (hmembers.imp fun _ _ h => h.1))
    rwa [List.forall₂_eq_eq_eq, hnames] at hsame
  · have hread : List.Forall₂ (fun cell m => cell.Decoded m.2)
        ((columns.zip (values.map fun v => Cell.ofValue v.bound)).map (·.2)) row.members :=
      List.forall₂_map_left_iff.mpr (hmembers.flip.imp fun _ _ h => h.2)
    rw [hvalues, List.forall₂_map_left_iff] at hread
    exact List.forall₂_map_right_iff.mpr (hread.imp fun _ _ => Value.comesBack_of_decoded)

section Texts

variable (b : BlobTable c table columns)

/-- A table that has been made has no rows. -/
theorem rows_of_run_createTable {flag : Bool} {result : RunResult}
    (hcolumns : Sql.ColumnNames columns) (habsent : b.Absent state)
    (h : (c.executor.run (.createTable table (columns.map (ColumnDef.ofType · .blob)) flag) []).run
      state = (.ok (.done result), new)) : b.rows new = some [] := by
  have hrun := (Connection.run_change_eq_ok_iff rfl).mp h
  rw [Statement.sql, Sql.createTable_blob] at hrun
  exact b.create hcolumns habsent hrun

/-- The rows of a query are those of the table. -/
theorem run_select_iff (hcolumns : Sql.ColumnNames columns) (hrs : b.rows state = some rs)
    {listed : List Row} :
    (c.executor.run (.select table (columns.map .raw) {}) []).run state =
        (.ok (.rows listed), new) ↔
      new = state ∧
        (rs.map fun r => columns.map fun n => (n, r.cell n)).mapM Row.ofCells = .ok listed := by
  rw [Connection.run_query_eq_ok_iff rfl, Statement.sql, Sql.select_eq,
    b.select hcolumns hrs (.refl columns)]
  constructor
  · rintro ⟨found, h, hlisted⟩
    cases h
    exact ⟨rfl, hlisted⟩
  · rintro ⟨rfl, hlisted⟩
    exact ⟨_, rfl, hlisted⟩

end Texts

end BlobTable

/-! ## A table of bytes -/

/-- A table that can be made, added to and read. -/
structure BlobSheet where
  table : String
  columns : List String
  isName : Sql.IsName table

namespace BlobSheet

variable (s : BlobSheet) {names : List String} {values : List Value} {rs : List NumberedRow}

/-- What is answered to a text that is not understood. -/
def refusal : Failure := .database (some "1") "SQL logic error"

/-- The text that makes the table. -/
def creation : String :=
  "CREATE TABLE " ++ s.table ++ " (" ++ String.intercalate "," (s.columns.map (· ++ " BLOB")) ++ ");"

/-- The next number of a row. -/
def nextNumber (rs : List NumberedRow) : Int64 := (rs.getLast?.map (·.number)).getD 0 + 1

/-- A row of values in named columns. -/
def newRow (rs : List NumberedRow) (names : List String) (values : List Value) : NumberedRow where
  number := nextNumber rs
  cell n := (values[names.idxOf n]?).elim .null fun v => .ofValue v.bound

/-- Whether a row can be made of as many values in these columns. -/
def Takes (names : List String) (values : List Value) : Prop :=
  names ≠ [] ∧ names.Nodup ∧ (∀ n ∈ names, n ∈ s.columns) ∧ values.length = names.length

instance : Decidable (s.Takes names values) :=
  inferInstanceAs (Decidable (_ ∧ _ ∧ _ ∧ _))

/-- The connection to the table, which is there or not. -/
def connection : Connection (StateM (Option (List NumberedRow))) where
  execute sql values
    | none => if sql = s.creation then (.ok {}, some []) else (.error refusal, none)
    | some rs =>
      match Sql.readInsert sql with
      | some (table, names) =>
        if table = s.table ∧ s.Takes names values then
          (.ok ⟨1, nextNumber rs⟩, some (rs ++ [newRow rs names values]))
        else (.error refusal, some rs)
      | none => (.error refusal, some rs)
  fetchFirst _ _ rows := (.error refusal, rows)
  fetchAll sql _
    | none => (.error refusal, none)
    | some rs =>
      match Sql.readSelect sql with
      | some (table, names) =>
        if table = s.table ∧ ∀ n ∈ names, n ∈ s.columns then
          (.ok (rs.map fun r => names.map fun n => (n, r.cell n)), some rs)
        else (.error refusal, some rs)
      | none => (.error refusal, some rs)

/-- A text that does something where the table is missing makes it. -/
theorem eq_of_run_execute {sql : String} {result : RunResult} {new : Option (List NumberedRow)}
    (h : (s.connection.execute sql values).run none = (.ok result, new)) : new = some [] := by
  have hrun : (s.connection.execute sql values).run none =
      if sql = s.creation then (.ok {}, some []) else (.error refusal, none) := rfl
  rw [hrun] at h
  split at h
  · cases h
    rfl
  · cases h

theorem run_insert (hnames : ∀ n ∈ names, Sql.IsName n) (h : s.Takes names values) :
    (s.connection.execute (Sql.insert s.table names) values).run (some rs) =
      (.ok ⟨1, nextNumber rs⟩, some (rs ++ [newRow rs names values])) := by
  change (match Sql.readInsert _ with | some (_, _) => _ | none => _) = _
  rw [Sql.readInsert_insert s.isName hnames]
  exact if_pos ⟨rfl, h⟩

theorem run_select (hnames : ∀ n ∈ names, Sql.IsName n) (h : ∀ n ∈ names, n ∈ s.columns) :
    (s.connection.fetchAll (Sql.select s.table (names.map .raw) {}) []).run (some rs) =
      (.ok (rs.map fun r => names.map fun n => (n, r.cell n)), some rs) := by
  change (match Sql.readSelect _ with | some (_, _) => _ | none => _) = _
  rw [Sql.readSelect_select s.isName hnames]
  exact if_pos ⟨rfl, h⟩

theorem cell_newRow {k : Nat} {n : String} {v : Value} (hnames : names.Nodup)
    (hn : names[k]? = some n) (hv : values[k]? = some v) :
    (newRow rs names values).cell n = .ofValue v.bound := by
  obtain ⟨hk, rfl⟩ := List.getElem?_eq_some_iff.mp hn
  simp only [newRow, hnames.idxOf_getElem, hv, Option.elim_some]

theorem cell_newRow_of_not_mem {n : String} (hlength : values.length = names.length)
    (hn : n ∉ names) : (newRow rs names values).cell n = .null := by
  simp only [newRow, List.idxOf_eq_length hn, ← hlength, List.getElem?_eq_none (Nat.le_refl _),
    Option.elim_none]

/-- A sheet is a table of such columns. -/
def blobTable : BlobTable s.connection s.table s.columns where
  rows := id
  Absent := (· = none)
  Fits _ := True
  create _ habsent h := s.eq_of_run_execute (habsent ▸ h)
  insert {names values state rs} hcolumns hrs _ hne hnodup hmem hlength _ := by
    obtain rfl : state = some rs := hrs
    have hnames : ∀ n ∈ names, Sql.IsName n := fun n hn => hcolumns.names n (hmem n hn)
    exact ⟨_, _, _, s.run_insert hnames ⟨hne, hnodup, hmem, hlength⟩, rfl, rfl,
      fun _ _ _ => cell_newRow hnodup, fun _ => cell_newRow_of_not_mem hlength⟩
  select {names state rs} hcolumns hrs hperm := by
    obtain rfl : state = some rs := hrs
    have hmem : ∀ n ∈ names, n ∈ s.columns := fun n => hperm.mem_iff.mp
    rw [← Sql.select_eq]
    exact s.run_select (fun n hn => hcolumns.names n (hmem n hn)) hmem

end BlobSheet

end ParamSql
