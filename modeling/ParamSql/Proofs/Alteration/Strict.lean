import ParamSql.Document.Alteration
import ParamSql.Proofs.Alteration.Word
import ParamSql.Proofs.Document.Roundtrip

/-!
# The loose and the strict form of an alteration

The strict form is what the loose form of exactly one operation becomes, and the loose form is
got back from it.  So the two forms correspond, apart from an added column that is a key or
unique: it has no strict form, on whichever way a strict form is reached.

## Main definitions

* `AlterOptions.Lists`: the names of the operations that are given

## Main results

* `AlterOptions.toAlteration_eq_ok_iff`: the strict form is the one of that loose form
* `AlterOptions.exists_toAlteration_iff`: which loose forms become strict
* `AlterOptions.loose_strict_correspondence`: the forms correspond, and no added column is written
  as a key
-/

namespace ParamSql

open Document (Node Decoder Source)
open Sql (Unkeyed alterTable)

/-- A column that may be added: neither a key nor unique. -/
def ColumnDef.Addable (c : ColumnDef) : Prop :=
  c.options.primaryKey = false ∧ c.options.unique = false

instance (c : ColumnDef) : Decidable c.Addable :=
  inferInstanceAs (Decidable (_ ∧ _))

namespace AlterOptions

variable {o : AlterOptions} {a : Alteration}

/-- The names are those of the operations that are given, in the order of their declaration. -/
structure Lists (o : AlterOptions) (names : List String) : Prop where
  declared : names.Sublist (fields.map (·.name))
  addColumn : "add_column" ∈ names ↔ o.addColumn.isSome
  dropColumnName : "drop_column_name" ∈ names ↔ o.dropColumnName.isSome
  newTableName : "new_table_name" ∈ names ↔ o.newTableName.isSome
  renameColumn : "rename_column" ∈ names ↔ o.renameColumn.isSome

theorem lists_populated (o : AlterOptions) : o.Lists o.populated := by
  have hone : ∀ (given : Bool) (name : String),
      (if given = true then [name] else []).Sublist [name] := by
    intro given name
    cases given
    · exact List.nil_sublist _
    · exact List.Sublist.refl _
  exact
    { declared := (((hone _ _).append (hone _ _)).append (hone _ _)).append (hone _ _)
      addColumn := by simp [populated]
      dropColumnName := by simp [populated]
      newTableName := by simp [populated]
      renameColumn := by simp [populated] }

/-- One operation: the loose form has nothing else. -/
theorem single_cases (h : o.populated.length = 1) :
    (∃ c, o = { addColumn := some c }) ∨ ∃ a : Alteration, o = a.toOptions := by
  obtain ⟨add, drop, table, rename⟩ := o
  cases add with
  | some c =>
    cases drop <;> cases table <;> cases rename <;> simp [populated] at h
    exact .inl ⟨c, rfl⟩
  | none =>
    refine .inr ?_
    cases drop with
    | some name =>
      cases table <;> cases rename <;> simp [populated] at h
      exact ⟨.dropColumn name, rfl⟩
    | none =>
      cases table with
      | some name =>
        cases rename <;> simp [populated] at h
        exact ⟨.renameTable name, rfl⟩
      | none =>
        cases rename with
        | some r => exact ⟨.renameColumn r.columnName r.newColumnName, rfl⟩
        | none => simp [populated] at h

/-- More than one operation is refused before any of them is looked at. -/
theorem toAlteration_of_many (h : 1 < o.populated.length) :
    o.toAlteration = .error (.ambiguousAlteration o.populated) :=
  if_pos h

theorem toAlteration_of_none (h : o.populated = []) : o.toAlteration = .error .emptyAlteration := by
  obtain ⟨add, drop, table, rename⟩ := o
  cases add <;> cases drop <;> cases table <;> cases rename <;> simp [populated] at h
  rfl

theorem addColumn?_eq_ok_iff {c : ColumnDef} :
    Alteration.addColumn? c = .ok a ↔ ∃ hkey hunique, a = .addColumn ⟨c, hkey, hunique⟩ := by
  constructor
  · intro h
    rw [Alteration.addColumn?] at h
    split at h
    · cases h
    · split at h
      · cases h
      · exact ⟨_, _, (Except.ok.inj h).symm⟩
  · rintro ⟨hkey, hunique, rfl⟩
    simp [Alteration.addColumn?, hkey, hunique]

/-- The one loose form of which an alteration is the strict form is its own. -/
theorem toAlteration_eq_ok_iff : o.toAlteration = .ok a ↔ a.toOptions = o := by
  constructor
  · intro h
    rcases Nat.lt_trichotomy o.populated.length 1 with hnone | hone | hmany
    · rw [toAlteration_of_none (List.length_eq_zero_iff.mp (Nat.lt_one_iff.mp hnone))] at h
      cases h
    · rcases single_cases hone with ⟨c, rfl⟩ | ⟨b, rfl⟩
      · obtain ⟨hkey, hunique, rfl⟩ := addColumn?_eq_ok_iff.mp h
        rfl
      · rw [b.toAlteration_toOptions] at h
        rw [Except.ok.inj h]
    · rw [toAlteration_of_many hmany] at h
      cases h
  · rintro rfl
    exact a.toAlteration_toOptions

theorem addable_toOptions (a : Alteration) : ∀ c ∈ a.toOptions.addColumn, c.Addable := by
  intro c hc
  cases a with
  | addColumn new =>
    obtain rfl := Option.some.inj hc
    exact ⟨new.notKey, new.notUnique⟩
  | _ => cases hc

theorem length_populated_toOptions (a : Alteration) : a.toOptions.populated.length = 1 := by
  cases a <;> rfl

/-- A loose form becomes strict when it has one operation and an added column may be added. -/
theorem exists_toAlteration_iff :
    (∃ a, o.toAlteration = .ok a) ↔
      o.populated.length = 1 ∧ ∀ c ∈ o.addColumn, c.Addable := by
  constructor
  · rintro ⟨a, h⟩
    obtain rfl := toAlteration_eq_ok_iff.mp h
    exact ⟨length_populated_toOptions a, addable_toOptions a⟩
  · rintro ⟨hone, hadd⟩
    rcases single_cases hone with ⟨c, rfl⟩ | ⟨a, rfl⟩
    · obtain ⟨hkey, hunique⟩ := hadd c rfl
      exact ⟨.addColumn ⟨c, hkey, hunique⟩, toAlteration_eq_ok_iff.mpr rfl⟩
    · exact ⟨a, a.toAlteration_toOptions⟩

/-- An alteration is read off the nodes that its loose form is read off. -/
theorem decoder_eq_ok_iff {src : Source} {n : Node} :
    Alteration.decoder src n = .ok a ↔ AlterOptions.decoder src n = .ok a.toOptions := by
  rw [Alteration.decoder, Decoder.refine]
  cases AlterOptions.decoder src n with
  | error e => exact iff_of_false (by rintro ⟨⟩) (by rintro ⟨⟩)
  | ok o =>
    rw [Except.ok.injEq, eq_comm (a := o), ← toAlteration_eq_ok_iff]
    change o.toAlteration.mapError _ = _ ↔ _
    cases o.toAlteration with
    | error e => exact iff_of_false (by rintro ⟨⟩) (by rintro ⟨⟩)
    | ok b => rw [Except.mapError, Except.ok.injEq, Except.ok.injEq]

/-! ## The two forms -/

/-- **The loose and the strict form correspond.**  A loose form becomes strict exactly when it
has one operation, which may be an added column only if that is neither a key nor unique, and
is got back from the strict form.  More than one operation is refused with their names, whatever
they are, and none is refused, too.  Conversely every alteration is the strict form of its loose
form, the checked constructor and the decoder give no other ones, none of them adds a key or a
unique column, and the statement that adds a column has the words of a key only from the strings
it is given. -/
theorem loose_strict_correspondence :
    (∀ o : AlterOptions, o.Lists o.populated ∧
      ((∃ a, o.toAlteration = .ok a) ↔
        o.populated.length = 1 ∧ ∀ c ∈ o.addColumn, c.Addable) ∧
      (∀ a, o.toAlteration = .ok a → a.toOptions = o) ∧
      (2 ≤ o.populated.length → o.toAlteration = .error (.ambiguousAlteration o.populated)) ∧
      (o.populated = [] → o.toAlteration = .error .emptyAlteration)) ∧
    (∀ a : Alteration, a.toOptions.toAlteration = .ok a ∧
      ∀ c ∈ a.toOptions.addColumn, c.Addable) ∧
    (∀ (c : ColumnDef) (a : Alteration),
      Alteration.addColumn? c = .ok a ↔ c.Addable ∧ a.toOptions = { addColumn := some c }) ∧
    (∀ (src : Source) (n : Node) (a : Alteration),
      Alteration.decoder src n = .ok a ↔ AlterOptions.decoder src n = .ok a.toOptions) ∧
    ∀ (table : String) (new : NewColumn), (∀ s ∈ table :: new.column.strings, Unkeyed s) →
      ¬ "UNIQUE".toList <:+: (alterTable table (.addColumn new)).toList ∧
      ¬ "PRIMARY KEY".toList <:+: (alterTable table (.addColumn new)).toList := by
  refine ⟨fun o => ⟨lists_populated o, exists_toAlteration_iff, ?_, toAlteration_of_many, ?_⟩,
    fun a => ⟨a.toAlteration_toOptions, addable_toOptions a⟩, fun c a => ?_,
    fun _ _ _ => decoder_eq_ok_iff, fun table new h => ?_⟩
  · exact fun a h => toAlteration_eq_ok_iff.mp h
  · exact toAlteration_of_none
  · -- a column on its own is a loose form
    change toAlteration { addColumn := some c } = .ok a ↔ _
    rw [toAlteration_eq_ok_iff]
    refine ⟨fun h => ⟨addable_toOptions a c (by rw [h]; rfl), h⟩, And.right⟩
  · obtain ⟨hunique, hkey⟩ := Sql.unkeyed_addColumn h
    exact ⟨hunique, fun hprimary => hkey (List.IsInfix.trans (by decide) hprimary)⟩

/-- A key column beside a new table name is ambiguous, on its own it is refused; a column that is
`NOT NULL` is added with no word of a key. -/
theorem loose_strict_correspondence_score :
    let key : ColumnDef := { name := "id", type := .integer, options := { primaryKey := true } }
    let both : AlterOptions := { addColumn := some key, newTableName := some "t" }
    let score : NewColumn :=
      ⟨⟨"score", .real, { notNull := true, default := some (.integer 0) }, none⟩, rfl, rfl⟩
    both.toAlteration = .error (.ambiguousAlteration ["add_column", "new_table_name"]) ∧
    (¬ ∃ a, Alteration.addColumn? key = .ok a) ∧
    (Alteration.addColumn score).toOptions.toAlteration = .ok (.addColumn score) ∧
    ¬ "UNIQUE".toList <:+: (alterTable "player" (.addColumn score)).toList := by
  intro key both score
  obtain ⟨hloose, hstrict, hadd, -, htext⟩ := loose_strict_correspondence
  refine ⟨(hloose both).2.2.2.1 (by decide), ?_, (hstrict _).1, (htext "player" score ?_).1⟩
  · rintro ⟨a, ha⟩
    exact absurd ((hadd key a).mp ha).1 (by decide)
  · decide

end AlterOptions

end ParamSql
