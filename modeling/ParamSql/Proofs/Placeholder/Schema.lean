import ParamSql.Proofs.Connection.Execution
import ParamSql.Proofs.Objects
import ParamSql.Proofs.Placeholder.Statement

/-!
# The placeholders of a schema

A schema is applied without values, but the filters of its views and its indexes are written like
all others, with a placeholder for each value.  So the texts of a schema have as many placeholders
as its filters have values, and where placeholders are refused without values only a schema without
filters creates its objects.

## Main definitions

* `Schema.strings`: every string of a schema
* `Schema.filters`: the filters of its views and its indexes
* `Schema.RefusesMarked e s`: what is known of an executor that refuses placeholders without values

## Main results

* `Schema.binds_createStatements`: the texts have one placeholder for each value of a filter
* `Schema.unmarked_createStatements_iff`: when they have none
* `Schema.filters_eq_nil_of_apply`: what can be applied has no filters
-/

namespace ParamSql

open Sql

theorem Predicate.leads_ne_nil (p : Predicate) : p.leads ≠ [] := by
  obtain ⟨leaf, ands, ors⟩ := p
  rw [leads, nodes]
  exact List.cons_ne_nil _ _

namespace Schema

variable {s : Schema} {flag : Bool}

/-- Every string of a schema, with those of its parts. -/
def strings (s : Schema) : List String :=
  s.tables.flatMap (fun t => t.name :: t.columns.flatMap (·.strings)) ++
  s.views.flatMap (fun v => v.name :: v.table ::
    (v.columns.flatMap (·.strings) ++ v.options.toList.flatMap (·.strings))) ++
  s.indexes.flatMap (fun i => i.name :: i.table ::
    (i.columns ++ i.filter.toList.flatMap (·.names)))

/-- The filters that a schema carries. -/
def filters (s : Schema) : List Predicate :=
  s.views.filterMap (fun v => v.options.bind (·.filter)) ++ s.indexes.filterMap (·.filter)

/-- The statements of a schema have its strings and no others. -/
theorem strings_createStatements (s : Schema) (flag : Bool) :
    (s.createStatements flag).flatMap (·.strings) = s.strings := by
  have hoptions : ∀ v : View,
      (v.options.getD {}).strings = v.options.toList.flatMap (·.strings) := by
    intro v
    cases v.options with
    | none => rfl
    | some o => simp
  simp only [createStatements, strings, List.flatMap_append, List.flatMap_map, Statement.strings,
    hoptions]

/-- The statements of a schema bind what its filters bind. -/
theorem leads_createStatements (s : Schema) (flag : Bool) :
    (s.createStatements flag).flatMap (·.leads) = s.filters.flatMap (·.leads) := by
  have htables : s.tables.flatMap (fun _ => ([] : List String)) = [] := by simp
  have hview : ∀ v : View, (v.options.getD {}).filter = v.options.bind (·.filter) := by
    intro v
    cases v.options <;> rfl
  simp only [createStatements, filters, List.flatMap_append, List.flatMap_map, Statement.leads,
    Statement.bareFilterLeads, htables, hview, List.nil_append, List.filterMap_eq_flatMap_toList,
    List.flatMap_assoc]

section Marked

variable (h : ∀ t ∈ s.strings, Unmarked t)

include h

theorem binds_of_mem_createStatements {t : Statement} (ht : t ∈ s.createStatements flag) :
    Binds t.leads t.sql := by
  refine t.binds_sql fun u hu => h u ?_
  rw [← strings_createStatements s flag]
  exact List.mem_flatMap.mpr ⟨t, ht, hu⟩

/-- **The placeholders of a schema** are those of its filters, those of views before those of
indexes. -/
theorem binds_createStatements :
    Binds (s.filters.flatMap (·.leads))
      (String.intercalate "\n" ((s.createStatements flag).map (·.sql))) := by
  rw [← leads_createStatements s flag]
  exact .intercalate (by decide) _ fun t ht => binds_of_mem_createStatements h ht

theorem unmarked_iff_filters (flag : Bool) :
    (∀ t ∈ s.createStatements flag, Unmarked t.sql) ↔ s.filters = [] := by
  have hleads : ∀ t ∈ s.createStatements flag, Unmarked t.sql ↔ t.leads = [] := by
    intro t ht
    have hbinds := binds_of_mem_createStatements h ht
    rw [Unmarked, ← List.count_eq_zero, hbinds.count_eq, List.length_eq_zero_iff]
  have hfilters : (∀ p ∈ s.filters, p.leads = []) ↔ s.filters = [] := by
    rw [List.eq_nil_iff_forall_not_mem]
    exact forall₂_congr fun p _ => iff_false_intro p.leads_ne_nil
  rw [forall₂_congr hleads, ← List.flatMap_eq_nil_iff, leads_createStatements,
    List.flatMap_eq_nil_iff, hfilters]

/-- **The texts of a schema have no placeholders** exactly if the schema has no filters. -/
theorem unmarked_createStatements_iff :
    (∀ t ∈ s.createStatements flag, Unmarked t.sql) ↔ s.filters = [] :=
  unmarked_iff_filters h flag

end Marked

/-- A schema that orders and limits its view, with an index on the whole of a table. -/
theorem unmarked_createStatements_leaderboard :
    let s : Schema :=
      { tables := [⟨"t", [.ofType "a" .integer]⟩],
        views := [⟨"v", "t", [.raw "*"], some { orderBy := [.desc "a"], limit := some 3 }⟩],
        indexes := [⟨"i", "t", ["a"], none⟩] }
    (∀ t ∈ s.strings, Unmarked t) ∧ ∀ t ∈ s.createStatements true, Unmarked t.sql := by
  intro s
  have h : ∀ t ∈ s.strings, Unmarked t := by decide
  exact ⟨h, (unmarked_createStatements_iff h).mpr rfl⟩

/-! ## Placeholders without values -/

/-- What is known of an executor that refuses placeholders without values in the statements of a
schema, where the object of such a statement is missing.  An object that is there is not created,
and its statement may pass. -/
structure RefusesMarked {σ : Type} (e : Executor (StateM σ)) (s : Schema) where
  /-- the object of the statement is not there -/
  Missing : Statement → σ → Prop
  refused {t : Statement} {state : σ} : t ∈ s.createStatements true → ¬ Unmarked t.sql →
    Missing t state → ∃ error, ((e.execute t.sql []).run state).1 = .error error
  /-- Another statement does not create the object. -/
  kept {t u : Statement} {state new : σ} {result : RunResult} : t ∈ s.createStatements true →
    ¬ Unmarked t.sql → u ∈ s.createStatements true → u ≠ t → Missing t state →
      (e.execute u.sql []).run state = (.ok result, new) → Missing t new

section Refused

variable {σ : Type} {e : Executor (StateM σ)} {state new : σ} {t : Statement}

/-- Statements do not succeed if one of them has a placeholder and its object is missing. -/
theorem RefusesMarked.run_executeAll_ne (r : RefusesMarked e s) {ts : List Statement}
    (hts : ∀ u ∈ ts, u ∈ s.createStatements true) (ht : t ∈ ts) (hmarked : ¬ Unmarked t.sql)
    (hmissing : r.Missing t state) : (e.executeAll (ts.map (·.sql))).run state ≠ (.ok (), new) := by
  have hmem := hts t ht
  intro h
  induction ts generalizing state with
  | nil => cases ht
  | cons u us ih =>
    obtain ⟨hu, hus⟩ := List.forall_mem_cons.mp hts
    obtain ⟨result, mid, hrun, hrest⟩ := Executor.exists_of_run_executeAll_cons h
    by_cases hut : u = t
    · obtain ⟨error, herror⟩ := r.refused hmem hmarked hmissing
      rw [← hut, hrun] at herror
      cases herror
    · have hlater : t ∈ us := List.mem_of_ne_of_mem (Ne.symm hut) ht
      exact ih hus hlater (r.kept hmem hmarked hu hut hmissing hrun) hrest

/-- Where placeholders are refused, the statements of a schema that has been applied have none. -/
theorem unmarked_of_apply (r : RefusesMarked e s)
    (hmissing : ∀ t ∈ s.createStatements true, ¬ Unmarked t.sql → r.Missing t state)
    (h : (e.apply s).run state = (.ok (), new)) : ∀ t ∈ s.createStatements true, Unmarked t.sql := by
  intro t ht
  by_contra hmarked
  rw [Executor.apply, createSql_eq] at h
  exact r.run_executeAll_ne (fun _ => id) ht hmarked (hmissing t ht hmarked) h

/-- **What can be applied has no filters**, where placeholders are refused. -/
theorem filters_eq_nil_of_apply (hstrings : ∀ t ∈ s.strings, Unmarked t) (r : RefusesMarked e s)
    (hmissing : ∀ t ∈ s.createStatements true, ¬ Unmarked t.sql → r.Missing t state)
    (h : (e.apply s).run state = (.ok (), new)) : s.filters = [] :=
  (unmarked_iff_filters hstrings true).mp (unmarked_of_apply r hmissing h)

end Refused

/-- A schema with an index on a part of a table has a placeholder, and cannot be applied where
placeholders are refused and the index is missing. -/
theorem createStatements_marked_partial :
    let s : Schema :=
      { tables := [⟨"t", [.ofType "a" .integer]⟩],
        indexes := [⟨"i", "t", ["a"], some (.compare "a" .gt)⟩] }
    (∀ t ∈ s.strings, Unmarked t) ∧ (∃ t ∈ s.createStatements true, ¬ Unmarked t.sql) ∧
      ∀ (σ : Type) (e : Executor (StateM σ)) (r : RefusesMarked e s) (state : σ),
        (∀ t ∈ s.createStatements true, ¬ Unmarked t.sql → r.Missing t state) →
          ((e.apply s).run state).1 ≠ .ok () := by
  intro s
  have h : ∀ t ∈ s.strings, Unmarked t := by decide
  have hmarked : ∃ t ∈ s.createStatements true, ¬ Unmarked t.sql :=
    ⟨.createIndex "i" "t" ["a"] true (some (.compare "a" .gt)), .tail _ (.head _), by decide⟩
  refine ⟨h, hmarked, fun σ e r state hmissing hok => ?_⟩
  obtain ⟨t, ht, htext⟩ := hmarked
  exact htext (unmarked_of_apply r hmissing (Prod.ext hok rfl) t ht)

end Schema

end ParamSql
