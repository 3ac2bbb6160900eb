import ParamSql.Proofs.Document.LeftOut
import ParamSql.Proofs.Placeholder.Condition
import ParamSql.Sql.Statement

/-!
# What is left out

A change, a removal or a probe of rows is never without a condition.  If its filter is left out,
in a description or in a document, it says and binds what it does with the default filter given
explicitly.  The options of a query and of a view may be left out too, and then nothing stands in
for them; an offset without a limit says nothing.

## Main definitions

* `Statement.rowFilter?`, `Statement.withRowFilter`: the filter that may be left out
* `Statement.options?`, `Statement.withOptions`: the clauses that may be left out

## Main results

* `Predicate.sql_infix_condition`: every comparison of a filter stands in its condition
* `Statement.exists_frame`: every row filter is written as a condition
* `Statement.filter_eq_none`, `Statement.options_eq_empty`: what a document leaves out is not there
* `Statement.left_out_is_default`: what is left out is the explicit default
-/

namespace ParamSql

open Document (Node Source Field Values Represents)

/-! ## Conditions and clauses -/

namespace Sql

/-! ### Queries -/

/-- A query without options is that without any clause. -/
theorem selectWith_none (table : String) (columns : List SelectColumn) :
    selectWith table columns none = selectWith table columns (some {}) := by
  have hspaced : spaced [joinClause [], "", orderClause [], limitClause none none] = "" := by
    decide
  rw [selectWith, selectWith]
  unfold bareSelect select
  simp [hspaced, String.append_assoc]

theorem createViewWith_none (view table : String) (columns : List SelectColumn) (flag : Bool) :
    createViewWith view table columns none flag =
      createViewWith view table columns (some {}) flag := by
  unfold createViewWith
  rw [selectWith_none]

/-- An offset says nothing without a limit. -/
theorem select_offset {o : SelectOptions} (hlimit : o.limit = none) (m : Option UInt64)
    (table : String) (columns : List SelectColumn) :
    select table columns { o with offset := m } = select table columns o := by
  unfold select
  rw [hlimit, limitClause, limitClause]

/-! ### Groups -/

variable {sep first text : String} {texts : List String}

theorem infix_intercalate (h : text ∈ texts) :
    text.toList <:+: (String.intercalate sep texts).toList := by
  induction texts with
  | nil => cases h
  | cons t ts ih =>
    cases ts with
    | nil =>
      obtain rfl := List.mem_singleton.mp h
      exact List.infix_refl _
    | cons u us =>
      rw [String.intercalate_cons_cons, String.toList_append]
      rcases List.mem_cons.mp h with rfl | h
      · rw [String.toList_append, List.append_assoc]
        exact (List.prefix_append _ _).isInfix
      · exact (ih h).trans (List.suffix_append _ _).isInfix

/-- Every part of a group stands in it. -/
theorem infix_grouped (h : text ∈ first :: texts) :
    text.toList <:+: (grouped sep first texts).toList := by
  rw [grouped]
  split
  · next hempty =>
    rw [List.isEmpty_iff.mp hempty] at h
    rw [List.mem_singleton.mp h]
  · rw [String.toList_append, String.toList_append]
    exact (infix_intercalate h).trans (List.infix_append _ _ _)

/-- What stands behind the condition of a probe. -/
theorem probe_eq (table : String) (filter : Option Predicate) :
    probe table filter = "SELECT EXISTS(SELECT 1 FROM " ++ table ++ " " ++ whereOrDefault filter ++
      (") AS " ++ probeColumn ++ ";") := by
  unfold probe
  generalize probeColumn = column
  simp only [String.append_assoc]

end Sql

namespace Predicate

/-- **Every comparison stands in the condition**, with its placeholder. -/
theorem sql_infix_condition (p : Predicate) :
    ∀ l ∈ p.leaves, l.sql.toList <:+: p.condition.toList := by
  induction p using Predicate.induction with
  | node leaf ands ors hands hors =>
    intro l hl
    rw [leaves, leavesOfAll_eq_flatMap, leavesOfAll_eq_flatMap, List.mem_cons, List.mem_append,
      List.mem_flatMap, List.mem_flatMap] at hl
    rw [condition, conditions_eq_map, conditions_eq_map]
    have houter : (Sql.grouped " AND " leaf.sql (ands.map condition)).toList <:+:
        (Sql.grouped " OR " (Sql.grouped " AND " leaf.sql (ands.map condition))
          (ors.map condition)).toList := Sql.infix_grouped List.mem_cons_self
    rcases hl with rfl | ⟨p, hp, hl⟩ | ⟨p, hp, hl⟩
    · exact (Sql.infix_grouped List.mem_cons_self).trans houter
    · have hinner : p.condition ∈ leaf.sql :: ands.map condition :=
        List.mem_cons_of_mem _ (List.mem_map_of_mem hp)
      exact (hands p hp l hl).trans ((Sql.infix_grouped hinner).trans houter)
    · exact (hors p hp l hl).trans
        (Sql.infix_grouped (List.mem_cons_of_mem _ (List.mem_map_of_mem hp)))

theorem placeholderCount_pos (p : Predicate) : 0 < p.placeholderCount := by
  obtain ⟨leaf, ands, ors⟩ := p
  rw [placeholderCount]
  omega

end Predicate

namespace Statement

/-! ## Filters of rows -/

/-- The filter of the rows that a statement changes, removes or looks for; `some none` if it is
left out, and `none` for a statement that has no such filter. -/
def rowFilter? : Statement → Option (Option Predicate)
  | update _ _ filter => some filter
  | delete _ filter => some filter
  | .exists _ filter => some filter
  | _ => none

/-- The same statement with another filter of its rows. -/
def withRowFilter (filter : Option Predicate) : Statement → Statement
  | update table columns _ => update table columns filter
  | delete table _ => delete table filter
  | .exists table _ => .exists table filter
  | s => s

section Filters

variable {src : Source} {n : Node} {s : Statement} {f : Option Predicate}

theorem withRowFilter_self (h : s.rowFilter? = some f) : s.withRowFilter f = s := by
  cases s <;> cases h <;> rfl

/-- **A row filter is written as a condition**, between texts that do not depend on it. -/
theorem exists_frame (h : s.rowFilter? = some f) : ∃ lead tail, ∀ g : Option Predicate,
    (s.withRowFilter g).sql = lead ++ (g.getD .byDefault).whereClause ++ tail := by
  cases s with
  | update table columns =>
    refine ⟨"UPDATE " ++ table ++ " SET " ++ String.intercalate "," (columns.map (·.sql)) ++ " ",
      ";", fun g => ?_⟩
    rw [withRowFilter, sql]
    unfold Sql.update Sql.whereOrDefault
    rfl
  | delete table =>
    refine ⟨"DELETE FROM " ++ table ++ " ", ";", fun g => ?_⟩
    rw [withRowFilter, sql]
    unfold Sql.delete Sql.whereOrDefault
    rfl
  | «exists» table =>
    refine ⟨"SELECT EXISTS(SELECT 1 FROM " ++ table ++ " ", ") AS " ++ Sql.probeColumn ++ ";",
      fun g => ?_⟩
    rw [withRowFilter, sql, Sql.probe_eq]
    unfold Sql.whereOrDefault
    rfl
  | _ => cases h

theorem placeholderCount_pos (h : s.rowFilter? = some f) : 0 < s.placeholderCount := by
  have hcount : 0 < filterCount f := by
    cases f with
    | none => exact Nat.one_pos
    | some p => exact p.placeholderCount_pos
  cases s <;> cases h <;> simp only [placeholderCount] <;> omega

/-- The default filter binds the one value that is counted for a filter that is left out. -/
theorem placeholderCount_default (h : s.rowFilter? = some none) :
    s.placeholderCount = (s.withRowFilter (some .byDefault)).placeholderCount := by
  cases s <;> cases h <;> rfl

theorem sql_default (h : s.rowFilter? = some none) :
    s.sql = (s.withRowFilter (some .byDefault)).sql := by
  cases s <;> cases h <;> rfl

/-- **A filter that a document leaves out** is not there. -/
theorem filter_eq_none (h : decoder src n = .ok s) (hs : s.rowFilter? = some f)
    (hn : s.LeavesOut filterField n) : f = none := by
  obtain ⟨k, vs, rfl, hdefault⟩ := default_of_leavesOut h
  have hnull : ∀ w, filterField.decode .held .null = .ok w → filterField.default = some w :=
    fun w => (Field.ignoresNull_option Predicate.decoder w).mp
  have hfilter : Values.Holds filterField f k.fields vs := by
    cases k <;> cases hs
    · exact .there _ (.there _ (.here _))
    · exact .there _ (.here _)
    · exact .there _ (.here _)
  exact (Option.some.inj (hdefault filterField f hfilter hn hnull)).symm

/-- There are documents of every statement without a filter, with `null` or with nothing in the
place of the filter. -/
theorem exists_documents (hs : s.rowFilter? = some none) (src : Source) : ∃ before after,
    (∀ m ∈ before ++ after, m.1 ≠ "filter") ∧
      decoder src (.record (before ++ ("filter", .null) :: after)) = .ok s ∧
      decoder src (.record (before ++ after)) = .ok s := by
  obtain ⟨ms, hfree, hdecode⟩ : ∃ ms : List (String × Node),
      (∀ m ∈ ms, m.1 ≠ "filter") ∧ decoder src (.record ms) = .ok s := by
    cases s with
    | update table columns =>
      cases hs
      have hcolumns := Represents.list fun c (_ : c ∈ columns) => c.represents
      refine ⟨_, ?_, decoder_of_written (k := .update)
        (.there (.text table) (.there hcolumns (.missing rfl .nil))) src⟩
      simp [kindKey, name, Field.required]
    | delete table =>
      cases hs
      refine ⟨_, ?_, decoder_of_written (k := .delete)
        (.there (.text table) (.missing rfl .nil)) src⟩
      simp [kindKey, name, Field.required]
    | «exists» table =>
      cases hs
      refine ⟨_, ?_, decoder_of_written (k := .exists)
        (.there (.text table) (.missing rfl .nil)) src⟩
      simp [kindKey, name, Field.required]
    | _ => cases hs
  -- the member may stand anywhere; it is put at the end
  rw [← List.append_nil ms] at hfree hdecode
  exact ⟨ms, [], hfree, (decoder_insert_null hfree).mpr hdecode, hdecode⟩

end Filters

/-! ## Options of queries -/

/-- The clauses of a query, also of the query of a view. -/
def options? : Statement → Option SelectOptions
  | select _ _ options => some options
  | createView _ _ _ options _ => some options
  | _ => none

/-- The same statement with other clauses of its query. -/
def withOptions (options : SelectOptions) : Statement → Statement
  | select table columns _ => select table columns options
  | createView view table columns _ flag => createView view table columns options flag
  | s => s

section Options

variable {src : Source} {n : Node} {s : Statement} {o : SelectOptions}

/-- **Options that a document leaves out** are all empty. -/
theorem options_eq_empty (h : decoder src n = .ok s) (hs : s.options? = some o)
    (hn : s.LeavesOut optionsField n) : o = {} := by
  obtain ⟨k, vs, rfl, hdefault⟩ := default_of_leavesOut h
  have hnull : ∀ w, optionsField.decode .held .null = .ok w → optionsField.default = some w := by
    rintro w ⟨⟩
  have hoptions : Values.Holds optionsField o k.fields vs := by
    cases k <;> cases hs
    · exact .there _ (.there _ (.here _))
    · exact .there _ (.there _ (.there _ (.here _)))
  exact (Option.some.inj (hdefault optionsField o hoptions hn hnull)).symm

/-- There are documents of every query and view without options that leave them out. -/
theorem exists_document_without_options (hs : s.options? = some {}) (src : Source) :
    ∃ ms : List (String × Node), (∀ m ∈ ms, m.1 ≠ "options") ∧
      decoder src (.record ms) = .ok s := by
  cases s with
  | select table columns =>
    cases hs
    have hcolumns := Represents.list fun c (_ : c ∈ columns) => c.represents
    refine ⟨_, ?_, decoder_of_written (k := .select)
      (.there (.text table) (.there hcolumns (.missing rfl .nil))) src⟩
    simp [kindKey, name, Field.required]
  | createView view table columns options flag =>
    cases hs
    have hcolumns := Represents.list fun c (_ : c ∈ columns) => c.represents
    refine ⟨_, ?_, decoder_of_written (k := .createView)
      (.there (.text view) (.there (.text table) (.there hcolumns
        (.missing rfl (.there (.bool flag) .nil))))) src⟩
    simp [kindKey, name, Statement.flag, Field.required, Field.optional]
  | _ => cases hs

/-- An offset without a limit is neither written nor counted. -/
theorem offset_without_limit (hs : s.options? = some o) (hlimit : o.limit = none)
    (m : Option UInt64) :
    (s.withOptions { o with offset := m }).sql = s.sql ∧
      (s.withOptions { o with offset := m }).placeholderCount = s.placeholderCount := by
  cases s with
  | select table columns =>
    cases hs
    exact ⟨Sql.select_offset hlimit m table columns, rfl⟩
  | createView view table columns options flag =>
    cases hs
    refine ⟨?_, rfl⟩
    rw [withOptions, sql, sql]
    unfold Sql.createView
    rw [Sql.select_offset hlimit]
  | _ => cases hs

end Options

/-- **What is left out is the explicit default.**

A statement that changes, removes or looks for rows is written with a condition, whatever its
filter is, and every comparison of the filter stands in it with a placeholder; there is at least
one.  If the filter is left out, text and count are those with the default filter, and it is left
out if a document has nothing or `null` for it, of which there are both for every such statement.

A query or a view without options is that with options that are all empty, also in a document, of
which there is one for every such statement, and its offset says nothing without a limit. -/
theorem left_out_is_default :
    (∀ (s : Statement) (f : Option Predicate), s.rowFilter? = some f →
      s.withRowFilter f = s ∧
      (∃ lead tail, ∀ g : Option Predicate, (s.withRowFilter g).sql =
        lead ++ ("WHERE " ++ (g.getD .byDefault).condition) ++ tail) ∧
      (f.getD .byDefault).leaves ≠ [] ∧
      (∀ l ∈ (f.getD .byDefault).leaves,
        (l.operand ++ l.op.symbol ++ "?").toList <:+: (f.getD .byDefault).condition.toList) ∧
      0 < s.placeholderCount) ∧
    (∀ s : Statement, s.rowFilter? = some none →
      s.sql = (s.withRowFilter (some .byDefault)).sql ∧
      s.placeholderCount = (s.withRowFilter (some .byDefault)).placeholderCount) ∧
    (∀ (src : Source) (n : Node) (s : Statement) (f : Option Predicate),
      decoder src n = .ok s → s.rowFilter? = some f → s.LeavesOut filterField n → f = none) ∧
    (∀ (src : Source) (s : Statement), s.rowFilter? = some none → ∃ before after,
      (∀ m ∈ before ++ after, m.1 ≠ "filter") ∧
      decoder src (.record (before ++ ("filter", .null) :: after)) = .ok s ∧
      decoder src (.record (before ++ after)) = .ok s) ∧
    (∀ (table : String) (columns : List SelectColumn),
      Sql.selectWith table columns none = Sql.selectWith table columns (some {})) ∧
    (∀ (view table : String) (columns : List SelectColumn) (flag : Bool),
      Sql.createViewWith view table columns none flag =
        Sql.createViewWith view table columns (some {}) flag) ∧
    (∀ (src : Source) (n : Node) (s : Statement) (o : SelectOptions),
      decoder src n = .ok s → s.options? = some o → s.LeavesOut optionsField n → o = {}) ∧
    (∀ (src : Source) (s : Statement), s.options? = some {} → ∃ ms : List (String × Node),
      (∀ m ∈ ms, m.1 ≠ "options") ∧ decoder src (.record ms) = .ok s) ∧
    (∀ (s : Statement) (o : SelectOptions) (m : Option UInt64), s.options? = some o →
      o.limit = none →
      (s.withOptions { o with offset := m }).sql = s.sql ∧
      (s.withOptions { o with offset := m }).placeholderCount = s.placeholderCount) := by
  refine ⟨fun s f hs => ?_, fun s hs => ⟨sql_default hs, placeholderCount_default hs⟩,
    fun _ _ _ _ => filter_eq_none, fun src _ hs => exists_documents hs src, Sql.selectWith_none,
    Sql.createViewWith_none, fun _ _ _ _ => options_eq_empty,
    fun src _ hs => exists_document_without_options hs src, fun _ _ m hs hlimit => offset_without_limit hs hlimit m⟩
  refine ⟨withRowFilter_self hs, exists_frame hs, ?_, (f.getD .byDefault).sql_infix_condition,
    placeholderCount_pos hs⟩
  rw [← List.length_pos_iff, Predicate.length_leaves]
  exact Predicate.placeholderCount_pos _

/-- A removal of sessions, read by key and by position, and a query whose offset says nothing. -/
theorem left_out_is_default_sessions :
    (delete "sessions" none).sql = (delete "sessions" (some .byDefault)).sql ∧
    (∀ f, decoder .stream (.list [.text "delete", .text "sessions"]) =
      .ok (delete "sessions" f) → f = none) ∧
    decoder .stream (.list [.text "delete", .text "sessions"]) = .ok (delete "sessions" none) ∧
    (select "sessions" [] { offset := some 3 }).sql = (select "sessions" [] {}).sql := by
  obtain ⟨-, hdefault, hdocument, -, -, -, -, -, hoffset⟩ := left_out_is_default
  refine ⟨(hdefault (delete "sessions" none) rfl).1, fun f hf => ?_, rfl,
    (hoffset (select "sessions" [] {}) {} (some 3) rfl rfl).1⟩
  refine hdocument _ _ _ f hf rfl fun u hu => ?_
  simp [Document.given, kind, Kind.fields, kindField, kindKey, name, filterField, Field.required,
    Field.optional] at hu

end Statement

end ParamSql
