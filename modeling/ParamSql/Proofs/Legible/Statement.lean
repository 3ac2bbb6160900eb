import ParamSql.Document.Statement
import ParamSql.Proofs.Legible.Query

/-!
# Statements can be told apart

The text of a statement tells its kind by its first words, and then its parts, one after the
other.  What it does not tell is what is not written: that a filter was missing where the filter
on `id` stands in for it, that an adjustment adjusts nothing, and an offset without a limit.

## Main definitions

* `Statement.normal`: the statement without what its text does not tell
* `Statement.Named`: all strings are names, all selected columns are columns, and the kind is
  none of those that declare columns
* `Statement.Kind.lead`: the words that the statements of a kind begin with

## Main results

* `Statement.kind_eq_of_sql_eq`: the kind
* `Sql.eq_of_insert`, `Sql.eq_of_update`, `Sql.eq_of_probe`, `Sql.eq_of_createView` and others:
  the parts of a statement of a given kind
* `Statement.sql_eq_iff`: all of the statement
-/

namespace ParamSql

open Sql

/-! ## What a text does not tell -/

namespace Statement

/-- The statement with the filter that stands in for a missing one, and without adjustments that
adjust nothing and offsets without a limit. -/
def normal : Statement → Statement
  | select table columns o => select table columns o.normal
  | update table columns filter =>
    update table (columns.map (·.normal)) (some (filter.getD .byDefault))
  | delete table filter => delete table (some (filter.getD .byDefault))
  | .exists table filter => .exists table (some (filter.getD .byDefault))
  | createView view table columns o flag => createView view table columns o.normal flag
  | s => s

theorem limitClause_normal (o : SelectOptions) :
    limitClause o.normal.limit o.normal.offset = limitClause o.limit o.offset := by
  obtain ⟨_, _, _, _, limit, _⟩ := o
  cases limit <;> rfl

/-- What a text does not tell is not written. -/
theorem sql_normal (s : Statement) : s.normal.sql = s.sql := by
  have hselect : ∀ table columns (o : SelectOptions),
      Sql.select table columns o.normal = Sql.select table columns o := by
    intro table columns o
    delta Sql.select
    rw [limitClause_normal]
    rfl
  cases s with
  | select table columns o => exact hselect table columns o
  | update table columns filter =>
    have hsql : (columns.map (·.normal)).map (·.sql) = columns.map (·.sql) := by
      rw [List.map_map]
      exact List.map_congr_left fun a _ => a.sql_normal
    rw [normal, sql, sql]
    delta Sql.update
    rw [hsql]
    rfl
  | createView view table columns o flag =>
    rw [normal, sql, sql]
    delta Sql.createView
    rw [hselect]
  | _ => rfl

/-! ## Statements of names -/

/-- The selected columns of a statement that is or holds a query. -/
def selected : Statement → List SelectColumn
  | select _ columns _ => columns
  | createView _ _ columns _ _ => columns
  | _ => []

/-- All strings are names, all selected columns are columns, and the statement declares no
columns. -/
structure Named (s : Statement) : Prop where
  names : ∀ t ∈ s.strings, IsName t
  refs : ∀ c ∈ s.selected, ∃ r, c = .ref r
  not_createTable : s.kind ≠ .createTable
  not_alterTable : s.kind ≠ .alterTable

end Statement

theorem SelectOptions.named_of_strings {o : SelectOptions} (h : ∀ t ∈ o.strings, IsName t) :
    o.Named := by
  simp only [strings, List.forall_mem_append] at h
  obtain ⟨⟨hjoins, hfilter⟩, horder⟩ := h
  refine ⟨fun j hj t ht => hjoins t ?_, fun p hp name hname => (hfilter name ?_).1,
    fun term hterm t ht => horder t ?_⟩
  · exact List.mem_flatMap.mpr ⟨j, hj, ht⟩
  · exact List.mem_flatMap.mpr ⟨p, Option.mem_toList.mpr hp, hname⟩
  · exact List.mem_flatMap.mpr ⟨term, hterm, ht⟩

/-- A filter of names is made of words, and so is the one that stands in for it. -/
theorem Predicate.worded_of_names {filter : Option Predicate}
    (h : ∀ t ∈ filter.toList.flatMap (·.names), IsName t) :
    (∀ p ∈ filter, p.Worded) ∧ (filter.getD .byDefault).Worded := by
  have hfilter : ∀ p ∈ filter, p.Worded := fun p hp name hname =>
    (h name (List.mem_flatMap.mpr ⟨p, Option.mem_toList.mpr hp, hname⟩)).1
  refine ⟨hfilter, ?_⟩
  cases filter with
  | none => unfold Worded; decide
  | some p => exact hfilter p rfl

theorem SelectColumn.named_of_strings {columns : List SelectColumn}
    (h : ∀ t ∈ columns.flatMap (·.strings), IsName t) (hrefs : ∀ c ∈ columns, ∃ r, c = .ref r) :
    ∀ c ∈ columns, c.Named :=
  fun c hc => ⟨hrefs c hc, fun t ht => h t (List.mem_flatMap.mpr ⟨c, hc, ht⟩)⟩

/-! ## The parts of a statement -/

namespace Sql

variable {table table' : String} {filter filter' : Option Predicate}

/-- Names between parentheses are told, up to the closing one. -/
theorem eq_of_listed_names {names names' : List String} {r s : List Char}
    (h : ∀ n ∈ names, IsName n) (h' : ∀ n ∈ names', IsName n)
    (heq : listed [] ",".toList String.toList names ++ ')' :: r =
      listed [] ",".toList String.toList names' ++ ')' :: s) : names = names' ∧ r = s := by
  have hclose : ∀ r, (EndsWord (')' :: r) ∧ ∀ more, ')' :: r ≠ ",".toList ++ more) ∧
      ∀ n : String, isWord n.toList = true → ∀ more, ')' :: r ≠ [] ++ (n.toList ++ more) := by
    refine fun r => ⟨⟨endsWord_cons rfl _, fun more h => by cases h⟩, ?_⟩
    intro n hn more heq
    exact (startsWord_append hn more).ne_cons rfl _ heq.symm
  obtain ⟨rfl, hrest⟩ := Legible.listed (fun n hn => legible_word (h n hn).1)
    (fun n hn => (h n hn).1) (fun _ => endsWord_cons rfl _) (fun n hn => (h' n hn).1)
    (hclose r) (hclose s) heq
  exact ⟨rfl, List.tail_eq_of_cons_eq hrest⟩

theorem toList_insert (table : String) (columns : List String) :
    (insert table columns).toList = "INSERT INTO ".toList ++ (table.toList ++ '(' ::
      (listed [] ",".toList String.toList columns ++ ')' ::
        (" VALUES(" ++ String.intercalate "," (columns.map fun _ => "?") ++ ");").toList)) := by
  have hlist := toList_intercalate "," columns id
  rw [List.map_id] at hlist
  delta insert
  simp only [String.toList_append, List.append_assoc, hlist]
  rfl

theorem eq_of_insert {columns columns' : List String} (ht : IsName table) (ht' : IsName table')
    (hc : ∀ c ∈ columns, IsName c) (hc' : ∀ c ∈ columns', IsName c)
    (h : insert table columns = insert table' columns') :
    table = table' ∧ columns = columns' := by
  have hopen : ∀ cs, EndsWord ('(' :: cs) := endsWord_cons rfl
  have hlist := congrArg String.toList h
  rw [toList_insert, toList_insert] at hlist
  obtain ⟨rfl, hrest⟩ := legible_word ht.1 ht'.1 (hopen _) (hopen _)
    (List.append_cancel_left hlist)
  obtain ⟨rfl, -⟩ := eq_of_listed_names hc hc' (List.tail_eq_of_cons_eq hrest)
  exact ⟨rfl, rfl⟩

theorem toList_whereOrDefault (filter : Option Predicate) (r : List Char) :
    " ".toList ++ ((whereOrDefault filter).toList ++ r) =
      " WHERE ".toList ++ ((filter.getD .byDefault).condition.toList ++ r) := by
  rw [whereOrDefault, Predicate.whereClause, String.toList_append, List.append_assoc]
  rfl

/-- A table with the filter behind it. -/
theorem eq_of_filtered (ht : IsName table) (ht' : IsName table') {p q : Predicate} (hp : p.Worded)
    (hq : q.Worded) {r s : List Char}
    (h : table.toList ++ (" WHERE ".toList ++ (p.condition.toList ++ r)) =
      table'.toList ++ (" WHERE ".toList ++ (q.condition.toList ++ s))) :
    table = table' ∧ p = q := by
  have hspace : ∀ cs, EndsWord (" WHERE ".toList ++ cs) := fun _ => endsWord_cons rfl _
  obtain ⟨rfl, hrest⟩ := legible_word ht.1 ht'.1 (hspace _) (hspace _) h
  obtain ⟨rfl, -⟩ := Predicate.legible_condition hp hq trivial trivial
    (List.append_cancel_left hrest)
  exact ⟨rfl, rfl⟩

theorem toList_delete (table : String) (filter : Option Predicate) :
    (delete table filter).toList = "DELETE FROM ".toList ++ (table.toList ++ (" WHERE ".toList ++
      ((filter.getD .byDefault).condition.toList ++ ";".toList))) := by
  delta delete
  simp only [String.toList_append, List.append_assoc, toList_whereOrDefault]

theorem eq_of_delete (ht : IsName table) (ht' : IsName table')
    (hf : (filter.getD .byDefault).Worded) (hf' : (filter'.getD .byDefault).Worded)
    (h : delete table filter = delete table' filter') :
    table = table' ∧ filter.getD .byDefault = filter'.getD .byDefault := by
  have hlist := congrArg String.toList h
  rw [toList_delete, toList_delete] at hlist
  exact eq_of_filtered ht ht' hf hf' (List.append_cancel_left hlist)

theorem toList_probe (table : String) (filter : Option Predicate) :
    (probe table filter).toList = "SELECT EXISTS(SELECT 1 FROM ".toList ++ (table.toList ++
      (" WHERE ".toList ++ ((filter.getD .byDefault).condition.toList ++
        (") AS ".toList ++ (probeColumn.toList ++ ";".toList))))) := by
  delta probe
  simp only [String.toList_append, List.append_assoc, toList_whereOrDefault]

theorem eq_of_probe (ht : IsName table) (ht' : IsName table')
    (hf : (filter.getD .byDefault).Worded) (hf' : (filter'.getD .byDefault).Worded)
    (h : probe table filter = probe table' filter') :
    table = table' ∧ filter.getD .byDefault = filter'.getD .byDefault := by
  have hlist := congrArg String.toList h
  rw [toList_probe, toList_probe] at hlist
  exact eq_of_filtered ht ht' hf hf' (List.append_cancel_left hlist)

theorem toList_update (table : String) (columns : List Assignment) (filter : Option Predicate) :
    (update table columns filter).toList = "UPDATE ".toList ++ (table.toList ++ (" SET ".toList ++
      (listed [] ",".toList (fun a : Assignment => a.sql.toList) columns ++ (" WHERE ".toList ++
        ((filter.getD .byDefault).condition.toList ++ ";".toList))))) := by
  have hlist := toList_intercalate "," columns Assignment.sql
  delta update
  simp only [String.toList_append, List.append_assoc, toList_whereOrDefault, hlist]

theorem eq_of_update {columns columns' : List Assignment} (ht : IsName table)
    (ht' : IsName table') (hc : ∀ a ∈ columns, a.Named) (hc' : ∀ a ∈ columns', a.Named)
    (hf : (filter.getD .byDefault).Worded) (hf' : (filter'.getD .byDefault).Worded)
    (h : update table columns filter = update table' columns' filter') :
    table = table' ∧ columns = columns' ∧
      filter.getD .byDefault = filter'.getD .byDefault := by
  have hset : ∀ cs, EndsWord (" SET ".toList ++ cs) := fun _ => endsWord_cons rfl _
  have hwhere : ∀ cs, (True ∧ ∀ more, " WHERE ".toList ++ cs ≠ ",".toList ++ more) ∧
      ∀ a : Assignment, a.Named →
        ∀ more, " WHERE ".toList ++ cs ≠ [] ++ (a.sql.toList ++ more) := by
    refine fun cs => ⟨⟨trivial, fun more h => by cases h⟩, fun a ha more heq => ?_⟩
    exact (ha.startsWord more).ne_cons rfl _ heq.symm
  have hlist := congrArg String.toList h
  rw [toList_update, toList_update] at hlist
  obtain ⟨rfl, hrest⟩ := legible_word ht.1 ht'.1 (hset _) (hset _) (List.append_cancel_left hlist)
  obtain ⟨rfl, hfilter⟩ := Legible.listed (fun a ha => Assignment.legible_sql (hc a ha)) hc
    (fun _ => trivial) hc' (hwhere _) (hwhere _) (List.append_cancel_left hrest)
  obtain ⟨hp, -⟩ := Predicate.legible_condition hf hf' trivial trivial
    (List.append_cancel_left hfilter)
  exact ⟨rfl, rfl, hp⟩

/-! ## Objects -/

/-- A flag in front of the name of an object. -/
theorem eq_of_flagged {flag flag' : Bool} {name name' : String} (hn : IsName name)
    (hn' : IsName name') {words : String} (hwords : "IF ".toList <+: words.toList)
    {r s : List Char} (hr : EndsWord r) (hs : EndsWord s)
    (h : (if flag then words.toList else []) ++ (name.toList ++ r) =
      (if flag' then words.toList else []) ++ (name'.toList ++ s)) :
    flag = flag' ∧ name = name' ∧ r = s := by
  obtain ⟨rest, hrest⟩ := hwords
  have hif : ∀ {name : String}, IsName name → ∀ {cs}, EndsWord cs → ∀ more,
      name.toList ++ cs ≠ words.toList ++ more := by
    intro name hname cs hcs more
    have hspace : EndsWord (' ' :: (rest ++ more)) := endsWord_cons rfl _
    rw [← hrest, List.append_assoc]
    exact StartsName.ne_keyword ⟨name, cs, hname, hcs, rfl⟩ (k := "IF") (by decide)
      (by decide +kernel) hspace
  obtain ⟨rfl, hname⟩ := eq_of_flag (hif hn hr) (hif hn' hs) h
  obtain ⟨rfl, rfl⟩ := legible_word hn.1 hn'.1 hr hs hname
  exact ⟨rfl, rfl, rfl⟩

theorem toList_drop (kind name : String) (flag : Bool) :
    (drop kind name flag).toList = ("DROP " ++ kind ++ " ").toList ++
      ((if flag then "IF EXISTS ".toList else []) ++ (name.toList ++ ";".toList)) := by
  cases flag <;> simp [drop]

theorem eq_of_drop {kind name name' : String} {flag flag' : Bool} (hn : IsName name)
    (hn' : IsName name') (h : drop kind name flag = drop kind name' flag') :
    name = name' ∧ flag = flag' := by
  have hlist := congrArg String.toList h
  rw [toList_drop, toList_drop] at hlist
  have hwords : "IF ".toList <+: "IF EXISTS ".toList := by decide
  have hend : EndsWord ";".toList := endsWord_cons rfl _
  obtain ⟨rfl, rfl, -⟩ := eq_of_flagged hn hn' hwords hend hend (List.append_cancel_left hlist)
  exact ⟨rfl, rfl⟩

theorem toList_unlessExists (flag : Bool) :
    (unlessExists flag).toList = if flag then "IF NOT EXISTS ".toList else [] := by
  cases flag <;> rfl

theorem toList_createView (view table : String) (columns : List SelectColumn) (o : SelectOptions)
    (flag : Bool) :
    (createView view table columns o flag).toList = "CREATE VIEW ".toList ++
      ((if flag then "IF NOT EXISTS ".toList else []) ++ (view.toList ++ (" AS ".toList ++
        (select table columns o).toList))) := by
  delta createView
  simp only [String.toList_append, List.append_assoc, toList_unlessExists]

theorem eq_of_createView {view view' : String} {columns columns' : List SelectColumn}
    {o o' : SelectOptions} {flag flag' : Bool} (hv : IsName view) (hv' : IsName view')
    (ht : IsName table) (ht' : IsName table') (hc : ∀ c ∈ columns, c.Named)
    (hc' : ∀ c ∈ columns', c.Named) (ho : o.Named) (ho' : o'.Named)
    (h : createView view table columns o flag = createView view' table' columns' o' flag') :
    view = view' ∧ table = table' ∧ columns = columns' ∧ o.normal = o'.normal ∧ flag = flag' := by
  have hlist := congrArg String.toList h
  rw [toList_createView, toList_createView] at hlist
  have has : ∀ cs, EndsWord (" AS ".toList ++ cs) := fun _ => endsWord_cons rfl _
  obtain ⟨rfl, rfl, hquery⟩ := eq_of_flagged hv hv' (by decide) (has _) (has _)
    (List.append_cancel_left hlist)
  obtain ⟨rfl, rfl, hoptions⟩ := eq_of_select ht ht' hc hc' ho ho'
    (List.append_cancel_left hquery)
  exact ⟨rfl, rfl, rfl, hoptions, rfl⟩

theorem toList_createIndex (index table : String) (columns : List String) (flag : Bool)
    (filter : Option Predicate) :
    (createIndex index table columns flag filter).toList = "CREATE INDEX ".toList ++
      ((if flag then "IF NOT EXISTS ".toList else []) ++ (index.toList ++ (" ON ".toList ++
        (table.toList ++ (" (".toList ++ (listed [] ",".toList String.toList columns ++
          ')' :: (filterText filter ++ ";".toList))))))) := by
  have hlist := toList_intercalate "," columns id
  rw [List.map_id] at hlist
  delta createIndex
  cases filter with
  | none =>
    simp only [String.toList_append, List.append_assoc, toList_unlessExists, hlist]
    rfl
  | some p =>
    simp only [String.toList_append, List.append_assoc, toList_unlessExists, hlist, filterText,
      Predicate.whereClause, Option.toList_some, List.flatMap_singleton]
    rfl

theorem eq_of_createIndex {index index' : String} {columns columns' : List String}
    {flag flag' : Bool} (hi : IsName index) (hi' : IsName index') (ht : IsName table)
    (ht' : IsName table') (hc : ∀ c ∈ columns, IsName c) (hc' : ∀ c ∈ columns', IsName c)
    (hf : ∀ p ∈ filter, p.Worded) (hf' : ∀ p ∈ filter', p.Worded)
    (h : createIndex index table columns flag filter =
      createIndex index' table' columns' flag' filter') :
    index = index' ∧ table = table' ∧ columns = columns' ∧ flag = flag' ∧ filter = filter' := by
  have hon : ∀ cs, EndsWord (" ON ".toList ++ cs) := fun _ => endsWord_cons rfl _
  have hopen : ∀ cs, EndsWord (" (".toList ++ cs) := fun _ => endsWord_cons rfl _
  have hend : True ∧ ∀ more, ";".toList ≠ " WHERE ".toList ++ more :=
    ⟨trivial, fun more h => by cases h⟩
  have hlist := congrArg String.toList h
  rw [toList_createIndex, toList_createIndex] at hlist
  obtain ⟨rfl, rfl, hrest⟩ := eq_of_flagged hi hi' (by decide) (hon _) (hon _)
    (List.append_cancel_left hlist)
  obtain ⟨rfl, hnames⟩ := legible_word ht.1 ht'.1 (hopen _) (hopen _)
    (List.append_cancel_left hrest)
  obtain ⟨rfl, hfilter⟩ := eq_of_listed_names hc hc' (List.append_cancel_left hnames)
  obtain ⟨rfl, -⟩ := Legible.option (fun p hp => Predicate.legible_condition (hf p hp))
    (fun _ => trivial) hf' hend hend hfilter
  exact ⟨rfl, rfl, rfl, rfl, rfl⟩

end Sql

/-! ## The kind of a statement -/

namespace Statement

/-- The words that the statements of a kind begin with. -/
def Kind.lead : Kind → String
  | select => "SELECT "
  | insert => "INSERT INTO "
  | update => "UPDATE "
  | delete => "DELETE FROM "
  | .exists => "SELECT EXISTS("
  | createTable => "CREATE TABLE "
  | alterTable => "ALTER TABLE "
  | dropTable => "DROP TABLE "
  | createView => "CREATE VIEW "
  | dropView => "DROP VIEW "
  | createIndex => "CREATE INDEX "
  | dropIndex => "DROP INDEX "

/-- Only probes begin with the words of another kind. -/
theorem Kind.eq_of_lead_prefix {k l : Kind} (h : k.lead.toList <+: l.lead.toList) :
    k = l ∨ k = .select ∧ l = .exists := by
  revert h
  cases k <;> cases l <;> decide

theorem lead_prefix (s : Statement) : s.kind.lead.toList <+: s.sql.toList := by
  -- the fixed words in front of the first part may go on behind those of the kind
  have hlead : ∀ {u v r cs : List Char}, cs = v ++ r → u <+: v → u <+: cs := by
    rintro u v r _ rfl h
    exact h.trans (List.prefix_append v r)
  have hprobe : (Kind.lead .exists).toList <+: "SELECT EXISTS(SELECT 1 FROM ".toList := by decide
  have hdrop : (Kind.lead .dropTable).toList <+: ("DROP " ++ "TABLE" ++ " ").toList ∧
      (Kind.lead .dropView).toList <+: ("DROP " ++ "VIEW" ++ " ").toList ∧
      (Kind.lead .dropIndex).toList <+: ("DROP " ++ "INDEX" ++ " ").toList := by decide
  cases s with
  | select table columns o => exact hlead (toList_select table columns o) List.prefix_rfl
  | insert table columns => exact hlead (toList_insert table columns) List.prefix_rfl
  | update table columns filter =>
    exact hlead (toList_update table columns filter) List.prefix_rfl
  | delete table filter => exact hlead (toList_delete table filter) List.prefix_rfl
  | «exists» table filter => exact hlead (toList_probe table filter) hprobe
  | createTable table columns flag =>
    delta sql Sql.createTable
    simp only [String.toList_append, List.append_assoc]
    exact List.prefix_append _ _
  | alterTable table alter =>
    delta sql Sql.alterTable
    simp only [String.toList_append, List.append_assoc]
    exact List.prefix_append _ _
  | dropTable table flag => exact hlead (toList_drop "TABLE" table flag) hdrop.1
  | createView view table columns o flag =>
    exact hlead (toList_createView view table columns o flag) List.prefix_rfl
  | dropView view flag => exact hlead (toList_drop "VIEW" view flag) hdrop.2.1
  | createIndex index table columns flag filter =>
    exact hlead (toList_createIndex index table columns flag filter) List.prefix_rfl
  | dropIndex index flag => exact hlead (toList_drop "INDEX" index flag) hdrop.2.2

/-- A query does not begin like a probe: its select list does not begin with a keyword. -/
theorem select_ne_probe {table table' : String} {columns : List SelectColumn} {o : SelectOptions}
    {filter : Option Predicate} (hc : ∀ c ∈ columns, c.Named) :
    Sql.select table columns o ≠ probe table' filter := by
  intro h
  have hwords : "SELECT EXISTS(SELECT 1 FROM ".toList =
      "SELECT ".toList ++ ("EXISTS".toList ++ '(' :: "SELECT 1 FROM ".toList) := by decide
  have hlist := congrArg String.toList h
  rw [toList_select, toList_probe, hwords, List.append_assoc, List.append_assoc] at hlist
  have hbehind := List.append_cancel_left hlist
  cases hflag : o.distinct with
  | true => simp [hflag] at hbehind
  | false =>
    have hopen : ∀ cs, EndsWord ('(' :: cs) := endsWord_cons rfl
    rw [hflag] at hbehind
    exact selectList_ne_keyword hc _ (k := "EXISTS") (by decide) (by decide +kernel) (hopen _)
      hbehind

namespace Named

variable {table : String} {filter : Option Predicate}

theorem select {columns : List SelectColumn} {o : SelectOptions}
    (h : (select table columns o).Named) :
    IsName table ∧ (∀ c ∈ columns, c.Named) ∧ o.Named := by
  have hnames := h.names
  simp only [strings, List.forall_mem_cons, List.forall_mem_append] at hnames
  obtain ⟨ht, hc, ho⟩ := hnames
  exact ⟨ht, SelectColumn.named_of_strings hc h.refs, SelectOptions.named_of_strings ho⟩

theorem createView {view : String} {columns : List SelectColumn} {o : SelectOptions} {flag : Bool}
    (h : (createView view table columns o flag).Named) :
    IsName view ∧ IsName table ∧ (∀ c ∈ columns, c.Named) ∧ o.Named := by
  have hnames := h.names
  simp only [strings, List.forall_mem_cons, List.forall_mem_append] at hnames
  obtain ⟨hv, ht, hc, ho⟩ := hnames
  exact ⟨hv, ht, SelectColumn.named_of_strings hc h.refs, SelectOptions.named_of_strings ho⟩

theorem update {columns : List Assignment} (h : (update table columns filter).Named) :
    IsName table ∧ (∀ a ∈ columns.map (·.normal), a.Named) ∧
      (filter.getD .byDefault).Worded := by
  have hnames := h.names
  simp only [strings, List.forall_mem_cons, List.forall_mem_append, List.forall_mem_map]
    at hnames
  obtain ⟨ht, hc, hf⟩ := hnames
  exact ⟨ht, List.forall_mem_map.mpr fun a ha => a.named_normal (hc a ha),
    (Predicate.worded_of_names hf).2⟩

theorem delete (h : (delete table filter).Named) :
    IsName table ∧ (filter.getD .byDefault).Worded := by
  obtain ⟨ht, hf⟩ := List.forall_mem_cons.mp h.names
  exact ⟨ht, (Predicate.worded_of_names hf).2⟩

theorem «exists» (h : (Statement.exists table filter).Named) :
    IsName table ∧ (filter.getD .byDefault).Worded := by
  obtain ⟨ht, hf⟩ := List.forall_mem_cons.mp h.names
  exact ⟨ht, (Predicate.worded_of_names hf).2⟩

theorem createIndex {index : String} {columns : List String} {flag : Bool}
    (h : (createIndex index table columns flag filter).Named) :
    IsName index ∧ IsName table ∧ (∀ c ∈ columns, IsName c) ∧ ∀ p ∈ filter, p.Worded := by
  have hnames := h.names
  simp only [strings, List.forall_mem_cons, List.forall_mem_append] at hnames
  obtain ⟨hi, ht, hc, hf⟩ := hnames
  exact ⟨hi, ht, hc, (Predicate.worded_of_names hf).1⟩

end Named

/-- **The kind of a statement is told** by the words it begins with. -/
theorem kind_eq_of_sql_eq {s t : Statement} (hs : s.Named) (ht : t.Named) (h : s.sql = t.sql) :
    s.kind = t.kind := by
  -- queries and probes are the only kinds whose first words do not tell them apart
  have hquery : ∀ {s t : Statement}, s.Named → s.kind = .select → t.kind = .exists →
      s.sql ≠ t.sql := by
    intro s t hs hselect hexists
    cases s with
    | select table columns o =>
      cases t with
      | «exists» table' filter => exact select_ne_probe hs.select.2.1
      | _ => cases hexists
    | _ => cases hselect
  obtain ⟨r, hr⟩ := s.lead_prefix
  obtain ⟨r', hr'⟩ := t.lead_prefix
  rw [← h, ← hr] at hr'
  rcases prefix_or_prefix_of_append hr' with hprefix | hprefix
  · rcases Kind.eq_of_lead_prefix hprefix with hkind | ⟨hselect, hexists⟩
    · exact hkind.symm
    · exact absurd h.symm (hquery ht hselect hexists)
  · rcases Kind.eq_of_lead_prefix hprefix with hkind | ⟨hselect, hexists⟩
    · exact hkind
    · exact absurd h (hquery hs hselect hexists)

/-! ## All of a statement -/

/-- **Statements of names are told apart** by their texts, up to what is not written. -/
theorem sql_eq_iff {s t : Statement} (hs : s.Named) (ht : t.Named) :
    s.sql = t.sql ↔ s.normal = t.normal := by
  constructor
  · intro h
    have hkind := kind_eq_of_sql_eq hs ht h
    -- the other statement is of the same kind, so each case compares two texts of one shape
    cases s with
    | select table columns o =>
      cases t with
      | select table' columns' o' =>
        obtain ⟨hn, hc, ho⟩ := hs.select
        obtain ⟨hn', hc', ho'⟩ := ht.select
        obtain ⟨rfl, rfl, hoptions⟩ := eq_of_select hn hn' hc hc' ho ho'
          (congrArg String.toList h)
        rw [normal, normal, hoptions]
      | _ => cases hkind
    | insert table columns =>
      cases t with
      | insert table' columns' =>
        obtain ⟨hn, hc⟩ := List.forall_mem_cons.mp hs.names
        obtain ⟨hn', hc'⟩ := List.forall_mem_cons.mp ht.names
        obtain ⟨rfl, rfl⟩ := eq_of_insert hn hn' hc hc' h
        rfl
      | _ => cases hkind
    | update table columns filter =>
      cases t with
      | update table' columns' filter' =>
        obtain ⟨hn, hc, hf⟩ := hs.update
        obtain ⟨hn', hc', hf'⟩ := ht.update
        -- only normal assignments can be told apart, and normal forms have the same texts
        rw [← sql_normal, ← sql_normal (.update table' columns' filter')] at h
        obtain ⟨rfl, hcolumns, hfilter⟩ := eq_of_update hn hn' hc hc' hf hf' h
        rw [normal, normal, hcolumns, hfilter]
      | _ => cases hkind
    | delete table filter =>
      cases t with
      | delete table' filter' =>
        obtain ⟨rfl, hfilter⟩ := eq_of_delete hs.delete.1 ht.delete.1 hs.delete.2 ht.delete.2 h
        rw [normal, normal, hfilter]
      | _ => cases hkind
    | «exists» table filter =>
      cases t with
      | «exists» table' filter' =>
        obtain ⟨rfl, hfilter⟩ := eq_of_probe hs.exists.1 ht.exists.1 hs.exists.2 ht.exists.2 h
        rw [normal, normal, hfilter]
      | _ => cases hkind
    | createTable table columns flag => exact absurd rfl hs.not_createTable
    | alterTable table alter => exact absurd rfl hs.not_alterTable
    | dropTable table flag =>
      cases t with
      | dropTable table' flag' =>
        obtain ⟨rfl, rfl⟩ := eq_of_drop (hs.names table List.mem_cons_self)
          (ht.names table' List.mem_cons_self) h
        rfl
      | _ => cases hkind
    | createView view table columns o flag =>
      cases t with
      | createView view' table' columns' o' flag' =>
        obtain ⟨hv, hn, hc, ho⟩ := hs.createView
        obtain ⟨hv', hn', hc', ho'⟩ := ht.createView
        obtain ⟨rfl, rfl, rfl, hoptions, rfl⟩ :=
          eq_of_createView hv hv' hn hn' hc hc' ho ho' h
        rw [normal, normal, hoptions]
      | _ => cases hkind
    | dropView view flag =>
      cases t with
      | dropView view' flag' =>
        obtain ⟨rfl, rfl⟩ := eq_of_drop (hs.names view List.mem_cons_self)
          (ht.names view' List.mem_cons_self) h
        rfl
      | _ => cases hkind
    | createIndex index table columns flag filter =>
      cases t with
      | createIndex index' table' columns' flag' filter' =>
        obtain ⟨hi, hn, hc, hf⟩ := hs.createIndex
        obtain ⟨hi', hn', hc', hf'⟩ := ht.createIndex
        obtain ⟨rfl, rfl, rfl, rfl, rfl⟩ := eq_of_createIndex hi hi' hn hn' hc hc' hf hf' h
        rfl
      | _ => cases hkind
    | dropIndex index flag =>
      cases t with
      | dropIndex index' flag' =>
        obtain ⟨rfl, rfl⟩ := eq_of_drop (hs.names index List.mem_cons_self)
          (ht.names index' List.mem_cons_self) h
        rfl
      | _ => cases hkind
  · intro h
    rw [← s.sql_normal, h, t.sql_normal]

/-- Two updates with one text, and two deletions whose filters are grouped in different ways. -/
theorem sql_eq_and_sql_ne :
    (update "users" [.adjust "id" none] none).sql =
      (update "users" [.set "id"] (some (.ofColumn "id"))).sql ∧
    (delete "users" (some ⟨⟨"id", none, .eq, false, false⟩, [⟨⟨"id", none, .gt, false, false⟩, [],
      [.ofColumn "id"]⟩], []⟩)).sql ≠
    (delete "users" (some ⟨⟨"id", none, .eq, false, false⟩, [⟨⟨"id", none, .gt, false, false⟩, [],
      []⟩], [.ofColumn "id"]⟩)).sql := by
  have hnames : ∀ t ∈ ["users", "id"], IsName t := by decide +kernel
  have hnamed : ∀ s : Statement, s.strings ⊆ ["users", "id"] → s.selected = [] →
      s.kind = .update ∨ s.kind = .delete → s.Named := by
    intro s hstrings hselected hkind
    refine ⟨fun t ht => hnames t (hstrings ht), by simp [hselected], ?_, ?_⟩
    · rcases hkind with hkind | hkind <;> simp [hkind]
    · rcases hkind with hkind | hkind <;> simp [hkind]
  constructor
  · exact (sql_eq_iff (hnamed _ (by decide) rfl (.inl rfl))
      (hnamed _ (by decide) rfl (.inl rfl))).mpr rfl
  · intro h
    cases (sql_eq_iff (hnamed _ (by decide) rfl (.inr rfl))
      (hnamed _ (by decide) rfl (.inr rfl))).mp h

end Statement

end ParamSql
