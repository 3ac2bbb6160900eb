import ParamSql.Proofs.Legible.Clause

/-!
# Queries can be told apart

The text of a query tells its parts, one after the other: the words behind `SELECT`, the select
list, the table, and every clause by the keyword in front of it.  What it does not tell is an
offset without a limit, which is not written.

## Main definitions

* `SelectOptions.Named`: all strings of the clauses are names
* `Sql.behindTable` and others: the clauses that are left behind a part of a query

## Main results

* `Sql.eq_of_behindTable`: the clauses
* `Sql.eq_of_select`: all of the query, up to an offset without a limit
-/

namespace ParamSql

open Sql

/-! ## Beginnings of clauses -/

namespace Sql

section Begins

variable {α : Type} {words : List String} {w : String} {sep cs : List Char}
  {text : α → List Char}

theorem Begins.flatMap (h : Begins words cs) (as : List α) :
    Begins (w :: words) (as.flatMap (w.toList ++ text ·) ++ cs) := by
  cases as with
  | nil => exact h.tail
  | cons a as =>
    rw [List.flatMap_cons, List.append_assoc, List.append_assoc]
    exact .head _

theorem Begins.listed (h : Begins words cs) (as : List α) :
    Begins (w :: words) (listed w.toList sep text as ++ cs) := by
  cases as with
  | nil => exact h.tail
  | cons a as =>
    rw [Sql.listed, List.append_assoc, List.append_assoc]
    exact .head _

end Begins

variable (o : SelectOptions)

/-- What stands behind the ordering of a query. -/
def behindOrder : List Char := cutText o.cut ++ ";".toList

/-- What stands behind the filter of a query. -/
def behindFilter : List Char := orderText o.orderBy ++ behindOrder o

/-- What stands behind the joins of a query. -/
def behindJoins : List Char := filterText o.filter ++ behindFilter o

/-- What stands behind the table of a query. -/
def behindTable : List Char := joinText o.innerJoins ++ behindJoins o

theorem begins_behindOrder : Begins [" LIMIT ", ";"] (behindOrder o) :=
  Begins.flatMap (.head []) _

theorem begins_behindFilter : Begins [" ORDER BY ", " LIMIT ", ";"] (behindFilter o) :=
  (begins_behindOrder o).listed _

theorem begins_behindJoins : Begins [" WHERE ", " ORDER BY ", " LIMIT ", ";"] (behindJoins o) :=
  (begins_behindFilter o).flatMap _

theorem begins_behindTable :
    Begins [" INNER JOIN ", " WHERE ", " ORDER BY ", " LIMIT ", ";"] (behindTable o) :=
  (begins_behindJoins o).flatMap _

end Sql

/-! ## Queries -/

/-- The names of the clauses are names indeed. -/
structure SelectOptions.Named (o : SelectOptions) : Prop where
  joins : ∀ j ∈ o.innerJoins, j.Named
  filter : ∀ p ∈ o.filter, p.Worded
  orderBy : ∀ t ∈ o.orderBy, t.Named

/-- The normal options are told by the clauses that are written. -/
theorem SelectOptions.normal_eq {o o' : SelectOptions} (hjoins : o.innerJoins = o'.innerJoins)
    (hfilter : o.filter = o'.filter) (horder : o.orderBy = o'.orderBy)
    (hdistinct : o.distinct = o'.distinct) (hcut : o.cut = o'.cut) : o.normal = o'.normal := by
  obtain ⟨joins, filter, orderBy, distinct, limit, offset⟩ := o
  obtain ⟨joins', filter', orderBy', distinct', limit', offset'⟩ := o'
  subst hjoins hfilter horder hdistinct
  cases limit <;> cases limit' <;> simp_all [normal, cut]

namespace Sql

variable {o o' : SelectOptions} {columns columns' : List SelectColumn} {table table' : String}

/-- The clauses of a query are told one after the other, each by the keyword in front of it. -/
theorem eq_of_behindTable (h : o.Named) (h' : o'.Named) (heq : behindTable o = behindTable o') :
    o.innerJoins = o'.innerJoins ∧ o.filter = o'.filter ∧ o.orderBy = o'.orderBy ∧
      o.cut = o'.cut := by
  have hjoin : ∀ cs, EndsWord (" INNER JOIN ".toList ++ cs) := fun _ => endsWord_cons rfl _
  have hlimit : ∀ cs, EndsNumber (" LIMIT ".toList ++ cs) ∧
      ∀ more, " LIMIT ".toList ++ cs ≠ " OFFSET ".toList ++ more := by
    intro cs
    have hbegins : Begins [" LIMIT "] (" LIMIT ".toList ++ cs) := .head cs
    refine ⟨?_, hbegins.ne_append (by decide)⟩
    rintro c ⟨⟩
    decide
  have hjoins : ∀ o, EndsWord (behindJoins o) ∧
      ∀ more, behindJoins o ≠ " INNER JOIN ".toList ++ more := fun o =>
    ⟨EndsPath.endsWord ((begins_behindJoins o).forall_head (by decide)),
      (begins_behindJoins o).ne_append (by decide)⟩
  have hfilter : ∀ o, True ∧ ∀ more, behindFilter o ≠ " WHERE ".toList ++ more := fun o =>
    ⟨trivial, (begins_behindFilter o).ne_append (by decide)⟩
  have horder : ∀ o, (True ∧ ∀ more, behindOrder o ≠ ",".toList ++ more) ∧
      ∀ t : OrderTerm, t.Named →
        ∀ more, behindOrder o ≠ " ORDER BY ".toList ++ (t.sql.toList ++ more) := fun o =>
    ⟨⟨trivial, (begins_behindOrder o).ne_append (by decide)⟩,
      fun _ _ _ => (begins_behindOrder o).ne_append (by decide) _⟩
  have hcut : ((EndsNumber ";".toList ∧ ∀ more, ";".toList ≠ " OFFSET ".toList ++ more) ∧
      ∀ more, ";".toList ≠ " LIMIT ".toList ++ more) := by
    have hend : Begins [";"] ";".toList := Begins.head []
    refine ⟨⟨?_, hend.ne_append (by decide)⟩, hend.ne_append (by decide)⟩
    rintro c ⟨⟩
    decide
  obtain ⟨hj, hrest⟩ := Legible.flatMap (fun j hj => InnerJoin.legible_body (h.joins j hj)) hjoin
    h'.joins (hjoins o) (hjoins o') heq
  obtain ⟨hf, hrest⟩ := Legible.option (fun p hp => Predicate.legible_condition (h.filter p hp))
    (fun _ => trivial) h'.filter (hfilter o) (hfilter o') hrest
  obtain ⟨ho, hrest⟩ := Legible.listed (fun t ht => OrderTerm.legible_sql (h.orderBy t ht))
    h.orderBy (fun _ => trivial) h'.orderBy (horder o) (horder o') hrest
  obtain ⟨hc, -⟩ := Legible.option (fun c _ => legible_cutBody c) hlimit (fun _ _ => trivial)
    hcut hcut hrest
  exact ⟨hj, hf, ho, hc⟩

theorem toList_select (table : String) (columns : List SelectColumn) (o : SelectOptions) :
    (select table columns o).toList =
      "SELECT ".toList ++ ((if o.distinct then "DISTINCT ".toList else []) ++
        (listed [] ",".toList (fun c => c.sql.toList) columns ++
          (" FROM ".toList ++ (table.toList ++ behindTable o)))) := by
  have hclauses := toList_clauses o
  have hlist := toList_intercalate "," columns SelectColumn.sql
  simp only [select, selectList, String.toList_append, hclauses, hlist, behindTable, behindJoins,
    behindFilter, behindOrder, List.append_assoc]
  cases o.distinct <;> rfl

/-- A select list does not begin with a keyword. -/
theorem selectList_ne_keyword (hc : ∀ c ∈ columns, c.Named) (cs : List Char) {k : String}
    (hword : isWord k.toList = true) (hkey : isKeyword k.toList = true) {more : List Char}
    (hmore : EndsWord more) :
    listed [] ",".toList (fun c : SelectColumn => c.sql.toList) columns ++
      (" FROM ".toList ++ cs) ≠ k.toList ++ more := by
  cases columns with
  | nil => exact fun heq => (startsWord_append hword more).ne_cons rfl _ heq.symm
  | cons c cols =>
    rw [listed, List.nil_append, List.append_assoc]
    have hfrom : EndsWord (" FROM ".toList ++ cs) := endsWord_cons rfl _
    have hends : EndsWord (cols.flatMap (",".toList ++ ·.sql.toList) ++ (" FROM ".toList ++ cs)) :=
      stop_flatMap (fun _ => endsWord_cons rfl _) hfrom
    exact ((hc c List.mem_cons_self).startsName hends).ne_keyword hword hkey hmore

/-- A flag is told by its keyword, which does not begin what stands behind it. -/
theorem eq_of_flag {k x y : List Char} {f g : Bool} (hx : ∀ more, x ≠ k ++ more)
    (hy : ∀ more, y ≠ k ++ more)
    (h : (if f then k else []) ++ x = (if g then k else []) ++ y) : f = g ∧ x = y := by
  cases f with
  | true =>
    cases g with
    | true => exact ⟨rfl, List.append_cancel_left h⟩
    | false => exact absurd h.symm (hy x)
  | false =>
    cases g with
    | true => exact absurd h (hx y)
    | false => exact ⟨rfl, h⟩

/-- **Queries are told apart**. -/
theorem eq_of_select (ht : IsName table) (ht' : IsName table') (hc : ∀ c ∈ columns, c.Named)
    (hc' : ∀ c ∈ columns', c.Named) (ho : o.Named) (ho' : o'.Named)
    (h : (select table columns o).toList = (select table' columns' o').toList) :
    table = table' ∧ columns = columns' ∧ o.normal = o'.normal := by
  rw [toList_select, toList_select] at h
  have hdistinct : ∀ {columns : List SelectColumn}, (∀ c ∈ columns, c.Named) → ∀ cs more,
      listed [] ",".toList (fun c : SelectColumn => c.sql.toList) columns ++
        (" FROM ".toList ++ cs) ≠ "DISTINCT ".toList ++ more := by
    intro columns hc cs more
    have hspace : EndsWord (' ' :: more) := endsWord_cons rfl _
    exact selectList_ne_keyword hc cs (k := "DISTINCT") (by decide) (by decide +kernel) hspace
  obtain ⟨hflag, hrest⟩ := eq_of_flag (hdistinct hc _) (hdistinct hc' _)
    (List.append_cancel_left h)
  -- the word behind the list neither separates nor begins an entry
  have hfrom : ∀ cs, (Begins [",", " FROM "] (" FROM ".toList ++ cs) ∧
      ∀ more, " FROM ".toList ++ cs ≠ ",".toList ++ more) ∧
        ∀ c : SelectColumn, c.Named →
          ∀ more, " FROM ".toList ++ cs ≠ [] ++ (c.sql.toList ++ more) := by
    intro cs
    have hbegins : Begins [" FROM "] (" FROM ".toList ++ cs) := .head cs
    refine ⟨⟨hbegins.tail, hbegins.ne_append (by decide)⟩, fun c hc more heq => ?_⟩
    exact (hc.startsWord more).ne_cons rfl _ heq.symm
  obtain ⟨rfl, htable⟩ := Legible.listed (fun c hmem => SelectColumn.legible_sql (hc c hmem)) hc
    (fun cs => .head cs) hc' (hfrom _) (hfrom _) hrest
  have hends : ∀ o, EndsWord (behindTable o) := fun o =>
    EndsPath.endsWord ((begins_behindTable o).forall_head (by decide))
  obtain ⟨rfl, hclauses⟩ := legible_word ht.1 ht'.1 (hends o) (hends o')
    (List.append_cancel_left htable)
  obtain ⟨hj, hf, hb, hcut⟩ := eq_of_behindTable ho ho' hclauses
  exact ⟨rfl, rfl, SelectOptions.normal_eq hj hf hb hflag hcut⟩

end Sql
end ParamSql
