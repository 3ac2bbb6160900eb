import ParamSql.Proofs.Decimal.Numeral
import ParamSql.Proofs.Legible.Condition
import ParamSql.Proofs.Vocabulary
import ParamSql.Sql.Statement

/-!
# Clauses can be told apart

The entries of a select list, the keys of an ordering, joins, cuts and assignments tell what
they were written for, in front of what comes next in a statement.  A clause that may be missing
begins with a keyword, so what stands in its place tells that it is.

## Main definitions

* `Sql.StartsName`: the text begins with a name, up to its end
* `SelectColumn.Named` and others: all strings are names
* `SelectOptions.normal`, `Assignment.normal`: without an offset that has no limit, and without an
  adjustment that adjusts nothing
* `Sql.joinText`, `Sql.filterText`, `Sql.orderText`, `Sql.cutText`: the clauses of a query with
  the spaces in front of them

## Main results

* `SelectColumn.legible_sql`, `InnerJoin.legible_body`, `OrderTerm.legible_sql`,
  `Sql.legible_cutBody`, `Assignment.legible_sql`
* `Sql.toList_clauses`: the clauses of a query behind each other
-/

namespace ParamSql

open Sql

namespace Sql

/-! ## Names -/

/-- The text begins with a name and does not continue it. -/
def StartsName (cs : List Char) : Prop :=
  ∃ (name : String) (more : List Char), IsName name ∧ EndsWord more ∧ cs = name.toList ++ more

namespace StartsName

variable {cs : List Char}

/-- A name is no keyword. -/
theorem ne_keyword (h : StartsName cs) {k : String} (hword : isWord k.toList = true)
    (hkey : isKeyword k.toList = true) {more : List Char} (hmore : EndsWord more) :
    cs ≠ k.toList ++ more := by
  obtain ⟨name, rest, hname, hrest, rfl⟩ := h
  intro heq
  obtain ⟨rfl, -⟩ := legible_word hname.1 hword hrest hmore heq
  rw [hname.2] at hkey
  cases hkey

theorem qualified {table : Option String} {column : String} (htable : ∀ t ∈ table, IsName t)
    (hcolumn : IsName column) {more : List Char} (hmore : EndsWord more) :
    StartsName ((qualified table column).toList ++ more) := by
  rw [toList_qualified]
  cases table with
  | none => exact ⟨column, more, hcolumn, hmore, rfl⟩
  | some t =>
    refine ⟨t, '.' :: column.toList ++ more, htable t rfl, endsWord_cons rfl _, ?_⟩
    rw [List.append_assoc]

end StartsName

/-! ## Numbers -/

/-- The text does not go on with a number. -/
def EndsNumber (cs : List Char) : Prop := ∀ c ∈ cs.head?, c.isDigit = false

/-- A number in digits. -/
def digits (n : UInt64) : List Char := (toString n.toNat).toList

theorem ofDigitChars_digits (n : UInt64) : Nat.ofDigitChars 10 (digits n) 0 = n.toNat := by
  rw [digits, Nat.toString_eq_repr, Nat.toList_repr, Nat.ofDigitChars_ten_toDigits]

theorem legible_digits (n : UInt64) : Legible digits (fun _ => True) EndsNumber n := by
  intro m _ r s hr hs heq
  have hall : ∀ (n : UInt64), ∀ c ∈ digits n, c.isDigit = true := fun n c hc =>
    Decimal.isDigit_of_mem_natural hc
  obtain ⟨hdigits, rfl⟩ := eq_of_run (hall n) (hall m) hr hs heq
  refine ⟨UInt64.toNat_inj.mp ?_, rfl⟩
  rw [← ofDigitChars_digits n, hdigits, ofDigitChars_digits]

end Sql

/-! ## Select lists -/

namespace SelectColumn

/-- The entry is a column, and its strings are names. -/
def Named (c : SelectColumn) : Prop := (∃ r, c = .ref r) ∧ ∀ s ∈ c.strings, IsName s

theorem toList_sql_ref (c : ColumnRef) :
    (ref c).sql.toList =
      (qualified c.table c.column).toList ++
        c.label.toList.flatMap (" AS ".toList ++ String.toList ·) := by
  rw [sql, String.toList_append]
  cases c.label with
  | none => rfl
  | some a => simp

theorem Named.names {c : ColumnRef} (h : (ref c).Named) :
    (∀ t ∈ c.table, IsName t) ∧ IsName c.column ∧ ∀ a ∈ c.label, IsName a := by
  obtain ⟨-, hnames⟩ := h
  refine ⟨fun t ht => hnames t ?_, hnames _ (by simp [strings]), fun a ha => hnames a ?_⟩
  · simp_all [strings]
  · simp_all [strings]

theorem Named.path {c : ColumnRef} (h : (ref c).Named) : WordPath (c.table, c.column) := by
  obtain ⟨htable, hcolumn, -⟩ := h.names
  exact ⟨fun t ht => (htable t ht).1, hcolumn.1⟩

theorem Named.startsWord {c : SelectColumn} (h : c.Named) (more : List Char) :
    StartsWord (c.sql.toList ++ more) := by
  obtain ⟨c, rfl⟩ := h.1
  rw [toList_sql_ref, List.append_assoc]
  exact h.path.startsWord _

/-- Entries are legible in front of the next one and of the word behind the list. -/
theorem legible_sql {c : SelectColumn} (h : c.Named) :
    Legible (fun c : SelectColumn => c.sql.toList) Named (Begins [",", " FROM "]) c := by
  intro c' h' r s hr hs heq
  obtain ⟨c, rfl⟩ := h.1
  obtain ⟨c', rfl⟩ := h'.1
  obtain ⟨-, -, hlabel⟩ := h.names
  obtain ⟨-, -, hlabel'⟩ := h'.names
  simp only [toList_sql_ref, List.append_assoc] at heq
  have hends : ∀ {cs}, Begins [",", " FROM "] cs → ∀ o : Option String,
      EndsPath (o.toList.flatMap (" AS ".toList ++ String.toList ·) ++ cs) :=
    fun hcs o => stop_flatMap (fun _ => endsPath_cons rfl _) (hcs.forall_head (by decide))
  obtain ⟨hpath, hrest⟩ := legible_qualified h.path h'.path (hends hr c.label)
    (hends hs c'.label) heq
  have hstop : ∀ {cs}, Begins [",", " FROM "] cs →
      EndsWord cs ∧ ∀ more, cs ≠ " AS ".toList ++ more := fun hcs =>
    ⟨EndsPath.endsWord (hcs.forall_head (by decide)), hcs.ne_append (by decide)⟩
  obtain ⟨hname, rfl⟩ := Legible.option (o := c.label)
    (fun a ha => legible_word (hlabel a ha).1) (fun _ => endsWord_cons rfl _)
    (b := c'.label) (fun a ha => (hlabel' a ha).1) (hstop hr) (hstop hs) hrest
  obtain ⟨column, table, label⟩ := c
  obtain ⟨column', table', label'⟩ := c'
  obtain ⟨rfl, rfl⟩ := Prod.mk.inj hpath
  obtain rfl : label = label' := hname
  exact ⟨rfl, rfl⟩

theorem Named.startsName {c : SelectColumn} (h : c.Named) {more : List Char}
    (hmore : EndsWord more) : StartsName (c.sql.toList ++ more) := by
  obtain ⟨c, rfl⟩ := h.1
  obtain ⟨htable, hcolumn, -⟩ := h.names
  rw [toList_sql_ref, List.append_assoc]
  exact .qualified htable hcolumn (stop_flatMap (fun _ => endsWord_cons rfl _) hmore)

end SelectColumn

/-! ## Orderings -/

namespace OrderTerm

def Named (t : OrderTerm) : Prop := ∀ s ∈ t.strings, IsName s

theorem legible_direction (ascending : Bool) :
    Legible (fun ascending : Bool => (if ascending then "ASC" else "DESC").toList)
      (fun _ => True) (fun _ => True) ascending :=
  legible_code (by decide) ascending

theorem Named.path {t : OrderTerm} (h : t.Named) : WordPath (t.table, t.column) := by
  refine ⟨fun table ht => (h table ?_).1, (h t.column (by simp [strings])).1⟩
  have htable : t.table = some table := ht
  simp [strings, htable]

theorem toList_sql (t : OrderTerm) :
    t.sql.toList = (qualified t.table t.column).toList ++
      ' ' :: (if t.ascending then "ASC" else "DESC").toList := by
  simp [sql]

/-- Keys of an ordering end in their direction. -/
theorem legible_sql {t : OrderTerm} (h : t.Named) :
    Legible (fun t : OrderTerm => t.sql.toList) Named (fun _ => True) t := by
  intro t' h' r s _ _ heq
  simp only [toList_sql, List.append_assoc] at heq
  have hspace : ∀ cs, EndsPath (' ' :: cs) := endsPath_cons rfl
  obtain ⟨hpath, hrest⟩ := legible_qualified h.path h'.path (hspace _) (hspace _) heq
  obtain ⟨hdirection, rfl⟩ := legible_direction t.ascending (b := t'.ascending) trivial
    (r := r) (s := s) trivial trivial (List.tail_eq_of_cons_eq hrest)
  obtain ⟨column, table, ascending⟩ := t
  obtain ⟨column', table', ascending'⟩ := t'
  obtain ⟨rfl, rfl⟩ := Prod.mk.inj hpath
  obtain rfl : ascending = ascending' := hdirection
  exact ⟨rfl, rfl⟩

end OrderTerm

/-! ## Joins -/

namespace InnerJoin

def Named (j : InnerJoin) : Prop := ∀ s ∈ j.strings, IsName s

/-- A join behind its keywords. -/
def body (j : InnerJoin) : List Char :=
  j.otherTable.toList ++ (" ON ".toList ++ (j.otherTable.toList ++ ('.' :: (j.otherColumn.toList ++
    ('=' :: j.thisColumn.toList)))))

theorem toList_sql (j : InnerJoin) : j.sql.toList = "INNER JOIN ".toList ++ j.body := by
  delta sql
  simp [body]

theorem legible_body {j : InnerJoin} (h : j.Named) : Legible body Named EndsWord j := by
  intro j' h' r s hr hs heq
  obtain ⟨thisColumn, otherTable, otherColumn⟩ := j
  obtain ⟨thisColumn', otherTable', otherColumn'⟩ := j'
  simp only [Named, strings, List.forall_mem_cons] at h h'
  obtain ⟨hthis, htable, hcolumn, -⟩ := h
  obtain ⟨hthis', htable', hcolumn', -⟩ := h'
  simp only [body, List.append_assoc, List.cons_append] at heq
  have hspace : ∀ cs, EndsWord (" ON ".toList ++ cs) := fun cs => endsWord_cons rfl _
  have hequal : ∀ cs, EndsWord ('=' :: cs) := endsWord_cons rfl
  obtain ⟨rfl, hon⟩ := legible_word htable.1 htable'.1 (hspace _) (hspace _) heq
  have hpoint := List.append_cancel_left (List.append_cancel_left hon)
  obtain ⟨rfl, hrest⟩ := legible_word hcolumn.1 hcolumn'.1 (hequal _) (hequal _)
    (List.tail_eq_of_cons_eq hpoint)
  obtain ⟨rfl, rfl⟩ := legible_word hthis.1 hthis'.1 hr hs (List.tail_eq_of_cons_eq hrest)
  exact ⟨rfl, rfl⟩

end InnerJoin

/-! ## Cuts -/

namespace Sql

/-- A limit and its offset behind the first keyword. -/
def cutBody (cut : UInt64 × Option UInt64) : List Char :=
  digits cut.1 ++ cut.2.toList.flatMap (" OFFSET ".toList ++ digits ·)

theorem legible_cutBody (cut : UInt64 × Option UInt64) :
    Legible cutBody (fun _ => True) (fun r => EndsNumber r ∧ ∀ more, r ≠ " OFFSET ".toList ++ more)
      cut := by
  intro cut' _ r s hr hs heq
  obtain ⟨limit, offset⟩ := cut
  obtain ⟨limit', offset'⟩ := cut'
  simp only [cutBody, List.append_assoc] at heq
  have hspace : ∀ cs, EndsNumber (" OFFSET ".toList ++ cs) := by
    rintro cs c ⟨⟩
    decide
  obtain ⟨rfl, hrest⟩ := legible_digits limit trivial (stop_flatMap hspace hr.1)
    (stop_flatMap hspace hs.1) heq
  obtain ⟨rfl, rfl⟩ := Legible.option (fun n _ => legible_digits n) hspace (b := offset')
    (fun _ _ => trivial) hr hs hrest
  exact ⟨rfl, rfl⟩

end Sql

/-! ## The clauses of a query -/

namespace SelectOptions

/-- The limit with its offset, if there is a limit. -/
def cut (o : SelectOptions) : Option (UInt64 × Option UInt64) := o.limit.map (·, o.offset)

/-- The options without an offset that has no limit. -/
def normal (o : SelectOptions) : SelectOptions :=
  { o with offset := o.limit.bind fun _ => o.offset }

end SelectOptions

namespace Sql

/-- The joins, each behind a space. -/
def joinText (joins : List InnerJoin) : List Char :=
  joins.flatMap (" INNER JOIN ".toList ++ InnerJoin.body ·)

/-- A filter that may be missing, behind a space. -/
def filterText (filter : Option Predicate) : List Char :=
  filter.toList.flatMap fun p => " WHERE ".toList ++ p.condition.toList

/-- The ordering, behind a space. -/
def orderText (terms : List OrderTerm) : List Char :=
  listed " ORDER BY ".toList ",".toList (fun t => t.sql.toList) terms

/-- The cut, behind a space. -/
def cutText (cut : Option (UInt64 × Option UInt64)) : List Char :=
  cut.toList.flatMap (" LIMIT ".toList ++ cutBody ·)

/-- A clause that is there has a space in front of it. -/
theorem toList_clause {clause : String} {cs : List Char} (h : ' ' :: clause.toList = cs)
    (hne : clause.toList ≠ []) :
    (if clause = "" then "" else " " ++ clause).toList = cs := by
  rw [if_neg]
  · rw [← h]
    simp
  · rintro rfl
    exact hne rfl

theorem toList_joinClause (joins : List InnerJoin) :
    (if joinClause joins = "" then "" else " " ++ joinClause joins).toList = joinText joins := by
  cases joins with
  | nil => rfl
  | cons j js =>
    have hclause : (joinClause (j :: js)).toList =
        ("INNER JOIN ".toList ++ j.body) ++ js.flatMap (" INNER JOIN ".toList ++ ·.body) := by
      rw [joinClause, List.map_cons, toList_intercalate_cons, InnerJoin.toList_sql]
      simp [InnerJoin.toList_sql]
    refine toList_clause ?_ ?_
    · rw [hclause, joinText, List.flatMap_cons]
      simp
    · rw [hclause]
      intro hnil
      cases hnil

theorem toList_filter (filter : Option Predicate) :
    (if (filter.map (·.whereClause)).getD "" = "" then ""
      else " " ++ (filter.map (·.whereClause)).getD "").toList = filterText filter := by
  cases filter with
  | none => rfl
  | some p =>
    refine toList_clause ?_ ?_
    · simp [filterText, Predicate.whereClause]
    · simp [Predicate.whereClause]

theorem toList_orderClause (terms : List OrderTerm) :
    (if orderClause terms = "" then "" else " " ++ orderClause terms).toList =
      orderText terms := by
  cases terms with
  | nil => rfl
  | cons t ts =>
    have hclause : (orderClause (t :: ts)).toList =
        "ORDER BY ".toList ++ (t.sql.toList ++ ts.flatMap (",".toList ++ ·.sql.toList)) := by
      rw [← toList_intercalate_cons, ← String.toList_append]
      rfl
    refine toList_clause ?_ ?_
    · rw [hclause, orderText, listed]
      simp
    · rw [hclause]
      intro hnil
      cases hnil

theorem toList_limitClause (o : SelectOptions) :
    (if limitClause o.limit o.offset = "" then "" else " " ++ limitClause o.limit o.offset).toList =
      cutText o.cut := by
  cases hlimit : o.limit with
  | none =>
    simp [limitClause, cutText, SelectOptions.cut, hlimit]
  | some n =>
    cases hoffset : o.offset with
    | none =>
      refine toList_clause ?_ ?_
      · simp [limitClause, cutText, SelectOptions.cut, hlimit, hoffset, cutBody, digits]
      · simp [limitClause]
    | some m =>
      refine toList_clause ?_ ?_
      · simp [limitClause, cutText, SelectOptions.cut, hlimit, hoffset, cutBody, digits]
      · simp [limitClause]

/-- **The clauses of a query**, one behind the other. -/
theorem toList_clauses (o : SelectOptions) :
    (spaced [joinClause o.innerJoins, (o.filter.map (·.whereClause)).getD "",
      orderClause o.orderBy, limitClause o.limit o.offset]).toList =
      joinText o.innerJoins ++ (filterText o.filter ++ (orderText o.orderBy ++ cutText o.cut)) := by
  simp only [spaced_cons, String.toList_append, toList_joinClause, toList_filter,
    toList_orderClause, toList_limitClause]
  simp [spaced]

end Sql

/-! ## Assignments -/

namespace Assignment

/-- The assignment without an adjustment that adjusts nothing. -/
def normal : Assignment → Assignment
  | set c => set c
  | adjust c none => set c
  | adjust c (some a) => adjust c (some a)

theorem sql_normal (a : Assignment) : a.normal.sql = a.sql := by
  cases a with
  | set c => rfl
  | adjust c change => cases change <;> rfl

/-- The assignment adjusts something if it is an adjustment, and its column is a name. -/
inductive Named : Assignment → Prop
  | set {c : String} (hc : IsName c) : Named (set c)
  | adjust {c : String} {a : Adjustment} (hc : IsName c) : Named (adjust c (some a))

theorem named_normal {a : Assignment} (h : IsName a.column) : a.normal.Named := by
  cases a with
  | set c => exact .set h
  | adjust c change =>
    cases change with
    | none => exact .set h
    | some change => exact .adjust h

theorem legible_adjustment (a : Adjustment) :
    Legible (fun a : Adjustment => a.symbol.toList ++ ['?']) (fun _ => True) (fun _ => True) a :=
  legible_code (by intro a b; cases a <;> cases b <;> decide) a

theorem toList_set (c : String) : (set c).sql.toList = c.toList ++ '=' :: ['?'] := by
  simp [sql]

theorem toList_adjust (c : String) (a : Adjustment) :
    (adjust c (some a)).sql.toList =
      c.toList ++ '=' :: (c.toList ++ (a.symbol.toList ++ ['?'])) := by
  simp [sql]

theorem Named.startsWord {a : Assignment} (h : a.Named) (more : List Char) :
    StartsWord (a.sql.toList ++ more) := by
  cases h with
  | set hc =>
    rw [toList_set, List.append_assoc]
    exact startsWord_append hc.1 _
  | adjust hc =>
    rw [toList_adjust, List.append_assoc]
    exact startsWord_append hc.1 _

/-- Behind the equals sign stands the placeholder or the column again. -/
theorem legible_sql {a : Assignment} (h : a.Named) :
    Legible (fun a : Assignment => a.sql.toList) Named (fun _ => True) a := by
  intro b h' r s _ _ heq
  have hequal : ∀ cs, EndsWord ('=' :: cs) := endsWord_cons rfl
  cases h with
  | @set c hc =>
    cases h' with
    | @set c' hc' =>
      simp only [toList_set, List.append_assoc, List.cons_append] at heq
      obtain ⟨rfl, hrest⟩ := legible_word hc.1 hc'.1 (hequal _) (hequal _) heq
      simp only [List.cons.injEq, true_and] at hrest
      exact ⟨rfl, hrest⟩
    | @adjust c' change hc' =>
      simp only [toList_set, toList_adjust, List.append_assoc, List.cons_append] at heq
      obtain ⟨rfl, hrest⟩ := legible_word hc.1 hc'.1 (hequal _) (hequal _) heq
      -- the placeholder would be the beginning of the column
      have hmark := List.tail_eq_of_cons_eq hrest
      exact absurd hmark.symm ((startsWord_append hc.1 _).ne_cons rfl _)
  | @adjust c change hc =>
    cases h' with
    | @set c' hc' =>
      simp only [toList_set, toList_adjust, List.append_assoc, List.cons_append] at heq
      obtain ⟨rfl, hrest⟩ := legible_word hc.1 hc'.1 (hequal _) (hequal _) heq
      have hmark := List.tail_eq_of_cons_eq hrest
      exact absurd hmark ((startsWord_append hc.1 _).ne_cons rfl _)
    | @adjust c' change' hc' =>
      simp only [toList_adjust, List.append_assoc, List.cons_append] at heq
      obtain ⟨rfl, hrest⟩ := legible_word hc.1 hc'.1 (hequal _) (hequal _) heq
      have hchange := List.append_cancel_left (List.tail_eq_of_cons_eq hrest)
      obtain ⟨rfl, rfl⟩ := legible_adjustment change (b := change') trivial (r := r) (s := s)
        trivial trivial (by simpa using hchange)
      exact ⟨rfl, rfl⟩

end Assignment

end ParamSql
