import ParamSql.Proofs.Expression.Completeness
import ParamSql.Proofs.Expression.Identifier
import ParamSql.Proofs.Parentheses.Condition
import ParamSql.Proofs.Placeholder.Condition

/-!
# Expressions put nothing else into a statement

A condition is put together from the names of its tree and from fixed pieces: words, operators
and a few marks.  The names of an expression are identifiers.  So whatever text is read as an
expression, its clause has no quote, no separator and no comment, one placeholder per value, and
balanced parentheses.

## Main definitions

* `Sql.conditionWords`, `Sql.conditionMarks`: the fixed pieces of a condition
* `Sql.Spelled names text`: the text is put together from the names and the fixed pieces

## Main results

* `Predicate.spelled_whereClause`: a clause is put together from the names of its tree
* `Expression.whereClause_of_parse`: what the clause of an expression consists of
-/

namespace ParamSql

/-! ## Pieces -/

namespace Sql

/-- The words of a condition. -/
def conditionWords : List String := ["WHERE", "AND", "OR", "lower", "upper"]

/-- The marks of a condition and the symbols of its operators. -/
def conditionMarks : List String :=
  [" ", ".", "(", ")", "?", "=", "!=", ">", ">=", "<", "<="]

/-- The text is put together from the given names, the words and the marks of conditions. -/
def Spelled (names : List String) (text : String) : Prop :=
  ∃ pieces : List String, text.toList = pieces.flatMap (·.toList) ∧
    ∀ piece ∈ pieces, piece ∈ names ∨ piece ∈ conditionWords ∨ piece ∈ conditionMarks

namespace Spelled

variable {names more : List String} {s t : String}

theorem name (h : s ∈ names) : Spelled names s := ⟨[s], by simp, by simp [h]⟩

/-- A text of words and marks alone. -/
theorem fixed (pieces : List String) (htext : t.toList = pieces.flatMap (·.toList))
    (hpieces : ∀ piece ∈ pieces, piece ∈ conditionWords ++ conditionMarks) : Spelled names t :=
  ⟨pieces, htext, fun piece h => .inr (List.mem_append.mp (hpieces piece h))⟩

theorem mono (h : Spelled names t) (hsub : names ⊆ more) : Spelled more t := by
  obtain ⟨pieces, htext, hpieces⟩ := h
  exact ⟨pieces, htext, fun piece hp => (hpieces piece hp).imp_left (hsub ·)⟩

theorem append (hs : Spelled names s) (ht : Spelled names t) : Spelled names (s ++ t) := by
  obtain ⟨first, hfirst, hs⟩ := hs
  obtain ⟨second, hsecond, ht⟩ := ht
  refine ⟨first ++ second, ?_, List.forall_mem_append.mpr ⟨hs, ht⟩⟩
  rw [String.toList_append, hfirst, hsecond, List.flatMap_append]

theorem intercalate (hs : Spelled names s) :
    ∀ {texts : List String}, (∀ t ∈ texts, Spelled names t) →
      Spelled names (String.intercalate s texts)
  | [], _ => fixed [] (by simp) (by simp)
  | [t], h => by simpa using h t (by simp)
  | t :: u :: texts, h => by
    rw [String.intercalate_cons_cons]
    exact ((h t (by simp)).append hs).append (intercalate hs fun v hv => h v (by simp [hv]))

theorem grouped {word first : String} {rest : List String} (hw : Spelled names word)
    (hf : Spelled names first) (hr : ∀ t ∈ rest, Spelled names t) :
    Spelled names (grouped word first rest) := by
  cases rest with
  | nil => exact hf
  | cons t rest =>
    have hjoined := intercalate hw (List.forall_mem_cons.mpr ⟨hf, hr⟩)
    rw [Sql.grouped, if_neg (by simp)]
    exact ((fixed ["("] rfl (by decide)).append hjoined).append (fixed [")"] rfl (by decide))

/-- A character that is in no name, no word and no mark is not in the text. -/
theorem not_mem {c : Char} (h : Spelled names t) (hnames : ∀ name ∈ names, c ∉ name.toList)
    (hfixed : ∀ piece ∈ conditionWords ++ conditionMarks, c ∉ piece.toList) : c ∉ t.toList := by
  obtain ⟨pieces, htext, hpieces⟩ := h
  rw [htext, List.mem_flatMap]
  rintro ⟨piece, hp, hc⟩
  rcases hpieces piece hp with hname | hword
  · exact hnames piece hname hc
  · exact hfixed piece (List.mem_append.mpr hword) hc

end Spelled

end Sql

open Sql (Spelled)

/-! ## Conditions -/

namespace Leaf

theorem spelled_qualified (l : Leaf) : Spelled l.names (Sql.qualified l.table l.column) := by
  have hcolumn : Spelled l.names l.column := .name (by simp [names])
  cases htable : l.table with
  | none => exact hcolumn
  | some t =>
    have ht : Spelled l.names t := .name (by simp [names, htable])
    exact (ht.append (.fixed ["."] rfl (by decide))).append hcolumn

theorem spelled_sql (l : Leaf) : Spelled l.names l.sql := by
  have hclose : Spelled l.names ")" := .fixed [")"] rfl (by decide)
  have hlower : ∀ {t}, Spelled l.names t → Spelled l.names ("lower(" ++ t ++ ")") := fun ht =>
    (Spelled.append (.fixed ["lower", "("] rfl (by decide)) ht).append hclose
  have hupper : ∀ {t}, Spelled l.names t → Spelled l.names ("upper(" ++ t ++ ")") := fun ht =>
    (Spelled.append (.fixed ["upper", "("] rfl (by decide)) ht).append hclose
  have hsymbol : Spelled l.names l.op.symbol :=
    .fixed [l.op.symbol] (by simp) (by cases l.op <;> decide)
  have hoperand : Spelled l.names l.operand := by
    rw [operand]
    cases l.lower <;> cases l.upper
    · exact l.spelled_qualified
    · exact hupper l.spelled_qualified
    · exact hlower l.spelled_qualified
    · exact hupper (hlower l.spelled_qualified)
  exact (hoperand.append hsymbol).append (.fixed ["?"] rfl (by decide))

end Leaf

namespace Predicate

theorem spelled_condition (p : Predicate) : Spelled p.names p.condition := by
  induction p using induction with
  | node leaf ands ors iha iho =>
    rw [condition, conditions_eq_map, conditions_eq_map, names_mk]
    have hleaf := leaf.spelled_sql.mono (List.subset_append_left leaf.names
      (ands.flatMap names ++ ors.flatMap names))
    have hands : ∀ q ∈ ands, q.names ⊆ leaf.names ++ (ands.flatMap names ++ ors.flatMap names) := by
      intro q hq name hname
      simp only [List.mem_append, List.mem_flatMap]
      exact .inr (.inl ⟨q, hq, hname⟩)
    have hors : ∀ q ∈ ors, q.names ⊆ leaf.names ++ (ands.flatMap names ++ ors.flatMap names) := by
      intro q hq name hname
      simp only [List.mem_append, List.mem_flatMap]
      exact .inr (.inr ⟨q, hq, hname⟩)
    exact .grouped (.fixed [" ", "OR", " "] rfl (by decide))
      (.grouped (.fixed [" ", "AND", " "] rfl (by decide)) hleaf
        (List.forall_mem_map.mpr fun q hq => (iha q hq).mono (hands q hq)))
      (List.forall_mem_map.mpr fun q hq => (iho q hq).mono (hors q hq))

/-- **A clause is put together from the names of its tree** and from fixed pieces. -/
theorem spelled_whereClause (p : Predicate) : Spelled p.names p.whereClause :=
  .append (.fixed ["WHERE", " "] rfl (by decide)) p.spelled_condition

end Predicate

/-! ## Expressions -/

namespace Expression

/-- **Expressions put nothing else into a statement**: whatever the text, when it is read as a
predicate then all names are identifiers, and the clause consists of these names, words and marks
alone.  It has no quote, separator or comment, as many placeholders as values are bound, and
balanced parentheses. -/
theorem whereClause_of_parse {s : String} {p : Predicate} (h : parse s = .ok p) :
    (∀ name ∈ p.names, IsIdentifier name) ∧
      (∃ pieces : List String, p.whereClause.toList = pieces.flatMap (·.toList) ∧
        ∀ piece ∈ pieces, piece ∈ p.names ∨ piece ∈ ["WHERE", "AND", "OR", "lower", "upper"] ∨
          piece ∈ [" ", ".", "(", ")", "?", "=", "!=", ">", ">=", "<", "<="]) ∧
      (∀ c ∈ ['\'', '"', '`', ';', ',', '-', '/'], c ∉ p.whereClause.toList) ∧
      p.whereClause.toList.count '?' = p.placeholderCount ∧
      Sql.Balanced p.whereClause := by
  have hnames : ∀ name ∈ p.names, IsIdentifier name :=
    Grammar.Node.isIdentifier (parseTrimmed_eq_ok_iff.mp h)
  have habsent : ∀ {c : Char}, isIdentRest c = false → ∀ name ∈ p.names, c ∉ name.toList :=
    fun hc name hname => (hnames name hname).not_mem hc
  have hascii : ['\'', '"', '`', ';', ',', '-', '/', '?', '(', ')'].all (fun c =>
      decide (c.toNat < 0xAA) && !(c.isAlphanum || c == '_')) = true := by decide
  have hend : ∀ c ∈ ['\'', '"', '`', ';', ',', '-', '/', '?', '(', ')'], isIdentRest c = false := by
    intro c hc
    have hmark := List.all_eq_true.mp hascii c hc
    simp only [Bool.and_eq_true, decide_eq_true_eq, Bool.not_eq_true'] at hmark
    rw [isIdentRest_of_lt hmark.1, hmark.2]
  have hfixed : ∀ piece ∈ Sql.conditionWords ++ Sql.conditionMarks,
      piece.toList.all (fun c => !(['\'', '"', '`', ';', ',', '-', '/'].contains c)) = true := by
    decide
  refine ⟨hnames, p.spelled_whereClause, fun c hc => ?_, ?_, ?_⟩
  · refine p.spelled_whereClause.not_mem
      (habsent (hend c (List.mem_append_left ['?', '(', ')'] hc))) fun piece hpiece hmem => ?_
    have hother := List.all_eq_true.mp (hfixed piece hpiece) c hmem
    rw [List.contains_iff_mem.mpr hc] at hother
    cases hother
  · have hbinds := p.binds_whereClause (habsent (hend '?' (by decide)))
    rw [hbinds.count_eq, List.length_map, Predicate.length_leaves]
  · refine p.balanced_whereClause fun name hname => ?_
    exact .of_not_mem (habsent (hend '(' (by decide)) name hname)
      (habsent (hend ')' (by decide)) name hname)

/-- Groups in groups, a name beyond ASCII, and columns that are called like the functions. -/
theorem whereClause_of_parse_nested :
    let s := " upper(lower( größe ))!=&(_a.lower|(b,c>=?))|upper "
    let b : Predicate := ⟨⟨"b", none, .eq, false, false⟩, [], []⟩
    let c : Predicate := ⟨⟨"c", none, .ge, false, false⟩, [], []⟩
    let lower : Predicate := ⟨⟨"lower", some "_a", .eq, false, false⟩, [], [b, c]⟩
    let upper : Predicate := ⟨⟨"upper", none, .eq, false, false⟩, [], []⟩
    let p : Predicate := ⟨⟨"größe", none, .ne, true, true⟩, [lower], [upper]⟩
    parse s = .ok p ∧ (∀ name ∈ ["größe", "_a", "lower", "b", "c", "upper"], IsIdentifier name) ∧
      p.whereClause.toList.count '?' = 5 ∧ Sql.Balanced p.whereClause := by
  intro s b c lower upper p
  have hread : node ((Unicode.trim s.toList).length + 1) (Unicode.trim s.toList) =
      some (p, []) := by decide +kernel
  have hparse : parse s = .ok p := by rw [parse, parseTrimmed, hread]
  obtain ⟨hnames, -, -, hcount, hbalanced⟩ := whereClause_of_parse hparse
  exact ⟨hparse, hnames, hcount, hbalanced⟩

end Expression

end ParamSql
