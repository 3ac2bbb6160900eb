import ParamSql.Proofs.Boolean.Reader
import ParamSql.Sql.Condition

/-!
# Comparisons are read back

A comparison whose table and column are names is read back from its text in front of anything
at all, as it ends with its placeholder.  A column that is called like one of the functions
`lower` and `upper` is no exception: what decides is the parenthesis behind the word.

## Main results

* `Sql.test_append`: a comparison is read back
-/

namespace ParamSql.Sql

/-- What may follow an operand: nothing that continues its last word, qualifies it, or applies
it as a function. -/
structure Follows (rest : List Char) : Prop where
  endsWord : EndsWord rest
  noPoint : mark '.' rest = none
  notApplied : mark '(' rest = none

theorem follows_close (rest : List Char) : Follows (')' :: rest) where
  endsWord := endsWord_cons rfl rest
  noPoint := mark_ne rfl (by decide) rest
  notApplied := mark_ne rfl (by decide) rest

theorem follows_symbol (op : Comparison) (rest : List Char) :
    Follows (op.symbol.toList ++ rest) := by
  have h : ∀ (c : Char) (cs : List Char), op.symbol.toList = c :: cs →
      isWordRest c = false ∧ isSpace c = false ∧ c ≠ '.' ∧ c ≠ '(' := by
    cases op <;> rintro c cs ⟨⟩ <;> decide
  cases hs : op.symbol.toList with
  | nil => cases op <;> cases hs
  | cons c cs =>
    obtain ⟨hw, hspace, hpoint, hopen⟩ := h c cs hs
    exact ⟨endsWord_cons hw _, mark_ne hspace hpoint _, mark_ne hspace hopen _⟩

/-! ## Columns -/

variable {table : Option String} {column : String} {rest : List Char}

/-- A column name begins with a word that is not applied as a function. -/
theorem exists_word_qualified (ht : ∀ t ∈ table, IsName t) (hc : IsName column)
    (hr : Follows rest) :
    ∃ w more, word ((qualified table column).toList ++ rest) = some (w, more) ∧
      mark '(' more = none := by
  cases table with
  | none => exact ⟨_, _, word_append hc.1 hr.endsWord, hr.notApplied⟩
  | some t =>
    have hpoint : EndsWord ('.' :: (column.toList ++ rest)) := endsWord_cons rfl _
    refine ⟨t.toList, '.' :: (column.toList ++ rest), ?_, mark_ne rfl (by decide) _⟩
    have he : (qualified (some t) column).toList ++ rest =
        t.toList ++ '.' :: (column.toList ++ rest) := by simp [qualified]
    rw [he]
    exact word_append (ht t rfl).1 hpoint

theorem columnName_append (ht : ∀ t ∈ table, IsName t) (hc : IsName column)
    (hends : EndsWord rest) (hpoint : mark '.' rest = none) :
    columnName ((qualified table column).toList ++ rest) = some ((table, column), rest) := by
  cases table with
  | none =>
    rw [qualified, columnName, name_append hc hends]
    simp only [hpoint]
  | some t =>
    have htable : EndsWord ('.' :: (column.toList ++ rest)) := endsWord_cons rfl _
    have he : (qualified (some t) column).toList ++ rest =
        t.toList ++ '.' :: (column.toList ++ rest) := by simp [qualified]
    rw [he, columnName, name_append (ht t rfl) htable]
    simp only [mark_cons (show isSpace '.' = false from rfl), name_append hc hends]

/-! ## Functions -/

section Applied

variable {α : Type} {function : String} {argument : Reader α} {a : α} {cs : List Char}

theorem applied_append {w text : List Char} (hw : isWord w = true)
    (hf : spells function w = true)
    (h : argument (text ++ ')' :: rest) = some (a, ')' :: rest)) :
    applied function argument (w ++ '(' :: (text ++ ')' :: rest)) = some (a, rest) := by
  have hopen : EndsWord ('(' :: (text ++ ')' :: rest)) := endsWord_cons rfl _
  rw [applied, word_append hw hopen]
  simp only [hf, if_true, mark_cons (show isSpace '(' = false from rfl), h,
    mark_cons (show isSpace ')' = false from rfl)]

/-- A word without a parenthesis behind it is applied to nothing. -/
theorem applied_eq_none {w : List Char} (hw : word cs = some (w, rest))
    (ho : mark '(' rest = none) : applied function argument cs = none := by
  rw [applied, hw]
  simp only [ho, ite_self]

end Applied

/-! ## Operands -/

/-- A column folded to lower case is written as `lower` applied to it. -/
theorem toList_lower (table : Option String) (column : String) (rest : List Char) :
    (Leaf.operand ⟨column, table, .eq, true, false⟩).toList ++ rest =
      "lower".toList ++ '(' :: ((qualified table column).toList ++ ')' :: rest) := by
  simp [Leaf.operand]

/-- The text of a column with or without folding to lower case. -/
theorem lowered_append (ht : ∀ t ∈ table, IsName t) (hc : IsName column) (hr : Follows rest)
    (lower : Bool) :
    lowered ((Leaf.operand ⟨column, table, .eq, lower, false⟩).toList ++ rest) =
      some (⟨column, table, .eq, lower, false⟩, rest) := by
  cases lower with
  | false =>
    obtain ⟨w, more, hw, ho⟩ := exists_word_qualified ht hc hr
    have he : Leaf.operand ⟨column, table, .eq, false, false⟩ = qualified table column := rfl
    rw [he, lowered, applied_eq_none hw ho, columnName_append ht hc hr.endsWord hr.noPoint]
  | true =>
    have hclose := follows_close rest
    rw [toList_lower, lowered, applied_append rfl rfl
      (columnName_append ht hc hclose.endsWord hclose.noPoint)]

theorem operand_append {l : Leaf} (h : ∀ name ∈ l.names, IsName name) (hr : Follows rest) :
    operand (l.operand.toList ++ rest) = some ({ l with op := .eq }, rest) := by
  rcases l with ⟨column, table, op, lower, upper⟩
  have ht : ∀ t ∈ table, IsName t := fun t ht => h t (by simp_all [Leaf.names])
  have hc : IsName column := h column (by simp [Leaf.names])
  cases upper with
  | false =>
    have hl := lowered_append ht hc hr lower
    have hu : applied "UPPER" lowered
        ((Leaf.operand ⟨column, table, .eq, lower, false⟩).toList ++ rest) = none := by
      cases lower with
      | false =>
        -- a column may be called `upper`, but no parenthesis follows it
        obtain ⟨w, more, hw, ho⟩ := exists_word_qualified ht hc hr
        exact applied_eq_none hw ho
      | true =>
        have hopen : EndsWord ('(' :: ((qualified table column).toList ++ ')' :: rest)) :=
          endsWord_cons rfl _
        rw [toList_lower, applied, word_append rfl hopen]
        rfl
    have he : Leaf.operand ⟨column, table, op, lower, false⟩ =
        Leaf.operand ⟨column, table, .eq, lower, false⟩ := rfl
    rw [he, operand, hu]
    exact hl
  | true =>
    have he : (Leaf.operand ⟨column, table, op, lower, true⟩).toList ++ rest =
        "upper".toList ++
          '(' :: ((Leaf.operand ⟨column, table, .eq, lower, false⟩).toList ++ ')' :: rest) := by
      simp [Leaf.operand]
    rw [he, operand, applied_append rfl rfl
      (lowered_append ht hc (follows_close rest) lower)]

/-! ## Comparisons -/

theorem symbol_append (op : Comparison) (rest : List Char) :
    symbol (op.symbol.toList ++ '?' :: rest) = some (op, '?' :: rest) := by
  cases op <;> rfl

/-- **A comparison is read back**, whatever follows it. -/
theorem test_append {l : Leaf} (h : ∀ name ∈ l.names, IsName name) (rest : List Char) :
    test (l.sql.toList ++ rest) = some (l, rest) := by
  have he : l.sql.toList ++ rest = l.operand.toList ++ (l.op.symbol.toList ++ '?' :: rest) := by
    simp [Leaf.sql]
  rw [he, test, operand_append h (follows_symbol _ _)]
  simp only [symbol_append, mark_cons (show isSpace '?' = false from rfl)]

/-- A comparison begins with a word. -/
theorem exists_cons_sql {l : Leaf} (h : ∀ name ∈ l.names, IsName name) :
    ∃ c cs, l.sql.toList = c :: cs ∧ isWordStart c = true := by
  have hw : ∀ {w : List Char}, isWord w = true → ∀ rest, ∃ c cs, w ++ rest = c :: cs ∧
      isWordStart c = true := by
    intro w hw rest
    cases w with
    | nil => cases hw
    | cons c w =>
      have hc : isWordStart c = true ∧ w.all isWordRest = true := by simpa [isWord] using hw
      exact ⟨c, w ++ rest, rfl, hc.1⟩
  rcases l with ⟨column, table, op, lower, upper⟩
  cases upper with
  | true =>
    have hu : isWordStart 'u' = true := rfl
    simpa [Leaf.sql, Leaf.operand] using hu
  | false =>
    cases lower with
    | true =>
      have hl : isWordStart 'l' = true := rfl
      simpa [Leaf.sql, Leaf.operand] using hl
    | false =>
      cases table with
      | none =>
        have hc : IsName column := h column (by simp [Leaf.names])
        simpa [Leaf.sql, Leaf.operand, qualified] using hw hc.1 (op.symbol.toList ++ ['?'])
      | some t =>
        have ht : IsName t := h t (by simp [Leaf.names])
        simpa [Leaf.sql, Leaf.operand, qualified] using
          hw ht.1 ('.' :: (column.toList ++ (op.symbol.toList ++ ['?'])))

end ParamSql.Sql
