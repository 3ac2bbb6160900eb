import Mathlib.Algebra.GroupWithZero.Nat
import Mathlib.Order.Bounds.Defs
import ParamSql.Command.Report

/-!
# Result tables are aligned

All lines of a table are made alike: a piece for every column, as wide as the column, and three
characters between two pieces.  So a line is known from its pieces, and where a piece begins is
known from the widths alone, whatever is written in it: the lines have one length, and the `k`-th
piece begins at the same offset in each of them.  No piece is cut, as the width of a column is
that of its widest text.

## Main definitions

* `Grid.offset`: where a column begins
* `Grid.Holds`: what a line reads from an offset on

## Main results

* `Grid.isGreatest_width`: the width of a column
* `Grid.length_joined`, `Grid.holds_joined`: pieces that are joined by three characters
* `Grid.table_aligned`: the table that is reported of rows
-/

namespace ParamSql.Grid

/-! ## Joined pieces -/

/-- Where the `k`-th column begins, in columns of these widths with three characters between
them. -/
def offset (widths : List Nat) (k : Nat) : Nat := (widths.take k).sum + 3 * k

/-- From this offset on the line begins with this text. -/
def Holds (line : String) (n : Nat) (text : List Char) : Prop := text <+: line.toList.drop n

section Joined

variable {sep : List Char} (hsep : sep.length = 3)
include hsep

theorem length_intercalate (pieces : List (List Char)) :
    (sep.intercalate pieces).length =
      (pieces.map List.length).sum + 3 * (pieces.length - 1) := by
  induction pieces with
  | nil => rfl
  | cons piece pieces ih =>
    cases pieces with
    | nil => simp
    | cons next pieces =>
      rw [List.intercalate_cons_cons, List.length_append, List.length_append, hsep, ih]
      simp only [List.map_cons, List.sum_cons, List.length_cons]
      omega

/-- Behind the offset of a piece stands the piece, and what separates it from the next one. -/
theorem prefix_drop_intercalate {pieces : List (List Char)} {k : Nat} (hk : k < pieces.length) :
    pieces[k] ++ (if k + 1 < pieces.length then sep else []) <+:
      (sep.intercalate pieces).drop (offset (pieces.map List.length) k) := by
  induction pieces generalizing k with
  | nil => exact absurd hk (Nat.not_lt_zero k)
  | cons piece pieces ih =>
    cases pieces with
    | nil =>
      obtain rfl : k = 0 := Nat.lt_one_iff.mp hk
      simp [offset]
    | cons next pieces =>
      rw [List.intercalate_cons_cons]
      cases k with
      | zero => simp [offset]
      | succ k =>
        have hoffset : offset ((piece :: next :: pieces).map List.length) (k + 1) =
            (piece ++ sep).length + offset ((next :: pieces).map List.length) k := by
          rw [List.length_append, hsep]
          simp only [offset, List.map_cons, List.take_succ_cons, List.sum_cons]
          omega
        have hnext := ih (k := k) (Nat.lt_of_succ_lt_succ hk)
        rw [hoffset, List.drop_append, List.drop_of_length_le (Nat.le_add_right ..),
          List.nil_append, Nat.add_sub_cancel_left]
        simpa using hnext

end Joined

section Lines

variable {columns : List String} {wide : String → Nat} {piece : String → String} {sep : String}

/-- The pieces of some columns are as wide as these. -/
theorem map_length_pieces (hpiece : ∀ c, (piece c).length = wide c) (columns : List String) :
    ((columns.map piece).map String.toList).map List.length = columns.map wide := by
  rw [List.map_map, List.map_map]
  refine List.map_congr_left fun c _ => ?_
  exact String.length_toList.trans (hpiece c)

/-- A line is as long as its columns and what is between them. -/
theorem length_joined (hsep : sep.toList.length = 3) (hpiece : ∀ c, (piece c).length = wide c)
    (columns : List String) :
    (String.intercalate sep (columns.map piece)).length =
      (columns.map wide).sum + 3 * (columns.length - 1) := by
  rw [← String.length_toList, String.toList_intercalate, length_intercalate hsep,
    map_length_pieces hpiece, List.length_map, List.length_map]

/-- **The `k`-th piece stands at the `k`-th offset**, and behind it what separates it from the
next one. -/
theorem holds_joined (hsep : sep.toList.length = 3) (hpiece : ∀ c, (piece c).length = wide c)
    {k : Nat} {c : String} (hc : columns[k]? = some c) :
    Holds (String.intercalate sep (columns.map piece)) (offset (columns.map wide) k)
      ((piece c).toList ++ if k + 1 < columns.length then sep.toList else []) := by
  obtain ⟨hk, rfl⟩ := List.getElem?_eq_some_iff.mp hc
  have hlength : k < ((columns.map piece).map String.toList).length := by simpa using hk
  have hprefix := prefix_drop_intercalate hsep hlength
  rw [map_length_pieces hpiece] at hprefix
  rw [Holds, String.toList_intercalate]
  simpa using hprefix

end Lines

/-! ## Widths -/

section Widths

variable {rows : List Row} {column text : String} {w : Nat}

/-- **The width of a column** is that of its widest text. -/
theorem isGreatest_width (rows : List Row) (column : String) :
    IsGreatest {n | n = column.length ∨ ∃ r ∈ rows, n = (cell column r).length}
      (width rows column) := by
  have hmax : (column.length :: rows.map fun r => (cell column r).length).max? =
      some (width rows column) := List.max?_cons'
  obtain ⟨hmem, hle⟩ := List.max?_eq_some_iff.mp hmax
  refine ⟨?_, ?_⟩
  · rcases List.mem_cons.mp hmem with hname | hcell
    · exact .inl hname
    · obtain ⟨r, hr, hlength⟩ := List.mem_map.mp hcell
      exact .inr ⟨r, hr, hlength.symm⟩
  · rintro n (rfl | ⟨r, hr, rfl⟩)
    · exact hle _ List.mem_cons_self
    · exact hle _ (List.mem_cons_of_mem _ (List.mem_map.mpr ⟨r, hr, rfl⟩))

/-- The text of a cell: that of a text is the text itself, and any other value is written as a
document without blanks. -/
theorem cell_of_get? {r : Row} {v : Document.Node} (h : r.get? column = some v) :
    (v = .null → cell column r = "NULL") ∧ (∀ s, v = .text s → cell column r = s) ∧
      (v ≠ .null → (∀ s, v ≠ .text s) → cell column r = Document.Json.compact v) := by
  have hcell : cell column r = cellText v := by
    rw [cell, h]
    rfl
  rw [hcell]
  refine ⟨?_, ?_, fun hnull htext => ?_⟩
  · rintro rfl
    rfl
  · rintro s rfl
    rfl
  · rw [cellText]
    · exact hnull
    · exact htext

theorem toList_padded (w : Nat) (text : String) :
    (padded w text).toList = text.toList ++ List.replicate (w - text.length) ' ' := by
  rw [padded, String.toList_append, String.toList_ofList]

theorem length_padded (h : text.length ≤ w) : (padded w text).length = w := by
  rw [← String.length_toList, toList_padded, List.length_append, List.length_replicate,
    String.length_toList]
  omega

theorem length_bar (w : Nat) : (bar w).length = w := by
  rw [← String.length_toList, bar, String.toList_ofList, List.length_replicate]

end Widths

/-! ## Tables -/

section Kinds

variable {columns : List String} {wide : String → Nat} {text : String → String} {k : Nat}
  {c : String}

/-- A line of cells is joined of them, each filled up to the width of its column. -/
theorem line_map (columns : List String) (wide : String → Nat) (text : String → String) :
    line (columns.map wide) (columns.map text) =
      String.intercalate cellSeparator (columns.map fun c => padded (wide c) (text c)) := by
  rw [line, List.zipWith_map, List.zipWith_self]

theorem length_line (h : ∀ c, (text c).length ≤ wide c) (columns : List String) :
    (line (columns.map wide) (columns.map text)).length =
      (columns.map wide).sum + 3 * (columns.length - 1) := by
  rw [line_map]
  exact length_joined rfl (fun c => length_padded (h c)) columns

/-- A line of cells shows each of them as a whole, at the offset of its column. -/
theorem holds_line (h : ∀ c, (text c).length ≤ wide c) (hc : columns[k]? = some c) :
    Holds (line (columns.map wide) (columns.map text)) (offset (columns.map wide) k)
      ((text c).toList ++ List.replicate (wide c - (text c).length) ' ' ++
        if k + 1 < columns.length then cellSeparator.toList else []) := by
  have hsep : cellSeparator.toList.length = 3 := rfl
  have hholds := holds_joined hsep (fun c => length_padded (h c)) hc
  rwa [toList_padded, ← line_map] at hholds

theorem rule_map (columns : List String) (wide : String → Nat) :
    rule (columns.map wide) =
      String.intercalate barSeparator (columns.map fun c => bar (wide c)) := by
  rw [rule, List.map_map]
  rfl

theorem length_rule (columns : List String) (wide : String → Nat) :
    (rule (columns.map wide)).length =
      (columns.map wide).sum + 3 * (columns.length - 1) := by
  rw [rule_map]
  exact length_joined rfl (fun c => length_bar (wide c)) columns

theorem holds_rule (hc : columns[k]? = some c) :
    Holds (rule (columns.map wide)) (offset (columns.map wide) k)
      (List.replicate (wide c) '─' ++
        if k + 1 < columns.length then barSeparator.toList else []) := by
  have hsep : barSeparator.toList.length = 3 := rfl
  have hholds := holds_joined hsep (fun c => length_bar (wide c)) hc
  rwa [bar, String.toList_ofList, ← rule_map] at hholds

end Kinds

/-- **A table is aligned and complete.**  A column is as wide as the widest of its name and its
cells.  The header, the rule and the line of every row, in the order of the rows, have the same
number of characters, that of the columns and three more for each column after the first.  In
every line the text of the `k`-th column begins at the `k`-th offset; it is there as a whole, with
blanks behind it up to the width of the column, and then what separates two columns.  The text of
a row that lacks the column is empty; a missing value is written as `NULL`, a text as it is, and
any other value as a document without blanks. -/
theorem table_aligned (first : Row) (rest : List Row) :
    let rows := first :: rest
    let columns := first.columns
    let widths := columns.map (width rows)
    (∀ c, IsGreatest {n | n = c.length ∨ ∃ r ∈ rows, n = (cell c r).length} (width rows c)) ∧
    (∀ c (r : Row), r.get? c = none → cell c r = "") ∧
    (∀ c (r : Row) v, r.get? c = some v →
      (v = .null → cell c r = "NULL") ∧ (∀ s, v = .text s → cell c r = s) ∧
        (v ≠ .null → (∀ s, v ≠ .text s) → cell c r = Document.Json.compact v)) ∧
    ∃ (header rule : String) (body : List String),
      Report.shownOutcome .table (.rows rows) =
        header :: rule :: (body ++ ["", toString rows.length ++ " row(s) returned"]) ∧
      body.length = rows.length ∧
      (∀ l ∈ header :: rule :: body, l.length = widths.sum + 3 * (columns.length - 1)) ∧
      ∀ (k : Nat) (c : String), columns[k]? = some c →
        let blanks (text : String) := List.replicate (width rows c - text.length) ' '
        let behind (separator : String) :=
          if k + 1 < columns.length then separator.toList else []
        Holds header (offset widths k) (c.toList ++ blanks c ++ behind " │ ") ∧
        Holds rule (offset widths k) (List.replicate (width rows c) '─' ++ behind "─┼─") ∧
        ∀ (i : Nat) (r : Row) (l : String), rows[i]? = some r → body[i]? = some l →
          Holds l (offset widths k) ((cell c r).toList ++ blanks (cell c r) ++ behind " │ ") := by
  intro rows columns widths
  have hname : ∀ c, (id c).length ≤ width rows c := fun c => (isGreatest_width rows c).2 (.inl rfl)
  have hcell : ∀ r ∈ rows, ∀ c, (cell c r).length ≤ width rows c := fun r hr c =>
    (isGreatest_width rows c).2 (.inr ⟨r, hr, rfl⟩)
  have hid : columns.map id = columns := List.map_id columns
  refine ⟨isGreatest_width rows, fun c r hr => by rw [cell, hr]; rfl,
    fun _ _ _ => cell_of_get?, line widths columns,
    rule widths, rows.map fun r => line widths (columns.map (cell · r)), rfl,
    List.length_map _, ?_, ?_⟩
  · intro l hl
    rcases List.mem_cons.mp hl with rfl | hl
    · rw [← length_line hname columns, hid]
    · rcases List.mem_cons.mp hl with rfl | hl
      · exact length_rule columns (width rows)
      · obtain ⟨r, hr, rfl⟩ := List.mem_map.mp hl
        exact length_line (hcell r hr) columns
  · intro k c hc blanks behind
    refine ⟨?_, holds_rule hc, fun i r l hr hl => ?_⟩
    · have hheader := holds_line hname hc
      rwa [hid] at hheader
    · rw [List.getElem?_map, hr] at hl
      cases hl
      exact holds_line (hcell r (List.mem_of_getElem? hr)) hc

example :
    lines [⟨[("id", .int 7), ("é", .text "日本語")]⟩, ⟨[("é", .null), ("n", .int 1)]⟩] =
      ["id │ é   ", "───┼─────", "7  │ 日本語 ", "   │ NULL"] := by decide +kernel

end ParamSql.Grid
