/-!
# Comparisons, adjustments and column types

The three closed vocabularies of a statement: how a column is compared with its
placeholder, how an assignment changes a column, and which storage type a column
declares.  Each is written by a fixed word, and reading a word accepts exactly
the written ones.

## Main definitions

* `Comparison`, `Comparison.symbol`, `Comparison.ofSymbol?`
* `Adjustment`, `Adjustment.symbol`, `Adjustment.word`, `Adjustment.ofWord?`
* `ColumnType`, `ColumnType.word`, `ColumnType.ofWord?`

## Main results

* `Comparison.ofSymbol?_eq_some_iff`, `Adjustment.ofWord?_eq_some_iff`,
  `ColumnType.ofWord?_eq_some_iff`: each reader accepts one word per value.
-/

namespace ParamSql

/-- How a column is compared with its placeholder. -/
inductive Comparison where
  | eq
  | ne
  | gt
  | ge
  | lt
  | le
deriving Repr, DecidableEq, Inhabited

namespace Comparison

/-- The comparison as it is written between the column and the placeholder. -/
def symbol : Comparison → String
  | eq => "="
  | ne => "!="
  | gt => ">"
  | ge => ">="
  | lt => "<"
  | le => "<="

/-- The comparison that a symbol writes. -/
def ofSymbol? (s : String) : Option Comparison :=
  [eq, ne, gt, ge, lt, le].find? (·.symbol == s)

/-- **One symbol per comparison**: a text is read as `c` exactly when it is the
symbol of `c`. -/
theorem ofSymbol?_eq_some_iff {s : String} {c : Comparison} :
    ofSymbol? s = some c ↔ s = c.symbol := by
  constructor
  · intro h
    have := List.find?_some h
    exact (beq_iff_eq.mp this).symm
  · rintro rfl
    cases c <;> decide

@[simp] theorem ofSymbol?_symbol (c : Comparison) : ofSymbol? c.symbol = some c :=
  ofSymbol?_eq_some_iff.mpr rfl

end Comparison

/-- How an assignment changes the value that a column already has. -/
inductive Adjustment where
  | add
  | sub
deriving Repr, DecidableEq, Inhabited

namespace Adjustment

/-- The arithmetic sign between the column and the placeholder. -/
def symbol : Adjustment → String
  | add => "+"
  | sub => "-"

/-- The word that names the adjustment in a document. -/
def word : Adjustment → String
  | add => "+="
  | sub => "-="

/-- The adjustment that a word names. -/
def ofWord? (s : String) : Option Adjustment :=
  [add, sub].find? (·.word == s)

/-- **One word per adjustment**. -/
theorem ofWord?_eq_some_iff {s : String} {a : Adjustment} :
    ofWord? s = some a ↔ s = a.word := by
  constructor
  · intro h
    have := List.find?_some h
    exact (beq_iff_eq.mp this).symm
  · rintro rfl
    cases a <;> decide

@[simp] theorem ofWord?_word (a : Adjustment) : ofWord? a.word = some a :=
  ofWord?_eq_some_iff.mpr rfl

end Adjustment

/-- The declared type of a column. -/
inductive ColumnType where
  | blob
  | integer
  | numeric
  | real
  | text
deriving Repr, DecidableEq, Inhabited

namespace ColumnType

/-- The type as a column definition and a document write it. -/
def word : ColumnType → String
  | blob => "BLOB"
  | integer => "INTEGER"
  | numeric => "NUMERIC"
  | real => "REAL"
  | text => "TEXT"

/-- The type that a word names; letter case counts. -/
def ofWord? (s : String) : Option ColumnType :=
  [blob, integer, numeric, real, text].find? (·.word == s)

/-- **One word per column type**. -/
theorem ofWord?_eq_some_iff {s : String} {t : ColumnType} :
    ofWord? s = some t ↔ s = t.word := by
  constructor
  · intro h
    have := List.find?_some h
    exact (beq_iff_eq.mp this).symm
  · rintro rfl
    cases t <;> decide

@[simp] theorem ofWord?_word (t : ColumnType) : ofWord? t.word = some t :=
  ofWord?_eq_some_iff.mpr rfl

end ColumnType

end ParamSql
