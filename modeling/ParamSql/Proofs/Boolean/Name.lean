import ParamSql.Proofs.Reader
import ParamSql.Sql.Token

/-!
# Words and names of SQL

A word is a run of letters, digits, underscores, dollar signs and characters beyond ASCII that
does not begin with a digit or a dollar sign.  A word is read as long as possible, in front of
it white space does not count.  A name is a word that is no keyword, whatever the case of its
letters.

## Main definitions

* `Sql.word`, `Sql.mark`: the readers of a word and of a punctuation mark
* `Sql.keywords`, `Sql.isKeyword`, `Sql.IsName`

## Main results

* `Sql.word_append`: a word is read back in front of anything that does not continue it
-/

namespace ParamSql.Sql

/-! ## White space -/

/-- The text behind its leading white space. -/
def skipSpace (cs : List Char) : List Char := cs.dropWhile isSpace

theorem skipSpace_cons {c : Char} (h : isSpace c = false) (cs : List Char) :
    skipSpace (c :: cs) = c :: cs := by
  simp [skipSpace, h]

theorem isSpace_of_isWordStart {c : Char} (h : isWordStart c = true) : isSpace c = false := by
  refine Bool.eq_false_iff.mpr fun hs => ?_
  simp only [isSpace, Bool.or_eq_true, beq_iff_eq] at hs
  rcases hs with (((rfl | rfl) | rfl) | rfl) | rfl <;> exact absurd h (by decide)

/-! ## Tokens -/

/-- Reads a word, as long as possible. -/
def word : Reader (List Char) := fun cs =>
  match skipSpace cs with
  | [] => none
  | c :: cs =>
    if isWordStart c then some (c :: cs.takeWhile isWordRest, cs.dropWhile isWordRest) else none

/-- Reads the text behind a punctuation mark. -/
def mark (symbol : Char) : Reader Unit := fun cs =>
  match skipSpace cs with
  | [] => none
  | c :: cs => if c = symbol then some ((), cs) else none

theorem mark_cons {c : Char} (h : isSpace c = false) (cs : List Char) :
    mark c (c :: cs) = some ((), cs) := by
  simp [mark, skipSpace_cons h]

theorem mark_ne {c symbol : Char} (h : isSpace c = false) (hne : c ≠ symbol) (cs : List Char) :
    mark symbol (c :: cs) = none := by
  simp [mark, skipSpace_cons h, hne]

/-- Whether a text is a word. -/
def isWord : List Char → Bool
  | [] => false
  | c :: cs => isWordStart c && cs.all isWordRest

/-- The text does not continue a word. -/
def EndsWord (cs : List Char) : Prop := ∀ c ∈ cs.head?, isWordRest c = false

theorem endsWord_cons {c : Char} (h : isWordRest c = false) (cs : List Char) :
    EndsWord (c :: cs) := by
  rintro d ⟨⟩
  exact h

/-- **A word is read back** in front of anything that does not continue it. -/
theorem word_append {w rest : List Char} (hw : isWord w = true) (hrest : EndsWord rest) :
    word (w ++ rest) = some (w, rest) := by
  cases w with
  | nil => cases hw
  | cons c w =>
    obtain ⟨hc, hw⟩ : isWordStart c = true ∧ ∀ d ∈ w, isWordRest d = true := by
      simpa [isWord] using hw
    rw [List.cons_append, word, skipSpace_cons (isSpace_of_isWordStart hc)]
    simp only [hc, if_true]
    rw [Reader.takeWhile_run hw hrest, Reader.dropWhile_run hw hrest]

/-! ## Names -/

/-- The keywords, in capital letters. -/
def keywords : List String := [
  "ABORT", "ACTION", "ADD", "AFTER", "ALL", "ALTER", "ALWAYS", "ANALYZE", "AND", "AS", "ASC",
  "ATTACH", "AUTOINCREMENT", "BEFORE", "BEGIN", "BETWEEN", "BY", "CASCADE", "CASE", "CAST",
  "CHECK", "COLLATE", "COLUMN", "COMMIT", "CONFLICT", "CONSTRAINT", "CREATE", "CROSS", "CURRENT",
  "CURRENT_DATE", "CURRENT_TIME", "CURRENT_TIMESTAMP", "DATABASE", "DEFAULT", "DEFERRABLE",
  "DEFERRED", "DELETE", "DESC", "DETACH", "DISTINCT", "DO", "DROP", "EACH", "ELSE", "END",
  "ESCAPE", "EXCEPT", "EXCLUDE", "EXCLUSIVE", "EXISTS", "EXPLAIN", "FAIL", "FILTER", "FIRST",
  "FOLLOWING", "FOR", "FOREIGN", "FROM", "FULL", "GENERATED", "GLOB", "GROUP", "GROUPS",
  "HAVING", "IF", "IGNORE", "IMMEDIATE", "IN", "INDEX", "INDEXED", "INITIALLY", "INNER",
  "INSERT", "INSTEAD", "INTERSECT", "INTO", "IS", "ISNULL", "JOIN", "KEY", "LAST", "LEFT",
  "LIKE", "LIMIT", "MATCH", "MATERIALIZED", "NATURAL", "NO", "NOT", "NOTHING", "NOTNULL",
  "NULL", "NULLS", "OF", "OFFSET", "ON", "OR", "ORDER", "OTHERS", "OUTER", "OVER", "PARTITION",
  "PLAN", "PRAGMA", "PRECEDING", "PRIMARY", "QUERY", "RAISE", "RANGE", "RECURSIVE",
  "REFERENCES", "REGEXP", "REINDEX", "RELEASE", "RENAME", "REPLACE", "RESTRICT", "RETURNING",
  "RIGHT", "ROLLBACK", "ROW", "ROWS", "SAVEPOINT", "SELECT", "SET", "TABLE", "TEMP",
  "TEMPORARY", "THEN", "TIES", "TO", "TRANSACTION", "TRIGGER", "UNBOUNDED", "UNION", "UNIQUE",
  "UPDATE", "USING", "VACUUM", "VALUES", "VIEW", "VIRTUAL", "WHEN", "WHERE", "WINDOW", "WITH",
  "WITHOUT"]

/-- Whether a word is the given keyword, whatever the case of its letters. -/
def spells (keyword : String) (w : List Char) : Bool := w.map Char.toUpper == keyword.toList

/-- Whether a word is a keyword. -/
def isKeyword (w : List Char) : Bool := keywords.any (spells · w)

/-- A text that SQL reads as a name: a word that is no keyword. -/
def IsName (s : String) : Prop := isWord s.toList = true ∧ isKeyword s.toList = false

instance (s : String) : Decidable (IsName s) :=
  inferInstanceAs (Decidable (isWord s.toList = true ∧ isKeyword s.toList = false))

/-- Reads a name. -/
def name : Reader String := fun cs =>
  match word cs with
  | none => none
  | some (w, rest) => if isKeyword w then none else some (String.ofList w, rest)

/-- Reads the given keyword. -/
def keyword (k : String) : Reader Unit := fun cs =>
  match word cs with
  | none => none
  | some (w, rest) => if spells k w then some ((), rest) else none

/-- **A name is read back** in front of anything that does not continue it. -/
theorem name_append {s : String} {rest : List Char} (h : IsName s) (hrest : EndsWord rest) :
    name (s.toList ++ rest) = some (s, rest) := by
  rw [name, word_append h.1 hrest]
  simp [h.2]

end ParamSql.Sql
