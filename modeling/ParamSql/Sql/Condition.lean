import ParamSql.Predicate

/-!
# Conditions as SQL text

A predicate tree is written as a boolean expression with one `?` per leaf.  A node
with further nodes is wrapped in parentheses, so that the tree decides the
grouping and not the precedence of `AND` over `OR`.

## Main definitions

* `Sql.qualified`, `Leaf.sql`
* `Predicate.condition`, `Predicate.whereClause`
-/

namespace ParamSql

namespace Sql

/-- A column name, behind the name of its table when there is one. -/
def qualified (table : Option String) (column : String) : String :=
  match table with
  | some t => t ++ "." ++ column
  | none => column

/-- Joins a first condition with the rest by a word, in parentheses when there is a rest. -/
def grouped (word first : String) (rest : List String) : String :=
  if rest.isEmpty then first else "(" ++ String.intercalate word (first :: rest) ++ ")"

/-- Joined texts are the first one and the others, each behind the separator. -/
theorem toList_intercalate_cons {α : Type} (sep first : String) (as : List α)
    (text : α → String) :
    (String.intercalate sep (first :: as.map text)).toList =
      first.toList ++ as.flatMap (fun a => sep.toList ++ (text a).toList) := by
  induction as generalizing first with
  | nil => simp
  | cons a as ih =>
    rw [List.map_cons, String.intercalate_cons_cons, String.toList_append, String.toList_append,
      ih, List.flatMap_cons]
    simp only [List.append_assoc]

end Sql

namespace Leaf

/-- The column as it is compared: folded to lower case first, to upper case last. -/
def operand (l : Leaf) : String :=
  let column := Sql.qualified l.table l.column
  let column := if l.lower then "lower(" ++ column ++ ")" else column
  if l.upper then "upper(" ++ column ++ ")" else column

/-- The comparison with its placeholder. -/
def sql (l : Leaf) : String := l.operand ++ l.op.symbol ++ "?"

end Leaf

namespace Predicate

mutual

/-- The predicate as a boolean expression: the leaf `AND` every node of `ands`, and
around it `OR` every node of `ors`. -/
def condition : Predicate → String
  | ⟨leaf, ands, ors⟩ =>
    Sql.grouped " OR " (Sql.grouped " AND " leaf.sql (conditions ands)) (conditions ors)

/-- Each node of a list as a boolean expression. -/
def conditions : List Predicate → List String
  | [] => []
  | p :: ps => condition p :: conditions ps

end

theorem conditions_eq_map (ps : List Predicate) : conditions ps = ps.map condition := by
  induction ps with
  | nil => rfl
  | cons p ps ih => simp [conditions, ih]

/-- The predicate as a clause. -/
def whereClause (p : Predicate) : String := "WHERE " ++ p.condition

end Predicate

end ParamSql
