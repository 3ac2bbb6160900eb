import ParamSql.Proofs.Boolean.Expression
import ParamSql.Proofs.Boolean.Name

/-!
# Reading a boolean expression of SQL

    condition   ::=  conjunction (OR conjunction)*
    conjunction ::=  primary (AND primary)*
    primary     ::=  '(' condition ')'  |  operand symbol '?'
    operand     ::=  UPPER '(' lowered ')'  |  lowered
    lowered     ::=  LOWER '(' column ')'  |  column
    column      ::=  name ('.' name)?

White space may stand between any two tokens.  `AND` binds tighter than `OR`, and both group
from the left.

## Main definitions

* `Sql.columnName`, `Sql.operand`, `Sql.symbol`, `Sql.test`
* `Sql.condition`: a condition at the front of a text
* `Sql.readCondition`: a whole text as a condition
-/

namespace ParamSql.Sql

/-! ## Comparisons -/

/-- Reads a column, or a table and a column with a point between them. -/
def columnName : Reader (Option String × String) := fun cs =>
  match name cs with
  | none => none
  | some (first, rest) =>
    match mark '.' rest with
    | none => some ((none, first), rest)
    | some (_, more) =>
      match name more with
      | none => none
      | some (second, last) => some ((some first, second), last)

/-- Reads what a function is applied to, between parentheses. -/
def applied {α : Type} (function : String) (argument : Reader α) : Reader α := fun cs =>
  match word cs with
  | none => none
  | some (w, rest) =>
    if spells function w then
      match mark '(' rest with
      | none => none
      | some (_, inner) =>
        match argument inner with
        | none => none
        | some (a, rest) =>
          match mark ')' rest with
          | none => none
          | some (_, last) => some (a, last)
    else none

/-- Reads a column with or without folding to lower case; the leaf compares by `=`. -/
def lowered : Reader Leaf := fun cs =>
  match applied "LOWER" columnName cs with
  | some ((table, column), rest) => some (⟨column, table, .eq, true, false⟩, rest)
  | none =>
    match columnName cs with
    | some ((table, column), rest) => some (⟨column, table, .eq, false, false⟩, rest)
    | none => none

/-- Reads a column with its folding of letter case, to upper case last. -/
def operand : Reader Leaf := fun cs =>
  match applied "UPPER" lowered cs with
  | some (l, rest) => some ({ l with upper := true }, rest)
  | none => lowered cs

/-- Reads a comparison symbol, as long as possible. -/
def symbol : Reader Comparison := fun cs =>
  match skipSpace cs with
  | '>' :: '=' :: cs => some (.ge, cs)
  | '<' :: '=' :: cs => some (.le, cs)
  | '!' :: '=' :: cs => some (.ne, cs)
  | '<' :: '>' :: cs => some (.ne, cs)
  | '=' :: '=' :: cs => some (.eq, cs)
  | '=' :: cs => some (.eq, cs)
  | '>' :: cs => some (.gt, cs)
  | '<' :: cs => some (.lt, cs)
  | _ => none

/-- Reads the comparison of an operand with a placeholder. -/
def test : Reader Leaf := fun cs =>
  match operand cs with
  | none => none
  | some (l, rest) =>
    match symbol rest with
    | none => none
    | some (op, rest) =>
      match mark '?' rest with
      | none => none
      | some (_, last) => some ({ l with op := op }, last)

/-! ## Conditions -/

/-- Reads a keyword and what follows it behind white space. -/
def behindKeyword {α : Type} (k : String) (reader : Reader α) : Reader α := fun cs =>
  match keyword k cs with
  | none => none
  | some (_, rest) => reader (skipSpace rest)

/-- Reads operands with a keyword between them, and joins them from the left. -/
def joined (k : String) (join : BoolExpr → BoolExpr → BoolExpr) (operand : Reader BoolExpr) :
    Reader BoolExpr := fun cs =>
  match operand cs with
  | none => none
  | some (first, rest) =>
    let (others, last) := Reader.many (behindKeyword k operand) rest
    some (others.foldl join first, last)

/-- Reads a condition in parentheses, or a comparison. -/
def primary (inner : Reader BoolExpr) : Reader BoolExpr := fun cs =>
  match mark '(' cs with
  | some (_, more) =>
    match inner more with
    | none => none
    | some (e, rest) =>
      match mark ')' rest with
      | none => none
      | some (_, last) => some (e, last)
  | none =>
    match test cs with
    | none => none
    | some (l, rest) => some (.test l, rest)

/-- Reads a condition in which parentheses are nested less than `depth` deep. -/
def condition : Nat → Reader BoolExpr
  | 0 => fun _ => none
  | depth + 1 => joined "OR" .or (joined "AND" .and (primary (condition depth)))

/-- Reads a whole text as a condition.  Its length bounds the nesting of parentheses. -/
def readCondition (text : String) : Option BoolExpr :=
  match condition (text.toList.length + 1) text.toList with
  | none => none
  | some (e, rest) => if skipSpace rest = [] then some e else none

end ParamSql.Sql
