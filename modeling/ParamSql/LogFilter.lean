import ParamSql.Unicode.Alphanumeric

/-!
# Log filters

How much is reported is a list of directives, separated by commas.  A directive names a level,
or it names a target, a span in square brackets or both, possibly with a level behind an
equals sign.  Empty directives are passed over.

## Main definitions

* `LogFilter.isWellFormed`
-/

namespace ParamSql.LogFilter

/-- The names of levels; letter case does not count. -/
def levels : List String :=
  ["trace", "debug", "info", "warn", "error", "off", "0", "1", "2", "3", "4", "5"]

/-- Whether a text names a level. -/
def isLevel (cs : List Char) : Bool := levels.contains (String.ofList (cs.map Char.toLower))

/-- Whether a character may stand in the name of a target. -/
def isTargetChar (c : Char) : Bool :=
  Unicode.isAlphanumeric c || c == '_' || c == ':' || c == '-'

/-- What follows the target that a text begins with. -/
def target? (cs : List Char) : Option (List Char) :=
  match cs.dropWhile isTargetChar with
  | rest => if rest.length < cs.length then some rest else none

/-- What follows the span that a text begins with. -/
def span? : List Char → Option (List Char)
  | '[' :: cs =>
    match cs.dropWhile (· != ']') with
    | ']' :: rest => some rest
    | _ => none
  | _ => none

/-- What follows a target or a span. -/
def part? (cs : List Char) : Option (List Char) := (target? cs).or (span? cs)

/-- Whether a text is a level behind an equals sign, or nothing. -/
def isLevelPart : List Char → Bool
  | [] => true
  | ['='] => true
  | '=' :: cs => isLevel cs
  | _ => false

/-- Whether a text is a directive. -/
def isDirective (cs : List Char) : Bool :=
  isLevel cs ||
    match part? cs with
    | none => false
    | some rest => isLevelPart rest || ((part? rest).map isLevelPart).getD false

/-- Whether every directive of a filter is well formed. -/
def isWellFormed (s : String) : Bool :=
  ((s.splitOn ",").filter (· != "")).all fun d => isDirective d.toList

end ParamSql.LogFilter
