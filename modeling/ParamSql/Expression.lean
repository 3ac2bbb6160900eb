import ParamSql.Error
import ParamSql.Predicate
import ParamSql.Reader
import ParamSql.Unicode.Alphanumeric
import ParamSql.Unicode.WhiteSpace

/-!
# Predicate expressions

A predicate tree has a compact text form, as in `lower(users.name)=&age>=|(role,state!=)`.

    node   ::=  leaf ('&' group)* ('|' group)*
    group  ::=  '(' node (',' node)* ')'  |  leaf
    leaf   ::=  fold op? '?'?
    fold   ::=  'upper(lower(' path '))'  |  'lower(' path ')'  |  'upper(' path ')'  |  path
    path   ::=  ident ('.' ident)?

Blanks may stand between any two of these, but for those around a point.  A missing
operator is `=`, and the question mark says nothing.  The groups behind `&` become the
node's `ands`, those behind `|` its `ors`.

Reading is greedy and prefers the first alternative.  A reader yields what it read
with the text that is left, or nothing when the text does not begin that way.

## Main definitions

* `Expression.skipBlanks`, `Expression.behind`
* `Expression.leaf`, `Expression.group`, `Expression.node`
* `Expression.parse`: a whole text as a predicate
-/

namespace ParamSql.Expression

open Reader (symbol many)

/-! ## Blanks -/

/-- A character that may stand between tokens. -/
def isBlank (c : Char) : Bool := c == ' ' || c == '\t' || c == '\r' || c == '\n'

/-- The text behind its leading blanks. -/
def skipBlanks (cs : List Char) : List Char := cs.dropWhile isBlank

/-- Reads a symbol between blanks, and then what the reader reads. -/
def behind {α : Type} (mark : List Char) (reader : Reader α) : Reader α := fun cs =>
  match symbol mark (skipBlanks cs) with
  | some (_, rest) => reader (skipBlanks rest)
  | none => none

/-! ## Columns -/

/-- A character that may begin an identifier: an ASCII letter or an underscore. -/
def isIdentStart (c : Char) : Bool := c.isAlpha || c == '_'

/-- A character that may continue an identifier. -/
def isIdentRest (c : Char) : Bool := Unicode.isAlphanumeric c || c == '_'

/-- Reads an identifier, as long as possible. -/
def ident : Reader String
  | [] => none
  | c :: cs =>
    if isIdentStart c then
      some (String.ofList (c :: cs.takeWhile isIdentRest), cs.dropWhile isIdentRest)
    else none

/-- A column with the table in front of it. -/
structure Path where
  table : Option String
  column : String
deriving Repr, DecidableEq

/-- Reads a column, or a table and a column with a point between them. -/
def path : Reader Path := fun cs =>
  match ident cs with
  | none => none
  | some (first, rest) =>
    match rest with
    | '.' :: more =>
      match ident more with
      | some (second, last) => some (⟨some first, second⟩, last)
      | none => some (⟨none, first⟩, rest)
    | _ => some (⟨none, first⟩, rest)

/-- Reads a path between an opening and a closing symbol, blanks inside. -/
def enclosed (opening closing : List Char) : Reader Path := fun cs =>
  match symbol opening cs with
  | none => none
  | some (_, inner) =>
    match path (skipBlanks inner) with
    | none => none
    | some (p, rest) =>
      match symbol closing (skipBlanks rest) with
      | none => none
      | some (_, last) => some (p, last)

/-- Reads a column with its folding of letter case; the leaf compares by `=`. -/
def folded : Reader Leaf := fun cs =>
  match enclosed "upper(lower(".toList "))".toList cs with
  | some (p, rest) => some (⟨p.column, p.table, .eq, true, true⟩, rest)
  | none =>
    match enclosed "lower(".toList ")".toList cs with
    | some (p, rest) => some (⟨p.column, p.table, .eq, true, false⟩, rest)
    | none =>
      match enclosed "upper(".toList ")".toList cs with
      | some (p, rest) => some (⟨p.column, p.table, .eq, false, true⟩, rest)
      | none =>
        match path cs with
        | some (p, rest) => some (⟨p.column, p.table, .eq, false, false⟩, rest)
        | none => none

/-! ## Nodes -/

/-- Reads a comparison if there is one; `=` otherwise.  Longer symbols come first. -/
def comparison : List Char → Comparison × List Char
  | '>' :: '=' :: cs => (.ge, cs)
  | '<' :: '=' :: cs => (.le, cs)
  | '!' :: '=' :: cs => (.ne, cs)
  | '=' :: cs => (.eq, cs)
  | '>' :: cs => (.gt, cs)
  | '<' :: cs => (.lt, cs)
  | cs => (.eq, cs)

/-- The text behind a question mark, if it begins with one. -/
def skipMark : List Char → List Char
  | '?' :: cs => cs
  | cs => cs

/-- Reads a leaf with the blanks behind its column and its comparison. -/
def leaf : Reader Leaf := fun cs =>
  match folded cs with
  | none => none
  | some (l, rest) =>
    let (op, rest) := comparison (skipBlanks rest)
    some ({ l with op := op }, skipMark (skipBlanks rest))

/-- Reads nodes between parentheses, separated by commas. -/
def parenthesised (node : Reader Predicate) : Reader (List Predicate) := fun cs =>
  match symbol ['('] cs with
  | none => none
  | some (_, inner) =>
    match node (skipBlanks inner) with
    | none => none
    | some (p, rest) =>
      let (ps, rest) := many (behind [','] node) rest
      match symbol [')'] (skipBlanks rest) with
      | none => none
      | some (_, last) => some (p :: ps, last)

/-- Reads nodes in parentheses, or one leaf. -/
def group (node : Reader Predicate) : Reader (List Predicate) := fun cs =>
  match parenthesised node cs with
  | some r => some r
  | none =>
    match leaf cs with
    | some (l, rest) => some ([⟨l, [], []⟩], rest)
    | none => none

/-- Reads a node in which parentheses are nested less than `depth` deep. -/
def node : Nat → Reader Predicate
  | 0 => fun _ => none
  | depth + 1 => fun cs =>
    match leaf cs with
    | none => none
    | some (l, rest) =>
      let (ands, rest) := many (behind ['&'] (group (node depth))) rest
      let (ors, rest) := many (behind ['|'] (group (node depth))) rest
      some (⟨l, ands.flatten, ors.flatten⟩, rest)

/-! ## Whole texts -/

/-- Why a text is no predicate. -/
inductive ParseError where
  /-- the text does not begin with a column -/
  | expectedColumn (text : List Char)
  /-- a predicate ends at this byte position and more text follows -/
  | trailing (position : Nat) (text : List Char)
deriving Repr, DecidableEq

/-- The error with its position and wording. -/
def ParseError.toQueryError : ParseError → QueryError
  | expectedColumn text => .parse 0 ("Expected a column near '" ++ String.ofList text ++ "'")
  | trailing position text =>
    .parse position ("Unexpected trailing content: '" ++ String.ofList text ++ "'")

/-- How many bytes a text takes. -/
def byteCount : List Char → Nat
  | [] => 0
  | c :: cs => c.utf8Size + byteCount cs

/-- Reads a text without white space at its ends as a predicate.  Its length bounds the
nesting of parentheses. -/
def parseTrimmed (cs : List Char) : Except ParseError Predicate :=
  match node (cs.length + 1) cs with
  | none => .error (.expectedColumn cs)
  | some (p, []) => .ok p
  | some (_, rest) => .error (.trailing (byteCount cs - byteCount rest) rest)

/-- Reads a text as a predicate; white space around it does not count. -/
def parse (s : String) : Except ParseError Predicate := parseTrimmed (Unicode.trim s.toList)

end ParamSql.Expression
