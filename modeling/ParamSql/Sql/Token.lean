import ParamSql.Reader

/-!
# Tokens of SQL

A text of SQL is a run of tokens: words, numbers, quoted names, literals and marks.  White space
and comments may stand in front of any token.  A text holds statements with semicolons between
them; a semicolon within quotes or a comment divides nothing.

## Main definitions

* `Sql.Token`, `Sql.tokens`: the tokens of a text
* `Sql.source`: what is written between the first and the last of some tokens
* `Sql.statements`: the statements of a text, as tokens
* `Sql.IsStatement`: a text that holds one statement
-/

namespace ParamSql.Sql

/-! ## Characters -/

/-- White space between the tokens of SQL. -/
def isSpace (c : Char) : Bool :=
  c == ' ' || c == '\t' || c == '\n' || c == '\x0c' || c == '\r'

/-- A character that may begin a word: a letter, an underscore, or any beyond ASCII. -/
def isWordStart (c : Char) : Bool := c.isAlpha || c == '_' || 128 ≤ c.toNat

/-- A character that may continue a word. -/
def isWordRest (c : Char) : Bool := isWordStart c || c.isDigit || c == '$'

/-! ## Gaps -/

/-- Where a gap between tokens is read. -/
inductive GapState where
  | space
  /-- in a comment that ends with the line -/
  | line
  /-- in a comment that ends with a mark of its own -/
  | block
deriving Repr, DecidableEq, Inhabited

/-- Takes a gap off the front of a text. -/
def gapIn : GapState → List Char → List Char × List Char
  | _, [] => ([], [])
  | .space, '-' :: '-' :: cs =>
    let (gap, rest) := gapIn .line cs
    ('-' :: '-' :: gap, rest)
  | .space, '/' :: '*' :: cs =>
    let (gap, rest) := gapIn .block cs
    ('/' :: '*' :: gap, rest)
  | .space, c :: cs =>
    if isSpace c then
      let (gap, rest) := gapIn .space cs
      (c :: gap, rest)
    else ([], c :: cs)
  | .line, c :: cs =>
    let (gap, rest) := gapIn (if c = '\n' then .space else .line) cs
    (c :: gap, rest)
  | .block, '*' :: '/' :: cs =>
    let (gap, rest) := gapIn .space cs
    ('*' :: '/' :: gap, rest)
  | .block, c :: cs =>
    let (gap, rest) := gapIn .block cs
    (c :: gap, rest)

/-- Takes white space and comments off the front of a text. -/
def gap (cs : List Char) : List Char × List Char := gapIn .space cs

/-! ## Tokens -/

/-- What a token is. -/
inductive TokenKind where
  | word
  | number
  /-- a name between quotes -/
  | quoted
  /-- a text or bytes between single quotes -/
  | literal
  | mark
  /-- a quote that is never closed -/
  | unclosed
deriving Repr, DecidableEq, Inhabited

/-- A token, with the gap in front of it. -/
structure Token where
  kind : TokenKind
  text : String
  gap : String := ""
deriving Repr, DecidableEq, Inhabited

/-- Takes what stands up to a closing quote off the front of a text, the quote with it.  A quote
that is written twice closes nothing. -/
def closing (quote : Char) : List Char → Option (List Char × List Char)
  | [] => none
  | c :: cs =>
    if c = quote then
      match cs with
      | d :: ds =>
        if d = quote then (closing quote ds).map fun (taken, rest) => (c :: d :: taken, rest)
        else some ([c], d :: ds)
      | [] => some ([c], [])
    else (closing quote cs).map fun (taken, rest) => (c :: taken, rest)

/-- Reads a token that begins with some characters and goes up to a closing quote. -/
def quotedToken (kind : TokenKind) (opening : List Char) (quote : Char) (cs : List Char) :
    TokenKind × List Char × List Char :=
  match closing quote cs with
  | some (taken, rest) => (kind, opening ++ taken, rest)
  | none => (.unclosed, opening ++ cs, [])

/-- The marks of two characters. -/
def longMarks : List (List Char) :=
  [['=', '='], ['!', '='], ['<', '>'], ['<', '='], ['>', '='], ['|', '|'], ['<', '<'], ['>', '>'],
    ['-', '>']]

/-- Reads a mark, as long as possible. -/
def markToken (c : Char) : List Char → TokenKind × List Char × List Char
  | d :: cs => if longMarks.contains [c, d] then (.mark, [c, d], cs) else (.mark, [c], d :: cs)
  | [] => (.mark, [c], [])

/-- Reads a token from its first character on: its kind, its text and what is left. -/
def tokenFrom (c : Char) (cs : List Char) : TokenKind × List Char × List Char :=
  match c, cs with
  | '\'', cs => quotedToken .literal ['\''] '\'' cs
  | 'x', '\'' :: cs => quotedToken .literal ['x', '\''] '\'' cs
  | 'X', '\'' :: cs => quotedToken .literal ['X', '\''] '\'' cs
  | '\x22', cs => quotedToken .quoted ['\x22'] '\x22' cs
  | '\x60', cs => quotedToken .quoted ['\x60'] '\x60' cs
  | '[', cs => quotedToken .quoted ['['] ']' cs
  | c, cs =>
    if isWordStart c then (.word, c :: cs.takeWhile isWordRest, cs.dropWhile isWordRest)
    else if c.isDigit then
      let continues (d : Char) : Bool := d.isAlphanum || d == '.'
      (.number, c :: cs.takeWhile continues, cs.dropWhile continues)
    else markToken c cs

/-- Reads a token behind the gap in front of it. -/
def token : Reader Token := fun cs =>
  match gap cs with
  | (_, []) => none
  | (space, c :: rest) =>
    let (kind, text, rest) := tokenFrom c rest
    some (⟨kind, String.ofList text, String.ofList space⟩, rest)

/-- The tokens of a text. -/
def tokens (text : String) : List Token := (Reader.many token text.toList).1

namespace Token

/-- Whether a token is a mark. -/
def isMark (m : String) (t : Token) : Bool := t.kind == .mark && t.text == m

/-- Whether a token is a keyword, whatever the case of its letters. -/
def isWord (w : String) (t : Token) : Bool := t.kind == .word && t.text.map Char.toUpper == w

/-- Whether a token may stand for a name. -/
def isName (t : Token) : Bool := t.kind == .word || t.kind == .quoted

/-- A text between quotes without them, in which the closing one is written twice. -/
def unquoted (quote : Char) : List Char → List Char
  | c :: d :: cs =>
    if c = quote ∧ d = quote then c :: unquoted quote cs else c :: unquoted quote (d :: cs)
  | cs => cs

/-- The name that a token stands for. -/
def name (t : Token) : String :=
  match t.kind, t.text.toList with
  | .quoted, '[' :: cs => String.ofList cs.dropLast
  | .quoted, c :: cs => String.ofList (unquoted c cs.dropLast)
  | _, _ => t.text

end Token

/-- What is written from the first to the last of some tokens. -/
def source : List Token → String
  | [] => ""
  | t :: ts => t.text ++ String.join (ts.map fun u => u.gap ++ u.text)

/-! ## Statements -/

/-- Tokens divided by semicolons. -/
def divided : List Token → List (List Token)
  | [] => [[]]
  | t :: ts =>
    if t.isMark ";" then [] :: divided ts
    else
      match divided ts with
      | first :: others => (t :: first) :: others
      | [] => [[t]]

/-- The statements of a text, as tokens.  Where there are no tokens there is no statement. -/
def statements (text : String) : List (List Token) :=
  (divided (tokens text)).filter (!·.isEmpty)

/-- A text that holds one statement. -/
def IsStatement (text : String) : Prop := (statements text).length = 1

instance (text : String) : Decidable (IsStatement text) :=
  inferInstanceAs (Decidable ((statements text).length = 1))

/-- A semicolon between quotes divides nothing, and what stands in a comment is no statement. -/
example : IsStatement "SELECT ';' FROM t; -- ; all of it" ∧
    ¬ IsStatement "DROP TABLE t; DROP TABLE u;" := by decide +kernel

end ParamSql.Sql
