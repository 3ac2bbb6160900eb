import ParamSql.Document.Hexadecimal
import ParamSql.Reader

/-!
# Keys and texts of a configuration document

A text stands between quotes or apostrophes, one on each side or three.  Between
quotes a backslash begins an escape; between apostrophes every character stands for
itself.  Only texts between three may run over several lines; a line break at their
very beginning does not count.

A key is a row of names with points between them, each a bare word or a text on one
line.

## Main definitions

* `Toml.skipBlanks`, `Toml.skipLayout`, `Toml.lineEnd?`
* `Toml.escape?`, `Toml.text`
* `Toml.key`
-/

namespace ParamSql.Document.Toml

open Reader (many)

/-! ## Layout -/

/-- A blank within a line. -/
def isBlank (c : Char) : Bool := c == ' ' || c == '\t'

def skipBlanks (cs : List Char) : List Char := cs.dropWhile isBlank

/-- A character that may stand in a comment or, unescaped, in a text: everything but control
characters other than the tab. -/
def isPlain (c : Char) : Bool := c == '\t' || (0x20 ≤ c.toNat && c.toNat != 0x7F)

/-- The text behind a line break. -/
def newline? : List Char → Option (List Char)
  | '\n' :: cs => some cs
  | '\r' :: '\n' :: cs => some cs
  | _ => none

theorem length_dropWhile_le (p : Char → Bool) (cs : List Char) :
    (cs.dropWhile p).length ≤ cs.length :=
  (List.dropWhile_sublist p).length_le

/-- Skips blanks, line breaks and comments. -/
def skipLayout : List Char → List Char
  | ' ' :: cs => skipLayout cs
  | '\t' :: cs => skipLayout cs
  | '\n' :: cs => skipLayout cs
  | '\r' :: '\n' :: cs => skipLayout cs
  | '#' :: cs => skipLayout (cs.dropWhile isPlain)
  | cs => cs
termination_by cs => cs.length
decreasing_by
  all_goals simp only [List.length_cons]
  all_goals try omega
  have := length_dropWhile_le isPlain cs
  omega

/-- Skips blanks and line breaks. -/
def skipSpace : List Char → List Char
  | ' ' :: cs => skipSpace cs
  | '\t' :: cs => skipSpace cs
  | '\n' :: cs => skipSpace cs
  | '\r' :: '\n' :: cs => skipSpace cs
  | cs => cs

theorem length_skipSpace_le (cs : List Char) : (skipSpace cs).length ≤ cs.length := by
  fun_induction skipSpace cs <;> simp_all <;> omega

/-- The text behind the end of a line, a comment included. -/
def lineEnd? (cs : List Char) : Option (List Char) :=
  let rest :=
    match skipBlanks cs with
    | '#' :: cs => cs.dropWhile isPlain
    | cs => cs
  match rest with
  | [] => some []
  | cs => newline? cs

/-! ## Texts -/

/-- Reads the number of a character, in so many hexadecimal digits. -/
def codePoint (digits : Nat) : Reader Char := fun cs =>
  if cs.length < digits then none
  else
    match hexNumber? (cs.take digits) with
    | some n => if n.isValidChar then some (Char.ofNat n, cs.drop digits) else none
    | none => none

/-- Reads the character that an escape stands for, behind its backslash. -/
def escape? : Reader Char
  | 'b' :: cs => some ('\x08', cs)
  | 't' :: cs => some ('\t', cs)
  | 'n' :: cs => some ('\n', cs)
  | 'f' :: cs => some ('\x0c', cs)
  | 'r' :: cs => some ('\r', cs)
  | '"' :: cs => some ('"', cs)
  | '\\' :: cs => some ('\\', cs)
  | 'u' :: cs => codePoint 4 cs
  | 'U' :: cs => codePoint 8 cs
  | _ => none

theorem length_le_of_codePoint {digits : Nat} {cs rest : List Char} {c : Char}
    (h : codePoint digits cs = some (c, rest)) : rest.length ≤ cs.length := by
  unfold codePoint at h
  split at h
  · cases h
  · split at h
    · split at h
      · cases h
        simp
      · cases h
    · cases h

theorem length_lt_of_escape? {cs rest : List Char} {c : Char}
    (h : escape? cs = some (c, rest)) : rest.length < cs.length := by
  unfold escape? at h
  split at h
  case h_8 | h_9 =>
    have := length_le_of_codePoint h
    simp only [List.length_cons]
    omega
  case h_10 => cases h
  all_goals
    cases h
    simp

/-- The characters between quotes on one line, behind the opening quote. -/
def quoted : Reader (List Char)
  | [] => none
  | '"' :: cs => some ([], cs)
  | '\\' :: cs =>
    match h : escape? cs with
    | some (c, rest) =>
      have := length_lt_of_escape? h
      (quoted rest).map fun (s, last) => (c :: s, last)
    | none => none
  | c :: cs => if isPlain c then (quoted cs).map fun (s, last) => (c :: s, last) else none
termination_by cs => cs.length

/-- The characters between apostrophes on one line, behind the opening apostrophe. -/
def literal : Reader (List Char)
  | [] => none
  | '\'' :: cs => some ([], cs)
  | c :: cs => if isPlain c then (literal cs).map fun (s, last) => (c :: s, last) else none

/-- The characters between three quotes, behind the opening ones.  Up to two quotes may
stand in front of the closing ones.  A backslash at the end of a line takes the line
break and all blanks and line breaks behind it away. -/
def quotedLines : Reader (List Char)
  | [] => none
  | '"' :: '"' :: '"' :: '"' :: '"' :: cs => some (['"', '"'], cs)
  | '"' :: '"' :: '"' :: '"' :: cs => some (['"'], cs)
  | '"' :: '"' :: '"' :: cs => some ([], cs)
  | '\r' :: '\n' :: cs => (quotedLines cs).map fun (s, last) => ('\n' :: s, last)
  | '\\' :: cs =>
    match newline? (skipBlanks cs) with
    | some _ =>
      have := length_skipSpace_le cs
      quotedLines (skipSpace cs)
    | none =>
      match h : escape? cs with
      | some (c, rest) =>
        have := length_lt_of_escape? h
        (quotedLines rest).map fun (s, last) => (c :: s, last)
      | none => none
  | c :: cs =>
    if isPlain c || c == '\n' then (quotedLines cs).map fun (s, last) => (c :: s, last) else none
termination_by cs => cs.length

/-- The characters between three apostrophes, behind the opening ones.  Up to two
apostrophes may stand in front of the closing ones. -/
def literalLines : Reader (List Char)
  | [] => none
  | '\'' :: '\'' :: '\'' :: '\'' :: '\'' :: cs => some (['\'', '\''], cs)
  | '\'' :: '\'' :: '\'' :: '\'' :: cs => some (['\''], cs)
  | '\'' :: '\'' :: '\'' :: cs => some ([], cs)
  | '\r' :: '\n' :: cs => (literalLines cs).map fun (s, last) => ('\n' :: s, last)
  | c :: cs =>
    if isPlain c || c == '\n' then (literalLines cs).map fun (s, last) => (c :: s, last) else none

/-- Drops a line break at the beginning of a text. -/
def dropNewline (cs : List Char) : List Char := (newline? cs).getD cs

/-- Reads a text of any form. -/
def text : Reader String := fun cs =>
  let found :=
    match cs with
    | '"' :: '"' :: '"' :: cs => quotedLines (dropNewline cs)
    | '"' :: cs => quoted cs
    | '\'' :: '\'' :: '\'' :: cs => literalLines (dropNewline cs)
    | '\'' :: cs => literal cs
    | _ => none
  found.map fun (s, rest) => (String.ofList s, rest)

/-! ## Keys -/

/-- A character of a bare word. -/
def isBare (c : Char) : Bool := c.isAlphanum || c == '_' || c == '-'

/-- Reads one name of a key. -/
def name : Reader String := fun cs =>
  match cs with
  | '"' :: cs => (quoted cs).map fun (s, rest) => (String.ofList s, rest)
  | '\'' :: cs => (literal cs).map fun (s, rest) => (String.ofList s, rest)
  | cs =>
    let (s, rest) := cs.span isBare
    if s.isEmpty then none else some (String.ofList s, rest)

/-- Reads one name of a key with the blanks around it. -/
def spacedName : Reader String := fun cs =>
  (name (skipBlanks cs)).map fun (s, rest) => (s, skipBlanks rest)

/-- How many names a key has at most, and how deeply values are nested at most. -/
def maxDepth : Nat := 79

/-- Reads the names of a key. -/
def key : Reader (List String) := fun cs =>
  match spacedName cs with
  | none => none
  | some (first, rest) =>
    let (more, rest) := many (fun
      | '.' :: cs => spacedName cs
      | _ => none) rest
    if more.length < maxDepth then some (first :: more, rest) else none

end ParamSql.Document.Toml
