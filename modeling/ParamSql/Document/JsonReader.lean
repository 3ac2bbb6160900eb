import ParamSql.Decimal.Numeral
import ParamSql.Document.Decoder
import ParamSql.Document.Hexadecimal

/-!
# Reading JSON

A JSON text is read into a document tree.  A text that is not well formed yields
the tree up to the point where it breaks off.

Numbers are integers when 64 bits hold them, with or without a sign, and floats
otherwise; the float of a long number is computed from its first digits.  Containers
are nested at most 127 deep.

## Main definitions

* `Json.value`: reads one value off the front of a text
* `Json.read`: reads a whole text
* `Json.decode`: reads and decodes a whole text
-/

namespace ParamSql.Document.Json

/-- What a reader yields: a node, and the text behind it unless the text broke off. -/
abbrev Reading := Node × Option (List Char)

/-- The reading of a text that breaks off here. -/
def brokenOff : Reading := (.broken, none)

def isBlank (c : Char) : Bool := c == ' ' || c == '\n' || c == '\t' || c == '\r'

def skipBlanks (cs : List Char) : List Char := cs.dropWhile isBlank

/-! ## Texts -/

/-- The value of four hexadecimal digits. -/
def hex4? (a b c d : Char) : Option Nat := hexNumber? [a, b, c, d]

/-- The character that a letter behind a backslash stands for. -/
def shortEscape? : Char → Option Char
  | '"' => some '"'
  | '\\' => some '\\'
  | '/' => some '/'
  | 'b' => some '\x08'
  | 'f' => some '\x0c'
  | 'n' => some '\n'
  | 'r' => some '\r'
  | 't' => some '\t'
  | _ => none

/-- The characters of a text behind its opening quote, with the text behind the closing
one.  Nothing when the text is not well formed; no characters when it is, but holds half a
surrogate pair. -/
def textTail : List Char → Option (Option (List Char) × List Char)
  | [] => none
  | '"' :: rest => some (some [], rest)
  | '\\' :: 'u' :: a :: b :: c :: d :: '\\' :: 'u' :: e :: f :: g :: h :: rest =>
    match hex4? a b c d, hex4? e f g h with
    | some n, some m =>
      if 0xD800 ≤ n ∧ n < 0xDC00 ∧ 0xDC00 ≤ m ∧ m < 0xE000 then
        (textTail rest).map fun (cs, last) =>
          (cs.map (Char.ofNat (0x10000 + (n - 0xD800) * 0x400 + (m - 0xDC00)) :: ·), last)
      else
        (textTail ('\\' :: 'u' :: e :: f :: g :: h :: rest)).map fun (cs, last) =>
          (if 0xD800 ≤ n ∧ n < 0xE000 then none else cs.map (Char.ofNat n :: ·), last)
    | _, _ => none
  | '\\' :: 'u' :: a :: b :: c :: d :: rest =>
    match hex4? a b c d with
    | some n =>
      (textTail rest).map fun (cs, last) =>
        (if 0xD800 ≤ n ∧ n < 0xE000 then none else cs.map (Char.ofNat n :: ·), last)
    | none => none
  | '\\' :: e :: rest =>
    match shortEscape? e with
    | some c => (textTail rest).map fun (cs, last) => (cs.map (c :: ·), last)
    | none => none
  | c :: rest =>
    if c.toNat < 0x20 || c == '\\' then none
    else (textTail rest).map fun (cs, last) => (cs.map (c :: ·), last)

/-- Reads a text behind its opening quote. -/
def text (cs : List Char) : Reading :=
  match textTail cs with
  | none => brokenOff
  | some (some s, rest) => (.text (String.ofList s), some rest)
  | some (none, rest) => (.marred .null, some rest)

/-! ## Numbers -/

/-- The largest number of 64 bits. -/
def maxSignificand : Nat := Decimal.twoTo 64 - 1

/-- Appends digits to a significand as long as 64 bits hold it; the digits that are left over
are returned with it. -/
def appendDigits : Nat → List Char → Nat × List Char
  | n, [] => (n, [])
  | n, d :: ds =>
    let m := n * 10 + Decimal.digitValue d
    if m ≤ maxSignificand then appendDigits m ds else (n, d :: ds)

/-- The parts of a number as written. -/
structure Numeral where
  negative : Bool
  whole : List Char
  fraction : Option (List Char)
  /-- whether the exponent is negative, and its digits -/
  exponent : Option (Bool × List Char)

/-- The float of a number, from the first digits of it and the scale that they are read at;
`none` when it is beyond every float. -/
def Numeral.float? (n : Numeral) (significand : Nat) (scale : Int) : Option Float :=
  match n.exponent with
  | none => Decimal.stepwise n.negative (UInt64.ofNat significand) scale
  | some (down, ds) =>
    let e := Decimal.ofDigits ds
    if e < Decimal.twoTo 31 then
      Decimal.stepwise n.negative (UInt64.ofNat significand)
        (if down then scale - e else scale + e)
    else if significand != 0 && !down then none
    else some (if n.negative then -0.0 else 0.0)

/-- The value of a number: an integer if it is written as one and 64 bits hold it. -/
def Numeral.node (n : Numeral) : Node :=
  let (significand, dropped) := appendDigits 0 n.whole
  if n.fraction.isNone && n.exponent.isNone && dropped.isEmpty &&
      (!n.negative || (significand != 0 && significand ≤ Decimal.twoTo 63)) then
    .int (if n.negative then -(significand : Int) else significand)
  else
    let (significand, scale) : Nat × Int :=
      match n.fraction with
      | none => (significand, dropped.length)
      | some ds =>
        let (m, left) := appendDigits significand ds
        (m, (dropped.length : Int) - (ds.length - left.length : Nat))
    match n.float? significand scale with
    | some x => .real x
    | none => .marred .null

/-- Splits off the leading digits. -/
def digits (cs : List Char) : List Char × List Char :=
  (cs.takeWhile Char.isDigit, cs.dropWhile Char.isDigit)

/-- Reads the exponent of a number, if there is one; nothing when it has no digits. -/
def exponent? (cs : List Char) : Option (Option (Bool × List Char) × List Char) :=
  match cs with
  | e :: rest =>
    if e = 'e' ∨ e = 'E' then
      let (down, rest) :=
        match rest with
        | '-' :: rest => (true, rest)
        | '+' :: rest => (false, rest)
        | rest => (false, rest)
      let (ds, rest) := digits rest
      if ds.isEmpty then none else some (some (down, ds), rest)
    else some (none, cs)
  | [] => some (none, [])

/-- Reads the fraction of a number, if there is one; nothing when it has no digits. -/
def fraction? (cs : List Char) : Option (Option (List Char) × List Char) :=
  match cs with
  | '.' :: rest =>
    let (ds, rest) := digits rest
    if ds.isEmpty then none else some (some ds, rest)
  | cs => some (none, cs)

/-- Reads a number without its sign.  A leading zero stands alone. -/
def number (negative : Bool) (cs : List Char) : Reading :=
  let (whole, rest) := digits cs
  if whole.isEmpty || (whole.head? == some '0' && whole.length != 1) then brokenOff
  else
    match fraction? rest with
    | none => brokenOff
    | some (fraction, rest) =>
      match exponent? rest with
      | none => brokenOff
      | some (exponent, rest) =>
        ((⟨negative, whole, fraction, exponent⟩ : Numeral).node, some rest)

/-! ## Values -/

/-- Reads a fixed word. -/
def word (w : List Char) (node : Node) (cs : List Char) : Reading :=
  if w.isPrefixOf cs then (node, some (cs.drop w.length)) else brokenOff

/-- How deeply containers may be nested. -/
def maxDepth : Nat := 127

/-- A container, marred when it is nested too deeply. -/
def container (level : Nat) (n : Node) : Node := if level < maxDepth then n else .marred n

/-- A member under its key, or under none when the key is well formed but no text. -/
def member (key : Option (List Char)) (n : Node) : String × Node :=
  match key with
  | some k => (String.ofList k, n)
  | none => ("", .unlabelled n)

mutual

/-- Reads a value with `level` containers around it. -/
def value : Nat → Nat → List Char → Reading
  | 0, _, _ => brokenOff
  | fuel + 1, level, cs =>
    match cs with
    | '[' :: rest =>
      match skipBlanks rest with
      | ']' :: rest => (container level (.list []), some rest)
      | rest =>
        let (ns, last) := items fuel (level + 1) rest
        (container level (.list ns), last)
    | '{' :: rest =>
      match skipBlanks rest with
      | '}' :: rest => (container level (.record []), some rest)
      | rest =>
        let (ms, last) := members fuel (level + 1) rest
        (container level (.record ms), last)
    | '"' :: rest => text rest
    | '-' :: rest => number true rest
    | 'n' :: _ => word "null".toList .null cs
    | 't' :: _ => word "true".toList (.bool true) cs
    | 'f' :: _ => word "false".toList (.bool false) cs
    | cs => number false cs

/-- Reads items up to the closing bracket. -/
def items : Nat → Nat → List Char → List Node × Option (List Char)
  | 0, _, _ => ([.broken], none)
  | fuel + 1, level, cs =>
    match value fuel level cs with
    | (n, none) => ([n], none)
    | (n, some rest) =>
      match skipBlanks rest with
      | ']' :: rest => ([n], some rest)
      | ',' :: rest =>
        match skipBlanks rest with
        | ']' :: _ => ([n, .broken], none)
        | rest =>
          let (ns, last) := items fuel level rest
          (n :: ns, last)
      | _ => ([n, .broken], none)

/-- Reads members up to the closing brace. -/
def members : Nat → Nat → List Char → List (String × Node) × Option (List Char)
  | 0, _, _ => ([("", .broken)], none)
  | fuel + 1, level, cs =>
    match cs with
    | '"' :: rest =>
      match textTail rest with
      | none => ([("", .broken)], none)
      | some (key, rest) =>
        match skipBlanks rest with
        | ':' :: rest =>
          match value fuel level (skipBlanks rest) with
          | (n, none) => ([member key n], none)
          | (n, some rest) =>
            match skipBlanks rest with
            | '}' :: rest => ([member key n], some rest)
            | ',' :: rest =>
              let (ms, last) := members fuel level (skipBlanks rest)
              (member key n :: ms, last)
            | _ => ([member key n, ("", .broken)], none)
        | _ => ([member key .broken], none)
    | _ => ([("", .broken)], none)

end

/-! ## Whole texts -/

/-- Reads a text; also whether nothing but blanks follows the value.  A value takes at most
two steps for each of its characters. -/
def read (s : String) : Node × Bool :=
  let cs := s.toList
  match value (2 * cs.length + 2) 0 (skipBlanks cs) with
  | (n, some rest) => (n, (skipBlanks rest).isEmpty)
  | (n, none) => (n, false)

/-- Decodes a text.  What follows the value is looked at last. -/
def decode {α : Type} (d : Decoder α) (s : String) : Except DecodeError α :=
  let (n, complete) := read s
  match d .stream n with
  | .error e => .error e
  | .ok a => if complete then .ok a else .error .malformed

end ParamSql.Document.Json
