import ParamSql.Decimal.Layout
import ParamSql.Document.Hexadecimal
import ParamSql.Document.Node

/-!
# Writing JSON

A document tree is written on one line, or indented with a line for every item.

## Main definitions

* `Json.quoted`: a text between quotes
* `Json.compact`, `Json.indented`
-/

namespace ParamSql.Document.Json

/-- A character as it stands between quotes. -/
def escaped (c : Char) : List Char :=
  if c = '"' then ['\\', '"']
  else if c = '\\' then ['\\', '\\']
  else if c = '\n' then ['\\', 'n']
  else if c = '\r' then ['\\', 'r']
  else if c = '\t' then ['\\', 't']
  else if c = '\x08' then ['\\', 'b']
  else if c = '\x0c' then ['\\', 'f']
  else if c.toNat < 0x20 then
    ['\\', 'u', '0', '0', hexDigit (c.toNat / 16), hexDigit (c.toNat % 16)]
  else [c]

/-- A text between quotes. -/
def quoted (s : String) : String :=
  String.ofList ('"' :: s.toList.flatMap escaped ++ ['"'])

/-- A float; one that is no number is `null`. -/
def float (x : Float) : String := if x.isFinite then Decimal.json.text x else "null"

mutual

/-- A tree on one line, without blanks. -/
def compact : Node → String
  | .null => "null"
  | .bool b => if b then "true" else "false"
  | .int n => toString n
  | .real x => float x
  | .text s => quoted s
  | .list items => "[" ++ String.intercalate "," (compactItems items) ++ "]"
  | .record members => "\x7b" ++ String.intercalate "," (compactMembers members) ++ "\x7d"
  | .marred n => compact n
  | .unlabelled n => compact n
  | .broken => "null"

def compactItems : List Node → List String
  | [] => []
  | n :: ns => compact n :: compactItems ns

def compactMembers : List (String × Node) → List String
  | [] => []
  | (k, n) :: ms => (quoted k ++ ":" ++ compact n) :: compactMembers ms

end

/-- The blanks in front of a line, two for each level. -/
def margin (level : Nat) : String := String.ofList (List.replicate (2 * level) ' ')

/-- Lines between an opening and a closing mark, each behind its margin; on one line when there
are none. -/
def bracketed (level : Nat) (opening closing : String) (lines : List String) : String :=
  if lines.isEmpty then opening ++ closing
  else
    opening ++ "\n" ++
      String.intercalate ",\n" (lines.map (margin (level + 1) ++ ·)) ++ "\n" ++
      margin level ++ closing

mutual

/-- A tree with a line for every item and member, at a level of nesting. -/
def indentedAt : Nat → Node → String
  | level, .list items => bracketed level "[" "]" (indentedItems (level + 1) items)
  | level, .record members =>
    bracketed level "\x7b" "\x7d" (indentedMembers (level + 1) members)
  | level, .marred n => indentedAt level n
  | level, .unlabelled n => indentedAt level n
  | _, .null => "null"
  | _, .bool b => if b then "true" else "false"
  | _, .int n => toString n
  | _, .real x => float x
  | _, .text s => quoted s
  | _, .broken => "null"

def indentedItems : Nat → List Node → List String
  | _, [] => []
  | level, n :: ns => indentedAt level n :: indentedItems level ns

def indentedMembers : Nat → List (String × Node) → List String
  | _, [] => []
  | level, (k, n) :: ms =>
    (quoted k ++ ": " ++ indentedAt level n) :: indentedMembers level ms

end

/-- A tree with a line for every item and member. -/
def indented (n : Node) : String := indentedAt 0 n

end ParamSql.Document.Json
