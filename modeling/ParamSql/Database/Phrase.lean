import ParamSql.Database.Refusal
import ParamSql.Sql.Statement
import ParamSql.Sql.Token

/-!
# Reading statements

A database reads a statement off its tokens.  It knows the twelve kinds of statements, with
conditions that compare columns with placeholders.  Expressions are taken as they are written.
A statement that it cannot read is refused at the token where it does not go on.

## Main definitions

* `Phrase`: reads something off the tokens of a statement
* `Phrase.condition`, `Phrase.selectStatement`, `Phrase.columnDef`, …: the parts of statements
* `Statement.ofTokens`: a statement
-/

namespace ParamSql

/-- Reads something off the tokens of a statement. -/
abbrev Phrase := StateT (List Sql.Token) (Except Refusal)

namespace Phrase

open Sql (Token)

/-! ## Tokens -/

/-- Refuses the statement at the next token. -/
def refuse {α : Type} : Phrase α := do
  match ← get with
  | t :: _ => throw (.malformed t.text)
  | [] => throw .incomplete

/-- Whether the next token is such a token. -/
def sees (p : Token → Bool) : Phrase Bool := return ((← get).head?.map p).getD false

/-- Takes the next token if it is such a token, and tells whether it is. -/
def accept (p : Token → Bool) : Phrase Bool := do
  if ← sees p then
    modify (·.drop 1)
    return true
  else return false

/-- Takes the next token, which must be such a token. -/
def expect (p : Token → Bool) : Phrase Unit := do
  if !(← accept p) then refuse

/-- Takes the next token, whatever it is. -/
def next : Phrase Token := do
  match ← get with
  | t :: ts =>
    set ts
    return t
  | [] => refuse

/-- Takes a mark. -/
def mark (m : String) : Phrase Unit := expect (·.isMark m)

/-- Takes keywords. -/
def keywords (ws : List String) : Phrase Unit := ws.forM fun w => expect (·.isWord w)

/-- Takes keywords if the first of them is there, and tells whether it is. -/
def acceptKeywords : List String → Phrase Bool
  | [] => return false
  | w :: ws => do
    if ← accept (·.isWord w) then
      keywords ws
      return true
    else return false

/-! ## Expressions -/

/-- The tokens up to the first such token outside of parentheses, and those from there on. -/
def spanOutside (p : Token → Bool) : Nat → List Token → List Token × List Token
  | _, [] => ([], [])
  | depth, t :: ts =>
    if depth = 0 && (p t || t.isMark ")") then ([], t :: ts)
    else
      let depth :=
        if t.isMark "(" then depth + 1 else if t.isMark ")" then depth - 1 else depth
      let (taken, rest) := spanOutside p depth ts
      (t :: taken, rest)

/-- Takes the tokens up to the first such token outside of parentheses. -/
def tokensUpTo (p : Token → Bool) : Phrase (List Token) := do
  let (taken, rest) := spanOutside p 0 (← get)
  set rest
  return taken

/-- Whether tokens are names with points between them. -/
def isDotted : List Token → Bool
  | [t] => t.isName
  | t :: point :: ts => t.isName && point.isMark "." && isDotted ts
  | [] => false

/-- An expression as it is written, or the name that it is, without quotes. -/
def expression (ts : List Token) : String :=
  if isDotted ts then String.join (ts.map (·.name)) else Sql.source ts

/-- Takes an expression up to such a token. -/
def expressionUpTo (p : Token → Bool) : Phrase String := do
  match ← tokensUpTo p with
  | [] => refuse
  | ts => return expression ts

/-- A name, alone or behind the name of its table. -/
def qualifiedName : List Token → Option String × String
  | [table, point, column] =>
    if table.isName && point.isMark "." && column.isName then (some table.name, column.name)
    else (none, expression [table, point, column])
  | ts => (none, expression ts)

/-- Things with commas between them, at most `n`. -/
def listOf {α : Type} (item : Phrase α) : Nat → Phrase (List α)
  | 0 => refuse
  | n + 1 => do
    let a ← item
    if ← accept (·.isMark ",") then return a :: (← listOf item n) else return [a]

/-- Things with commas between them. -/
def list {α : Type} (item : Phrase α) : Phrase (List α) := do listOf item (← get).length

/-- Things with commas between them, or nothing in front of such a token. -/
def listBefore {α : Type} (p : Token → Bool) (item : Phrase α) : Phrase (List α) := do
  if ← sees p then return [] else list item

/-- Things between parentheses with commas between them, or nothing there. -/
def enclosed {α : Type} (item : Phrase α) : Phrase (List α) := do
  mark "("
  let items ← listBefore (·.isMark ")") item
  mark ")"
  return items

/-! ## Conditions -/

/-- The comparisons, and two that are written in another way. -/
def comparisons : List (String × Comparison) :=
  [("=", .eq), ("==", .eq), ("!=", .ne), ("<>", .ne), (">", .gt), (">=", .ge), ("<", .lt),
    ("<=", .le)]

/-- The comparison that a token is. -/
def comparison? (t : Token) : Option Comparison :=
  (comparisons.find? fun (m, _) => t.isMark m).map (·.2)

/-- What a function is applied to, if the tokens are nothing but its application. -/
def argument? (function : String) : List Token → Option (List Token)
  | f :: bracket :: ts =>
    if f.isWord function && bracket.isMark "(" then
      match spanOutside (fun _ => false) 0 ts with
      | (inner, [_]) => some inner
      | _ => none
    else none
  | _ => none

/-- Reads a comparison of a column with a placeholder. -/
def leaf : Phrase Leaf := do
  let operand ← tokensUpTo fun t => (comparison? t).isSome
  if operand.isEmpty then refuse
  let op ← next
  mark "?"
  let upper := argument? "UPPER" operand
  let operand := upper.getD operand
  let lower := argument? "LOWER" operand
  let (table, column) := qualifiedName (lower.getD operand)
  return ⟨column, table, (comparison? op).getD .eq, lower.isSome, upper.isSome⟩

/-- Reads conditions, each behind a keyword, at most `n`. -/
def behindKeyword (w : String) (item : Phrase Predicate) : Nat → Phrase (List Predicate)
  | 0 => return []
  | n + 1 => do
    if ← accept (·.isWord w) then
      let p ← item
      return p :: (← behindKeyword w item n)
    else return []

/-- Reads a condition whose parentheses are nested less than `depth` deep: comparisons and
conditions in parentheses, all of them behind `AND` or all of them behind `OR`. -/
def conditionWithin : Nat → Phrase Predicate
  | 0 => refuse
  | depth + 1 => do
    let primary : Phrase Predicate := do
      if ← accept (·.isMark "(") then
        let p ← conditionWithin depth
        mark ")"
        return p
      else return ⟨← leaf, [], []⟩
    let bound := (← get).length
    let first ← primary
    let ands ← behindKeyword "AND" primary bound
    let ors ← behindKeyword "OR" primary bound
    -- a node begins with a comparison, so a group that already has what follows is not extended
    match first, ands, ors with
    | ⟨l, [], []⟩, ands, [] => return ⟨l, ands, []⟩
    | ⟨l, inner, []⟩, [], ors => return ⟨l, inner, ors⟩
    | p, [], [] => return p
    | _, _, _ => refuse

/-- Reads a condition. -/
def condition : Phrase Predicate := do conditionWithin ((← get).length + 1)

/-- Reads a condition behind `WHERE`, if it is there. -/
def filter : Phrase (Option Predicate) := do
  if ← accept (·.isWord "WHERE") then return some (← condition) else return none

/-! ## Queries -/

/-- The keywords behind the tables of a query. -/
def endsTables (t : Token) : Bool := ["INNER", "WHERE", "ORDER", "LIMIT"].any (t.isWord ·)

/-- Reads the joins of a query, at most `n`. -/
def joins : Nat → Phrase (List InnerJoin)
  | 0 => return []
  | n + 1 => do
    if ← acceptKeywords ["INNER", "JOIN"] then
      let table ← expressionUpTo (·.isWord "ON")
      keywords ["ON"]
      let other ← tokensUpTo (·.isMark "=")
      mark "="
      let this ← expressionUpTo endsTables
      let column := ((other.getLast?).map (·.name)).getD ""
      if expression other != table ++ "." ++ column then refuse
      return ⟨this, table, column⟩ :: (← joins n)
    else return []

/-- Reads a key of an ordering. -/
def orderTerm : Phrase OrderTerm := do
  let ends (t : Token) : Bool :=
    t.isMark "," || ["ASC", "DESC", "LIMIT"].any (t.isWord ·)
  let (table, column) := qualifiedName (← tokensUpTo ends)
  if ← accept (·.isWord "DESC") then return ⟨column, table, false⟩
  else
    let _ ← accept (·.isWord "ASC")
    return ⟨column, table, true⟩

/-- Reads a number behind a keyword, if it is there. -/
def numberBehind (w : String) : Phrase (Option UInt64) := do
  if ← accept (·.isWord w) then
    let t ← next
    match t.text.toNat? with
    | some n => return some (UInt64.ofNat n)
    | none => throw (.malformed t.text)
  else return none

/-- Reads an entry of a select list.  Its label stands behind `AS`. -/
def selectColumn : Phrase SelectColumn := do
  let ts ← tokensUpTo fun t => t.isMark "," || t.isWord "FROM"
  match ts.reverse with
  | [] => refuse
  | label :: word :: expr =>
    if word.isWord "AS" then return .raw (expression expr.reverse ++ " AS " ++ label.name)
    else return .raw (expression ts)
  | _ => return .raw (expression ts)

/-- Reads a query behind `SELECT`: its table, its columns and its clauses. -/
def query : Phrase (String × List SelectColumn × SelectOptions) := do
  let distinct ← accept (·.isWord "DISTINCT")
  let columns ← listBefore (·.isWord "FROM") selectColumn
  keywords ["FROM"]
  let table ← expressionUpTo endsTables
  let innerJoins ← joins (← get).length
  let filter ← filter
  let orderBy ← if ← acceptKeywords ["ORDER", "BY"] then list orderTerm else pure []
  let limit ← numberBehind "LIMIT"
  let offset ← numberBehind "OFFSET"
  return (table, columns, { innerJoins, filter, orderBy, distinct, limit, offset })

/-- Reads a probe behind `SELECT EXISTS`. -/
def probe : Phrase Statement := do
  mark "("
  keywords ["SELECT"]
  expect (·.text == "1")
  keywords ["FROM"]
  let table ← expressionUpTo (·.isWord "WHERE")
  let filter ← filter
  mark ")"
  keywords ["AS"]
  expect (·.text == Sql.probeColumn)
  return .exists table filter

def selectStatement : Phrase Statement := do
  if ← accept (·.isWord "EXISTS") then probe
  else
    let (table, columns, options) ← query
    return .select table columns options

/-! ## Rows -/

def insertStatement : Phrase Statement := do
  keywords ["INTO"]
  let table ← expressionUpTo (·.isMark "(")
  let columns ← enclosed (expressionUpTo (·.isMark ","))
  keywords ["VALUES"]
  let marks ← enclosed (mark "?")
  if marks.length = columns.length then return .insert table columns else refuse

/-- Reads an assignment: a placeholder, or the column with a placeholder behind a sign. -/
def assignment : Phrase Assignment := do
  let column ← expressionUpTo (·.isMark "=")
  mark "="
  if ← accept (·.isMark "?") then return .set column
  else
    let own ← expressionUpTo fun t => t.isMark "+" || t.isMark "-"
    if own != column then refuse
    let change := if ← accept (·.isMark "+") then Adjustment.add else .sub
    if change = .sub then mark "-"
    mark "?"
    return .adjust column (some change)

def updateStatement : Phrase Statement := do
  let table ← expressionUpTo (·.isWord "SET")
  keywords ["SET"]
  let columns ← listBefore (·.isWord "WHERE") assignment
  keywords ["WHERE"]
  return .update table columns (some (← condition))

def deleteStatement : Phrase Statement := do
  keywords ["FROM"]
  let table ← expressionUpTo (·.isWord "WHERE")
  keywords ["WHERE"]
  return .delete table (some (← condition))

/-! ## Tables -/

/-- Reads what a column refers to, behind `REFERENCES`. -/
def foreignKey : Phrase ForeignKey := do
  let table ← expressionUpTo (·.isMark "(")
  mark "("
  let column ← expressionUpTo fun _ => false
  mark ")"
  let options ← tokensUpTo (·.isMark ",")
  return ⟨table, column, if options.isEmpty then [] else [Sql.source options]⟩

/-- Reads what a column refers to, if it refers to something. -/
def reference : Phrase (Option ForeignKey) := do
  if ← accept (·.isWord "REFERENCES") then return some (← foreignKey) else return none

/-- Reads a default, if there is one. -/
def default : Phrase (Option DefaultValue) := do
  if ← accept (·.isWord "DEFAULT") then
    match ← tokensUpTo fun t => t.isMark "," || t.isWord "REFERENCES" with
    | [] => refuse
    | ts => return some (.expr (Sql.source ts))
  else return none

/-- Reads the definition of a column. -/
def columnDef : Phrase ColumnDef := do
  let name := (← next).name
  let typeWord ← next
  match ColumnType.ofWord? typeWord.text with
  | none => throw (.malformed typeWord.text)
  | some type =>
    let unique ← accept (·.isWord "UNIQUE")
    let notNull ← acceptKeywords ["NOT", "NULL"]
    let default ← default
    let foreign ← reference
    return ⟨name, type, { default, notNull, unique }, foreign⟩

/-- An element of the body of a table. -/
inductive Element where
  | column (c : ColumnDef)
  | key (names : List String)
  | foreign (name : String) (f : ForeignKey)

/-- Reads an element of the body of a table. -/
def element : Phrase Element := do
  let names : Phrase (List String) := enclosed (expressionUpTo (·.isMark ","))
  if ← acceptKeywords ["PRIMARY", "KEY"] then return .key (← names)
  else if ← acceptKeywords ["FOREIGN", "KEY"] then
    let columns ← names
    keywords ["REFERENCES"]
    return .foreign (columns.headD "") (← foreignKey)
  else return .column (← columnDef)

/-- A column with what other elements say of it. -/
def Element.completed (elements : List Element) (c : ColumnDef) : ColumnDef :=
  let isKey (e : Element) : Bool := match e with
    | .key names => names.contains c.name
    | _ => false
  let foreign? (e : Element) : Option ForeignKey := match e with
    | .foreign name f => if name = c.name then some f else none
    | _ => none
  { c with
    options := { c.options with primaryKey := elements.any isKey }
    foreign := (elements.findSome? foreign?).or c.foreign }

/-- The columns of the body of a table. -/
def Element.columns (elements : List Element) : List ColumnDef :=
  elements.filterMap fun
    | .column c => some (completed elements c)
    | _ => none

def createTable : Phrase Statement := do
  let flag ← acceptKeywords ["IF", "NOT", "EXISTS"]
  let table ← expressionUpTo (·.isMark "(")
  return .createTable table (Element.columns (← enclosed element)) flag

def alterTable : Phrase Statement := do
  let table ← expressionUpTo fun t => ["ADD", "DROP", "RENAME"].any (t.isWord ·)
  let name : Phrase String := expressionUpTo fun _ => false
  if ← acceptKeywords ["ADD", "COLUMN"] then
    match Alteration.addColumn? (← columnDef) with
    | .ok a => return .alterTable table a
    | .error _ => throw (.malformed "UNIQUE")
  else if ← acceptKeywords ["DROP", "COLUMN"] then return .alterTable table (.dropColumn (← name))
  else
    keywords ["RENAME"]
    if ← accept (·.isWord "TO") then return .alterTable table (.renameTable (← name))
    else
      keywords ["COLUMN"]
      let source ← expressionUpTo (·.isWord "TO")
      keywords ["TO"]
      return .alterTable table (.renameColumn source (← name))

/-! ## Views and indexes -/

def createView : Phrase Statement := do
  let flag ← acceptKeywords ["IF", "NOT", "EXISTS"]
  let view ← expressionUpTo (·.isWord "AS")
  keywords ["AS", "SELECT"]
  let (table, columns, options) ← query
  return .createView view table columns options flag

/-- Reads a column of an index.  Its direction does not matter. -/
def indexedColumn : Phrase String := do
  let column ← expressionUpTo fun t => t.isMark "," || ["ASC", "DESC"].any (t.isWord ·)
  if !(← accept (·.isWord "ASC")) then
    let _ ← accept (·.isWord "DESC")
  return column

def createIndex : Phrase Statement := do
  let flag ← acceptKeywords ["IF", "NOT", "EXISTS"]
  let index ← expressionUpTo (·.isWord "ON")
  keywords ["ON"]
  let table ← expressionUpTo (·.isMark "(")
  let columns ← enclosed indexedColumn
  return .createIndex index table columns flag (← filter)

def create : Phrase Statement := do
  if ← accept (·.isWord "TABLE") then createTable
  else if ← accept (·.isWord "VIEW") then createView
  else
    keywords ["INDEX"]
    createIndex

def drop : Phrase Statement := do
  let kind ← next
  let flag ← acceptKeywords ["IF", "EXISTS"]
  let name ← expressionUpTo fun _ => false
  if kind.isWord "TABLE" then return .dropTable name flag
  else if kind.isWord "VIEW" then return .dropView name flag
  else if kind.isWord "INDEX" then return .dropIndex name flag
  else throw (.malformed kind.text)

/-- Reads a statement. -/
def statement : Phrase Statement := do
  if ← accept (·.isWord "SELECT") then selectStatement
  else if ← accept (·.isWord "INSERT") then insertStatement
  else if ← accept (·.isWord "UPDATE") then updateStatement
  else if ← accept (·.isWord "DELETE") then deleteStatement
  else if ← accept (·.isWord "CREATE") then create
  else if ← acceptKeywords ["ALTER", "TABLE"] then alterTable
  else if ← accept (·.isWord "DROP") then drop
  else refuse

end Phrase

/-- The statement that tokens are. -/
def Statement.ofTokens (ts : List Sql.Token) : Except Refusal Statement :=
  match Phrase.statement ts with
  | .ok (s, []) => .ok s
  | .ok (_, t :: _) => .error (.malformed t.text)
  | .error r => .error r

end ParamSql
