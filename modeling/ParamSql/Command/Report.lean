import ParamSql.Command.Allotment
import ParamSql.Command.Grid
import ParamSql.Command.Invocation
import ParamSql.Executor

/-!
# Reports

What a command writes, line by line, and the error that it ends with, if it does.  A failed
step ends a report; what was written before stays.

## Main definitions

* `Report`, `Report.andThen`
* `Report.ofShares`: statements, run in order with their values
* `Report.ofAllotment`, `Report.ofAllotmentShown`: a whole file, run or only shown
-/

namespace ParamSql

/-- The lines that a command writes, and the error that it ends with. -/
structure Report where
  lines : List String := []
  error : Option String := none
deriving Repr, DecidableEq, Inhabited

/-- An error with its cause. -/
def QueryError.withCause (e : QueryError) : String :=
  match e with
  | .io detail => e.message ++ ": " ++ detail
  | _ => e.message

namespace Report

/-- A report of lines alone. -/
def ofLines (lines : List String) : Report := ⟨lines, none⟩

/-- A report of an error alone. -/
def ofError (message : String) : Report := ⟨[], some message⟩

/-- Goes on with a second report unless the first one ended with an error. -/
def andThen (r s : Report) : Report :=
  if r.error.isSome then r else ⟨r.lines ++ s.lines, s.error⟩

/-- What is written to the output. -/
def output (r : Report) : String := String.join (r.lines.map (· ++ "\n"))

/-- What is written about the error. -/
def errorOutput? (r : Report) : Option String := r.error.map ("Error: " ++ · ++ "\n")

/-- The exit status. -/
def status (r : Report) : Nat := if r.error.isSome then 1 else 0

/-! ## Statements -/

/-- A statement and its values. -/
def shownShare : Statement × List Value → List String
  | (s, params) =>
    s.sql :: params.zipIdx.map fun (v, i) => "  ?" ++ toString (i + 1) ++ " = " ++ v.shown

/-- What a statement did. -/
def shownOutcome (format : OutputFormat) : Outcome → List String
  | .rows [] => ["(no results)"]
  | .rows rows =>
    match format with
    | .json => [Document.Json.indented (.list (rows.map (·.encode)))]
    | .table => Grid.lines rows ++ ["", toString rows.length ++ " row(s) returned"]
  | .done result => ["✓ " ++ toString result.changes.toNat ++ " row(s) affected"]

/-- A statement that was run: its values and what it did. -/
def ranShare (format : OutputFormat) (share : Statement × List Value) (outcome : Outcome) :
    List String :=
  shownShare share ++ shownOutcome format outcome ++ [""]

variable {m : Type → Type} [Monad m]

/-- Runs statements with their values, one after the other, until one fails. -/
def ofShares (e : Executor m) (format : OutputFormat) :
    List (Statement × List Value) → m Report
  | [] => return {}
  | share :: rest => do
    match ← e.run share.1 share.2 with
    | .error error => return ⟨shownShare share, some error.withCause⟩
    | .ok outcome =>
      return (ofLines (ranShare format share outcome)).andThen (← ofShares e format rest)

/-- The lack of values for a statement. -/
def shortageMessage (s : Statement) (left : Nat) : String :=
  s.sql ++ " expects " ++ toString s.placeholderCount ++ " parameter(s), " ++ toString left ++
    " left"

/-- Values that nothing takes. -/
def unusedLines (n : Nat) : List String :=
  if n = 0 then [] else ["⚠ " ++ toString n ++ " unused binding(s)"]

/-- What is said of the values when all statements that find theirs are run.  The lack of values
is an error. -/
def ofRemainder (a : Allotment) : Report :=
  match a.shortage with
  | some (s, left) => ofError (shortageMessage s left)
  | none => ofLines (unusedLines a.unused)

/-- Runs statements with the values that they take. -/
def ofAllotment (e : Executor m) (format : OutputFormat) (a : Allotment) : m Report := do
  return (← ofShares e format a.shares).andThen (ofRemainder a)

/-- Shows statements with the values that they take. -/
def ofAllotmentShown (a : Allotment) : Report :=
  ofLines (a.shares.flatMap shownShare ++ unusedLines a.unused)

end Report

end ParamSql
