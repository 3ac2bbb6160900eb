import Mathlib.Data.List.Forall2
import ParamSql.Connection

/-!
# What comes of a call

A connection changes a state and replies.  Its executor hands the reply on: a failure as the error
that it means, and rows of cells as rows.  So each use of the executor is one use of the
connection, and texts that are executed one after the other see each other's effects.

## Main results

* `Connection.run_execute`, `Connection.run_fetchFirst`, `Connection.run_fetchAll`: one text
* `Executor.run_change`, `Executor.run_query`, `Executor.run_exists`: a statement and a probe
* `Executor.run_executeAll_cons`, `Executor.exists_of_run_executeAll_cons`: texts one after the
  other
* `Connection.run_change_eq_ok_iff`, `Connection.run_query_eq_ok_iff`,
  `Connection.run_exists_eq_ok_iff`: what a use of the executor says of the connection
-/

namespace ParamSql

variable {σ : Type}

/-- What comes of two actions, one after the other. -/
theorem run_bind {α β : Type} (x : StateM σ α) (f : α → StateM σ β) (state : σ) :
    (x >>= f).run state = (f (x.run state).1).run (x.run state).2 := rfl

/-- What comes of an action whose result is changed. -/
theorem run_map {α β : Type} (x : StateM σ α) (f : α → β) (state : σ) :
    (f <$> x).run state = (f (x.run state).1, (x.run state).2) := rfl

/-- A reply, with what it leaves. -/
theorem eq_of_fst {α : Type} {reply : α × σ} {a : α} (h : reply.1 = a) : reply = (a, reply.2) :=
  Prod.ext h rfl

/-- The result of what was done, if it was done and yields no rows. -/
def Outcome.done? : Except QueryError Outcome → Option RunResult
  | .ok (.done result) => some result
  | _ => none

theorem Outcome.eq_of_done? {reply : Except QueryError Outcome × σ} {result : RunResult}
    (h : done? reply.1 = some result) : reply = (.ok (.done result), reply.2) := by
  match reply with
  | (.ok (.done _), new) =>
    obtain rfl := Option.some.inj h
    rfl
  | (.ok (.rows _), new) => cases h
  | (.error _, new) => cases h

/-- The rows of what was done, if it yields rows. -/
def Outcome.found? : Except QueryError Outcome → Option (List Row)
  | .ok (.rows found) => some found
  | _ => none

/-- What is known of the rows of what was done. -/
theorem Outcome.exists_of_found? {α : Type} (reply : Except QueryError Outcome × σ)
    (f : List Row → α) (a : α) (h : (found? reply.1).map f = some a) :
    ∃ found, reply = (.ok (.rows found), reply.2) ∧ f found = a := by
  match reply with
  | (.ok (.rows found), new) => exact ⟨found, rfl, Option.some.inj h⟩
  | (.ok (.done _), new) => cases h
  | (.error _, new) => cases h

/-- The texts of a row, with their names. -/
def Row.texts (r : Row) : List (String × String) :=
  r.members.filterMap fun (name, value) =>
    match value with
    | .text s => some (name, s)
    | _ => none

namespace Connection

variable (c : Connection (StateM σ)) (sql : String) (params : List Value) (state : σ)

theorem run_execute : (c.executor.execute sql params).run state =
    (((c.execute sql params).run state).1.mapError (·.toQueryError),
      ((c.execute sql params).run state).2) := rfl

theorem run_fetchFirst : (c.executor.fetchFirst sql params).run state =
    ((((c.fetchFirst sql params).run state).1.bind readRow).mapError (·.toQueryError),
      ((c.fetchFirst sql params).run state).2) := rfl

theorem run_fetchAll : (c.executor.fetchAll sql params).run state =
    ((((c.fetchAll sql params).run state).1.bind (·.mapM Row.ofCells)).mapError (·.toQueryError),
      ((c.fetchAll sql params).run state).2) := rfl

end Connection

namespace Executor

variable (e : Executor (StateM σ)) (state : σ)

theorem run_query {s : Statement} (h : s.isQuery = true) (params : List Value) :
    (e.run s params).run state =
      (((e.fetchAll s.sql params).run state).1.map .rows,
        ((e.fetchAll s.sql params).run state).2) := by
  rw [run, if_pos h]
  rfl

theorem run_change {s : Statement} (h : s.isQuery = false) (params : List Value) :
    (e.run s params).run state =
      (((e.execute s.sql params).run state).1.map .done,
        ((e.execute s.sql params).run state).2) := by
  rw [run, h, if_neg Bool.false_ne_true]
  rfl

theorem run_exists (sql : String) (params : List Value) :
    (e.exists sql params).run state =
      (((e.fetchFirst sql params).run state).1.map fun row => (row.map (·.saysExists)).getD false,
        ((e.fetchFirst sql params).run state).2) := rfl

/-- The texts behind the first one are executed on what it leaves, unless it fails. -/
theorem run_executeAll_cons (sql : String) (rest : List String) :
    (e.executeAll (sql :: rest)).run state =
      match (e.execute sql []).run state with
      | (.ok _, new) => (e.executeAll rest).run new
      | (.error error, new) => (.error error, new) := by
  rw [executeAll, run_bind]
  cases (e.execute sql []).run state with
  | mk result new => cases result <;> rfl

/-- Texts succeed if the first one does and then the others do. -/
theorem exists_of_run_executeAll_cons {e : Executor (StateM σ)} {sql : String}
    {rest : List String} {state last : σ}
    (h : (e.executeAll (sql :: rest)).run state = (.ok (), last)) :
    ∃ result new, (e.execute sql []).run state = (.ok result, new) ∧
      (e.executeAll rest).run new = (.ok (), last) := by
  rw [run_executeAll_cons] at h
  cases hfirst : (e.execute sql []).run state with
  | mk reply new =>
    rw [hfirst] at h
    cases reply with
    | ok result => exact ⟨result, new, rfl, h⟩
    | error error => cases h

theorem eq_of_isOk {reply : Except QueryError Unit × σ} (h : reply.1.isOk = true) :
    reply = (.ok (), reply.2) := by
  match reply with
  | (.ok (), new) => rfl
  | (.error _, new) => cases h

end Executor

/-! ## What has succeeded -/

/-- A list whose members have all been read has been read member by member. -/
theorem forall₂_of_mapM_eq_ok {α β ε : Type} {f : α → Except ε β} {as : List α} {bs : List β}
    (h : as.mapM f = .ok bs) : List.Forall₂ (fun a b => f a = .ok b) as bs := by
  induction as generalizing bs with
  | nil =>
    cases h
    exact .nil
  | cons a as ih =>
    rw [List.mapM_cons] at h
    cases ha : f a with
    | error e =>
      rw [ha] at h
      cases h
    | ok b =>
      cases has : as.mapM f with
      | error e =>
        rw [ha, has] at h
        cases h
      | ok rest =>
        rw [ha, has] at h
        cases h
        exact .cons ha (ih has)

namespace Connection

variable {c : Connection (StateM σ)} {s : Statement} {sql : String} {params : List Value}
  {state new : σ}

theorem run_execute_eq_ok_iff {result : RunResult} :
    (c.executor.execute sql params).run state = (.ok result, new) ↔
      (c.execute sql params).run state = (.ok result, new) := by
  rw [run_execute]
  cases (c.execute sql params).run state with
  | mk reply last =>
    cases reply with
    | error failure => exact iff_of_false (fun h => nomatch h) (fun h => nomatch h)
    | ok done =>
      constructor <;>
      · intro h
        cases h
        rfl

/-- A statement without rows has done what its text has done. -/
theorem run_change_eq_ok_iff (hs : s.isQuery = false) {result : RunResult} :
    (c.executor.run s params).run state = (.ok (.done result), new) ↔
      (c.execute s.sql params).run state = (.ok result, new) := by
  rw [Executor.run_change _ _ hs, ← run_execute_eq_ok_iff]
  cases (c.executor.execute s.sql params).run state with
  | mk reply last =>
    cases reply with
    | error failure => exact iff_of_false (fun h => nomatch h) (fun h => nomatch h)
    | ok done =>
      constructor <;>
      · intro h
        cases h
        rfl

/-- A statement with rows yields the rows that are read off its cells. -/
theorem run_query_eq_ok_iff (hs : s.isQuery = true) {rows : List Row} :
    (c.executor.run s params).run state = (.ok (.rows rows), new) ↔
      ∃ found, (c.fetchAll s.sql params).run state = (.ok found, new) ∧
        found.mapM Row.ofCells = .ok rows := by
  rw [Executor.run_query _ _ hs, run_fetchAll]
  cases (c.fetchAll s.sql params).run state with
  | mk reply last =>
    cases reply with
    | error failure => exact iff_of_false (fun h => nomatch h) (fun ⟨_, h, _⟩ => nomatch h)
    | ok found =>
      constructor
      · intro h
        cases hrows : found.mapM Row.ofCells with
        | error failure =>
          simp only [Except.bind, hrows] at h
          cases h
        | ok read =>
          simp only [Except.bind, hrows] at h
          cases h
          exact ⟨found, rfl, hrows⟩
      · rintro ⟨found, h, hrows⟩
        cases h
        simp only [Except.bind, hrows]
        rfl

/-- A probe says what is read off its first row. -/
theorem run_exists_eq_ok_iff {found : Bool} :
    (c.executor.exists sql params).run state = (.ok found, new) ↔
      ∃ first row, (c.fetchFirst sql params).run state = (.ok first, new) ∧
        readRow first = .ok row ∧ (row.map (·.saysExists)).getD false = found := by
  rw [Executor.run_exists, run_fetchFirst]
  cases (c.fetchFirst sql params).run state with
  | mk reply last =>
    cases reply with
    | error failure => exact iff_of_false (fun h => nomatch h) (fun ⟨_, _, h, _⟩ => nomatch h)
    | ok first =>
      constructor
      · intro h
        cases hrow : readRow first with
        | error failure =>
          simp only [Except.bind, hrow] at h
          cases h
        | ok row =>
          simp only [Except.bind, hrow] at h
          cases h
          exact ⟨first, row, rfl, hrow, rfl⟩
      · rintro ⟨first, row, h, hrow, rfl⟩
        cases h
        simp only [Except.bind, hrow]
        rfl

end Connection

end ParamSql
