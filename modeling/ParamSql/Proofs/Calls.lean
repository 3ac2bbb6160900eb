import ParamSql.Executor
import ParamSql.Proofs.Document.Roundtrip

/-!
# What an executor is asked

An executor has three ways to run a text.  A described statement and a probe are run on top of
them by a single call each, with the text that was written and the values as they were given, and
what the call replies is handed on: rows, a result, an error, or the answer that the row of a
probe holds.  The equations hold in every monad, so nothing is supposed of where an executor has
its replies from, and the log of the calls shows that there is no other one.

## Main results

* `Row.saysExists_iff`: which rows say that there is a match
* `Executor.run_of_isQuery`, `Executor.run_of_not_isQuery`, `Executor.exists_eq`: what is run on top
  of the calls, in terms of the one call
* `Executor.asks_once`: one call, handed on unchanged
-/

namespace ParamSql

/-- A row says that there is a match by an integer of 64 bits that is not zero. -/
theorem Row.saysExists_iff {r : Row} :
    r.saysExists = true ↔ ∃ n : Int, r.get? Sql.probeColumn = some (.int n) ∧
      -2 ^ 63 ≤ n ∧ n < 2 ^ 63 ∧ n ≠ 0 := by
  rw [saysExists]
  split
  · next n hn => simp [hn, Decimal.fitsSigned_iff, and_assoc]
  · next hn =>
    refine ⟨nofun, ?_⟩
    rintro ⟨n, hmember, -⟩
    exact absurd hmember (hn n)

namespace Executor

section Replies

variable {m : Type → Type} [Monad m] [LawfulMonad m] {s : Statement}

/-- The answer that the reply to a probe holds: no row says that there is no match. -/
def answer (row : Option Row) : Bool := (row.map (·.saysExists)).getD false

theorem answer_iff {row : Option Row} :
    answer row = true ↔ ∃ r ∈ row, r.saysExists = true := by
  cases row <;> simp [answer]

/-- A statement that yields rows is run for all of them. -/
theorem run_of_isQuery (e : Executor m) (h : s.isQuery = true) (params : List Value) :
    e.run s params = Except.map Outcome.rows <$> e.fetchAll s.sql params := by
  rw [run, if_pos h, map_eq_pure_bind]

/-- A statement that yields no rows is run for its result. -/
theorem run_of_not_isQuery (e : Executor m) (h : s.isQuery = false) (params : List Value) :
    e.run s params = Except.map Outcome.done <$> e.execute s.sql params := by
  rw [run, if_neg (by simp [h]), map_eq_pure_bind]

theorem exists_eq (e : Executor m) (sql : String) (params : List Value) :
    e.exists sql params = Except.map answer <$> e.fetchFirst sql params := by
  rw [«exists», map_eq_pure_bind]
  rfl

/-- The call is noted once, behind those before it, and the reply is the reply to it. -/
theorem run_map_noting {α β : Type} (call : Call) (action : m α) (f : α → β)
    (calls : List Call) :
    (f <$> noting call action).run calls = (fun a => (f a, calls ++ [call])) <$> action := by
  simp [noting]

end Replies

/-- **One call, handed on unchanged.**  For any executor, whatever it replies: a statement is one
call, for all rows if it is a query and for its result otherwise, with its text and the values;
the rows, the result or the error of the call are those of the statement.  A probe is one call
for the first row; its error is the error of the call, and it finds a match exactly if a row came
back whose `exists_value`, the name that its text gives to the one column, is an integer of 64
bits that is not zero. -/
theorem asks_once {m : Type → Type} [Monad m] [LawfulMonad m] (e : Executor m)
    (params : List Value) (calls : List Call) :
    (∀ s : Statement, s.isQuery = true →
      e.run s params = Except.map Outcome.rows <$> e.fetchAll s.sql params ∧
        (e.logged.run s params).run calls =
          (fun reply => (reply.map Outcome.rows, calls ++ [⟨.fetchAll, s.sql, params⟩])) <$>
            e.fetchAll s.sql params) ∧
    (∀ s : Statement, s.isQuery = false →
      e.run s params = Except.map Outcome.done <$> e.execute s.sql params ∧
        (e.logged.run s params).run calls =
          (fun reply => (reply.map Outcome.done, calls ++ [⟨.execute, s.sql, params⟩])) <$>
            e.execute s.sql params) ∧
    ∀ (table : String) (filter : Option Predicate),
      let sql := Sql.probe table filter
      sql = "SELECT EXISTS(SELECT 1 FROM " ++ table ++ " " ++ Sql.whereOrDefault filter ++
          ") AS " ++ "exists_value" ++ ";" ∧
      ∃ found : Option Row → Bool,
        e.exists sql params = Except.map found <$> e.fetchFirst sql params ∧
        (e.logged.exists sql params).run calls =
          (fun reply => (reply.map found, calls ++ [⟨.fetchFirst, sql, params⟩])) <$>
            e.fetchFirst sql params ∧
        ∀ row, found row = true ↔ ∃ r ∈ row, ∃ n : Int,
          r.get? "exists_value" = some (.int n) ∧ -2 ^ 63 ≤ n ∧ n < 2 ^ 63 ∧ n ≠ 0 := by
  refine ⟨fun s hs => ⟨e.run_of_isQuery hs params, ?_⟩,
    fun s hs => ⟨e.run_of_not_isQuery hs params, ?_⟩, fun table filter => ?_⟩
  · rw [run_of_isQuery _ hs, logged, run_map_noting]
  · rw [run_of_not_isQuery _ hs, logged, run_map_noting]
  · intro sql
    refine ⟨rfl, answer, e.exists_eq sql params, ?_, fun row => ?_⟩
    · rw [exists_eq, logged, run_map_noting]
    · simp only [answer_iff, Row.saysExists_iff]
      rfl

/-- A failure goes through a statement unchanged, and a number that is one too large for 64 bits
with a sign is no match. -/
theorem asks_once_failure :
    let failure := QueryError.constraint "UNIQUE constraint failed: t.a"
    let e : Executor Id :=
      { execute := fun _ _ => .error failure
        fetchFirst := fun _ _ => .ok (some ⟨[("exists_value", .int (2 ^ 63))]⟩)
        fetchAll := fun _ _ => .ok [] }
    let probe := "SELECT EXISTS(SELECT 1 FROM t WHERE id=?) AS exists_value;"
    (e.logged.run (.insert "t" ["a"]) [.integer 1]).run [] =
        (.error failure, [⟨.execute, "INSERT INTO t(a) VALUES(?);", [.integer 1]⟩]) ∧
      (e.logged.exists probe [.null]).run [] =
        (.ok false, [⟨.fetchFirst, probe, [.null]⟩]) := by
  intro failure e probe
  have hprobe : Sql.probe "t" none = probe := by decide +kernel
  obtain ⟨-, hrun, -⟩ := asks_once e [.integer 1] []
  obtain ⟨-, -, hexists⟩ := asks_once e [.null] []
  obtain ⟨-, found, -, hfirst, hfound⟩ := hexists "t" none
  have hlarge : found (some ⟨[("exists_value", .int (2 ^ 63))]⟩) = false := by
    rw [← Bool.not_eq_true, hfound]
    rintro ⟨r, ⟨⟩, n, ⟨⟩, -, hn, -⟩
    exact absurd hn (by decide)
  refine ⟨(hrun (.insert "t" ["a"]) rfl).2, ?_⟩
  rw [hprobe] at hfirst
  rw [hfirst, ← hlarge]
  rfl

end Executor

end ParamSql
