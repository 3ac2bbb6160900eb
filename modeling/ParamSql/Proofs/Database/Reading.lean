import Mathlib
import ParamSql.Database.Phrase

/-!
# What the text of a creation is read as

The text of a new object begins with five words, and what follows them cannot take them back: the
tokens of the text begin with these words, and so does its first statement.  If the text is one
statement and can be read, it is therefore read as a new object of that kind, which is only
created where it is not there yet.

## Main definitions

* `Sql.creationWords kind`: the words that the text of a new object begins with

## Main results

* `Sql.statements_creation`: the tokens of one statement that begins with these words
* `Statement.ofTokens_table`, `Statement.ofTokens_view`, `Statement.ofTokens_index`: what they are
  read as
-/

namespace ParamSql

/-! ## Tokens -/

namespace Sql

variable {text : String} {ts us : List Token} {cs rest : List Char}

/-- A word with a blank in front of it. -/
def Token.word (w : String) : Token := ⟨.word, w, " "⟩

/-- The words that the text of a new object begins with. -/
def creationWords (kind : String) : List Token :=
  [⟨.word, "CREATE", ""⟩, .word kind, .word "IF", .word "NOT", .word "EXISTS"]

theorem upTo_cons {α : Type} {reader : Reader α} {a : α} (h : reader cs = some (a, rest))
    (n : Nat) : (Reader.upTo reader (n + 1) cs).1 = a :: (Reader.upTo reader n rest).1 := by
  rw [Reader.upTo, h]

/-- Behind the words there is a blank, so they end there. -/
theorem tokens_creation {kind : String}
    (hkind : ∀ cs, token (' ' :: (kind.toList ++ ' ' :: cs)) = some (.word kind, ' ' :: cs))
    (rest : String) :
    ∃ ts, tokens ("CREATE " ++ (kind ++ " IF NOT EXISTS ") ++ rest) = creationWords kind ++ ts := by
  have hcreate : ∀ cs, token ("CREATE".toList ++ ' ' :: cs) =
      some (⟨.word, "CREATE", ""⟩, ' ' :: cs) := fun _ => rfl
  have hif : ∀ cs, token (' ' :: ("IF".toList ++ ' ' :: cs)) =
      some (.word "IF", ' ' :: cs) := fun _ => rfl
  have hnot : ∀ cs, token (' ' :: ("NOT".toList ++ ' ' :: cs)) =
      some (.word "NOT", ' ' :: cs) := fun _ => rfl
  have hexists : ∀ cs, token (' ' :: ("EXISTS".toList ++ ' ' :: cs)) =
      some (.word "EXISTS", ' ' :: cs) := fun _ => rfl
  have htext : ("CREATE " ++ (kind ++ " IF NOT EXISTS ") ++ rest).toList =
      "CREATE".toList ++ ' ' :: (kind.toList ++ ' ' :: ("IF".toList ++ ' ' ::
        ("NOT".toList ++ ' ' :: ("EXISTS".toList ++ ' ' :: rest.toList)))) := by
    simp
  obtain ⟨n, hn⟩ : ∃ n, ("CREATE " ++ (kind ++ " IF NOT EXISTS ") ++ rest).toList.length = n + 5 :=
    ⟨_, (Nat.sub_add_cancel (by rw [htext]; simp)).symm⟩
  rw [tokens, Reader.many, hn, htext, upTo_cons (hcreate _), upTo_cons (hkind _),
    upTo_cons (hif _), upTo_cons (hnot _), upTo_cons (hexists _)]
  exact ⟨_, rfl⟩

/-- Tokens without semicolons belong to the statement behind them. -/
theorem divided_append (h : ∀ t ∈ us, t.isMark ";" = false) (ts : List Token) :
    ∃ first others, divided ts = first :: others ∧ divided (us ++ ts) = (us ++ first) :: others := by
  induction us with
  | nil =>
    cases hts : divided ts with
    | nil =>
      cases ts with
      | nil => cases hts
      | cons t ts =>
        rw [divided] at hts
        split at hts
        · cases hts
        · split at hts <;> cases hts
    | cons first others => exact ⟨first, others, rfl, hts⟩
  | cons u us ih =>
    obtain ⟨hu, hus⟩ := List.forall_mem_cons.mp h
    obtain ⟨first, others, hts, hall⟩ := ih hus
    refine ⟨first, others, hts, ?_⟩
    rw [List.cons_append, divided, if_neg (Bool.eq_false_iff.mp hu), hall]
    rfl

/-- **One statement that begins with some words** has the tokens of these words in front. -/
theorem statements_of_tokens (hne : us ≠ []) (hus : ∀ t ∈ us, t.isMark ";" = false)
    (htokens : tokens text = us ++ ts) (hone : IsStatement text) :
    ∃ rest, statements text = [us ++ rest] := by
  obtain ⟨first, others, -, hall⟩ := divided_append hus ts
  have hnonempty : (us ++ first).isEmpty = false := by
    rw [List.isEmpty_eq_false_iff]
    exact List.append_ne_nil_of_left_ne_nil hne _
  rw [IsStatement, statements, htokens, hall, List.filter_cons_of_pos (by simp [hnonempty]),
    List.length_cons] at hone
  refine ⟨first, ?_⟩
  rw [statements, htokens, hall, List.filter_cons_of_pos (by simp [hnonempty]),
    List.length_eq_zero_iff.mp (Nat.succ.inj hone)]

theorem statements_creation {kind : String}
    (hkind : ∀ cs, token (' ' :: (kind.toList ++ ' ' :: cs)) = some (.word kind, ' ' :: cs))
    (rest : String) (hone : IsStatement ("CREATE " ++ (kind ++ " IF NOT EXISTS ") ++ rest)) :
    ∃ ts, statements ("CREATE " ++ (kind ++ " IF NOT EXISTS ") ++ rest) =
      [creationWords kind ++ ts] := by
  obtain ⟨ts, hts⟩ := tokens_creation hkind rest
  refine statements_of_tokens (List.cons_ne_nil _ _) ?_ hts hone
  simp [creationWords, Token.word, Token.isMark]

end Sql

/-! ## Phrases -/

namespace Phrase

open Sql (Token)

variable {α β : Type} {p : Token → Bool} {t : Token} {ts rest : List Token}

theorem bind_eq {x : Phrase α} {f : α → Phrase β} {a : α} (h : x ts = .ok (a, rest)) :
    (x >>= f) ts = f a rest := by
  change (x ts >>= fun r => f r.1 r.2) = _
  rw [h]
  rfl

/-- What is read in two steps. -/
theorem exists_of_bind_eq_ok {x : Phrase α} {f : α → Phrase β} {b : β} {last : List Token}
    (h : (x >>= f) ts = .ok (b, last)) : ∃ a rest, x ts = .ok (a, rest) ∧
      f a rest = .ok (b, last) := by
  change (x ts >>= fun r => f r.1 r.2) = _ at h
  cases hx : x ts with
  | error r =>
    rw [hx] at h
    cases h
  | ok r =>
    rw [hx] at h
    exact ⟨r.1, r.2, rfl, h⟩

theorem accept_of_pos (h : p t = true) : accept p (t :: ts) = .ok (true, ts) := by
  rw [accept]
  change (if p t = true then _ else _ : Phrase Bool) (t :: ts) = _
  rw [if_pos h]
  rfl

theorem accept_of_neg (h : p t = false) : accept p (t :: ts) = .ok (false, t :: ts) := by
  rw [accept]
  change (if p t = true then _ else _ : Phrase Bool) (t :: ts) = _
  rw [if_neg (Bool.eq_false_iff.mp h)]
  rfl

/-- A word that is there is taken, and the words behind it are asked for. -/
theorem if_accept_of_pos {x y : Phrase α} (h : p t = true) :
    (do if ← accept p then x else y) (t :: ts) = x ts := by
  rw [bind_eq (accept_of_pos h), if_pos rfl]

theorem if_accept_of_neg {x y : Phrase α} (h : p t = false) :
    (do if ← accept p then x else y) (t :: ts) = y (t :: ts) := by
  rw [bind_eq (accept_of_neg h), if_neg Bool.false_ne_true]

theorem expect_of_pos (h : p t = true) : expect p (t :: ts) = .ok ((), ts) := by
  rw [expect, bind_eq (accept_of_pos h)]
  rfl

theorem keywords_cons {w : String} {ws : List String} (h : t.isWord w = true) :
    keywords (w :: ws) (t :: ts) = keywords ws ts := by
  change (expect _ >>= fun _ => keywords ws) (t :: ts) = _
  rw [bind_eq (expect_of_pos h)]

theorem acceptKeywords_ifNotExists (ts : List Token) :
    acceptKeywords ["IF", "NOT", "EXISTS"] (.word "IF" :: .word "NOT" :: .word "EXISTS" :: ts) =
      .ok (true, ts) := by
  have hwords : keywords ["NOT", "EXISTS"] (.word "NOT" :: .word "EXISTS" :: ts) = .ok ((), ts) := by
    rw [keywords_cons (by cbv), keywords_cons (by cbv)]
    rfl
  rw [acceptKeywords]
  refine (if_accept_of_pos (by cbv)).trans ?_
  rw [bind_eq hwords]
  rfl

/-- What begins like a new object is read as one. -/
theorem statement_creation (kind : String) (ts : List Token) :
    statement (Sql.creationWords kind ++ ts) =
      create (.word kind :: .word "IF" :: .word "NOT" :: .word "EXISTS" :: ts) := by
  rw [statement]
  iterate 4 refine (if_accept_of_neg (by cbv)).trans ?_
  exact if_accept_of_pos (by cbv)

theorem exists_of_createTable {s : Statement} {last : List Token}
    (h : statement (Sql.creationWords "TABLE" ++ ts) = .ok (s, last)) :
    ∃ name columns, s = .createTable name columns true := by
  rw [statement_creation, create] at h
  replace h := (if_accept_of_pos (by cbv)).symm.trans h
  rw [createTable, bind_eq (acceptKeywords_ifNotExists ts)] at h
  obtain ⟨name, _, -, h⟩ := exists_of_bind_eq_ok h
  obtain ⟨elements, _, -, h⟩ := exists_of_bind_eq_ok h
  cases h
  exact ⟨name, _, rfl⟩

theorem exists_of_createView {s : Statement} {last : List Token}
    (h : statement (Sql.creationWords "VIEW" ++ ts) = .ok (s, last)) :
    ∃ name table columns options, s = .createView name table columns options true := by
  rw [statement_creation, create] at h
  replace h := (if_accept_of_neg (by cbv)).symm.trans h
  replace h := (if_accept_of_pos (by cbv)).symm.trans h
  rw [createView, bind_eq (acceptKeywords_ifNotExists ts)] at h
  obtain ⟨name, _, -, h⟩ := exists_of_bind_eq_ok h
  obtain ⟨_, _, -, h⟩ := exists_of_bind_eq_ok h
  obtain ⟨⟨table, columns, options⟩, _, -, h⟩ := exists_of_bind_eq_ok h
  cases h
  exact ⟨name, table, columns, options, rfl⟩

theorem exists_of_createIndex {s : Statement} {last : List Token}
    (h : statement (Sql.creationWords "INDEX" ++ ts) = .ok (s, last)) :
    ∃ name table columns filter, s = .createIndex name table columns true filter := by
  rw [statement_creation, create] at h
  replace h := (if_accept_of_neg (by cbv)).symm.trans h
  replace h := (if_accept_of_neg (by cbv)).symm.trans h
  have hindex : keywords ["INDEX"] (.word "INDEX" :: .word "IF" :: .word "NOT" :: .word "EXISTS" ::
      ts) = .ok ((), .word "IF" :: .word "NOT" :: .word "EXISTS" :: ts) := by
    rw [keywords_cons (by cbv)]
    rfl
  rw [bind_eq hindex, createIndex, bind_eq (acceptKeywords_ifNotExists ts)] at h
  obtain ⟨name, _, -, h⟩ := exists_of_bind_eq_ok h
  obtain ⟨_, _, -, h⟩ := exists_of_bind_eq_ok h
  obtain ⟨table, _, -, h⟩ := exists_of_bind_eq_ok h
  obtain ⟨columns, _, -, h⟩ := exists_of_bind_eq_ok h
  obtain ⟨filter, _, -, h⟩ := exists_of_bind_eq_ok h
  cases h
  exact ⟨name, table, columns, filter, rfl⟩

end Phrase

/-! ## Statements -/

namespace Statement

variable {ts : List Sql.Token} {s : Statement}

/-- A statement that is read off tokens is a phrase of them. -/
theorem exists_of_ofTokens (h : ofTokens ts = .ok s) : ∃ last, Phrase.statement ts = .ok (s, last) := by
  rw [ofTokens] at h
  split at h
  · next heq =>
    cases h
    exact ⟨_, heq⟩
  · cases h
  · cases h

theorem ofTokens_table (h : ofTokens (Sql.creationWords "TABLE" ++ ts) = .ok s) :
    ∃ name columns, s = .createTable name columns true := by
  obtain ⟨last, hs⟩ := exists_of_ofTokens h
  exact Phrase.exists_of_createTable hs

theorem ofTokens_view (h : ofTokens (Sql.creationWords "VIEW" ++ ts) = .ok s) :
    ∃ name table columns options, s = .createView name table columns options true := by
  obtain ⟨last, hs⟩ := exists_of_ofTokens h
  exact Phrase.exists_of_createView hs

theorem ofTokens_index (h : ofTokens (Sql.creationWords "INDEX" ++ ts) = .ok s) :
    ∃ name table columns filter, s = .createIndex name table columns true filter := by
  obtain ⟨last, hs⟩ := exists_of_ofTokens h
  exact Phrase.exists_of_createIndex hs

end Statement

end ParamSql
