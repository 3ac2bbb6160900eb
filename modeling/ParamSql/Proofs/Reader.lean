import ParamSql.Reader

/-!
# Symbols, runs and sequences

A symbol is read where the text begins with it, and leaves what is behind it.  A run of
characters is read up to the first character that does not belong to it.  A reader that
is used as often as possible reads back a sequence of texts, one after the other, provided that
each text is read in front of whatever may follow it, and that the reader fails behind the last
one.

## Main results

* `Reader.symbol_eq_some_iff`: a symbol is read exactly where the text begins with it
* `Reader.takeWhile_run`, `Reader.dropWhile_run`: a run is told from what follows it
* `Reader.many_flatMap`: a sequence is read back
-/

namespace ParamSql.Reader

variable {α β : Type} {reader : Reader β} {text : α → List Char} {value : α → β}
  {stop : List Char → Prop} {rest : List Char}

/-! ## Symbols -/

theorem symbol_eq_some_iff {w cs : List Char} {u : Unit} :
    symbol w cs = some (u, rest) ↔ cs = w ++ rest := by
  induction w generalizing cs with
  | nil => simp [symbol]
  | cons c w ih =>
    cases cs with
    | nil => simp [symbol]
    | cons d cs =>
      rw [symbol, List.cons_append, List.cons.injEq, ← ih]
      split
      · next hc => simp [hc]
      · next hc => simp [Ne.symm hc]

theorem symbol_append (w rest : List Char) : symbol w (w ++ rest) = some ((), rest) :=
  symbol_eq_some_iff.mpr rfl

/-! ## Runs -/

section Runs

variable {p : Char → Bool} {run : List Char}

/-- In front of a text that does not go on with it, a run is taken whole. -/
theorem takeWhile_run (hrun : ∀ c ∈ run, p c = true) (hrest : ∀ c ∈ rest.head?, p c = false) :
    (run ++ rest).takeWhile p = run := by
  rw [List.takeWhile_append_of_pos hrun]
  cases rest with
  | nil => rw [List.takeWhile_nil, List.append_nil]
  | cons c rest => rw [List.takeWhile_cons_of_neg (by simp [hrest c rfl]), List.append_nil]

/-- Behind a run the text is left that does not go on with it. -/
theorem dropWhile_run (hrun : ∀ c ∈ run, p c = true) (hrest : ∀ c ∈ rest.head?, p c = false) :
    (run ++ rest).dropWhile p = rest := by
  rw [List.dropWhile_append_of_pos hrun]
  cases rest with
  | nil => rfl
  | cons c rest => rw [List.dropWhile_cons_of_neg (by simp [hrest c rfl])]

end Runs

/-! ## Sequences -/

theorem upTo_of_none (h : reader rest = none) (n : Nat) : upTo reader n rest = ([], rest) := by
  cases n with
  | zero => rfl
  | succ n => simp [upTo, h]

/-- A reader that fails reads nothing, however often it is used. -/
theorem many_of_none (h : reader rest = none) : many reader rest = ([], rest) :=
  upTo_of_none h _

theorem upTo_flatMap (hnext : ∀ a rest, stop (text a ++ rest)) (hend : stop rest)
    (hrest : reader rest = none) :
    ∀ (as : List α) (n : Nat), as.length ≤ n →
      (∀ a ∈ as, ∀ more, stop more → reader (text a ++ more) = some (value a, more)) →
      upTo reader n (as.flatMap text ++ rest) = (as.map value, rest)
  | [], n, _, _ => upTo_of_none hrest n
  | a :: as, 0, hn, _ => absurd hn (by simp)
  | a :: as, n + 1, hn, h => by
    have hmore : stop (as.flatMap text ++ rest) := by
      cases as with
      | nil => exact hend
      | cons b as =>
        rw [List.flatMap_cons, List.append_assoc]
        exact hnext b _
    have ih := upTo_flatMap hnext hend hrest as n (Nat.le_of_succ_le_succ hn)
      fun b hb => h b (by simp [hb])
    rw [List.flatMap_cons, List.append_assoc, upTo, h a (by simp) _ hmore]
    simp only [ih, List.map_cons]

/-- **A sequence is read back**: texts that are not empty, each of them read in front of the
next one and of the end. -/
theorem many_flatMap {as : List α} (hnext : ∀ a rest, stop (text a ++ rest)) (hend : stop rest)
    (hrest : reader rest = none) (hne : ∀ a ∈ as, text a ≠ [])
    (h : ∀ a ∈ as, ∀ more, stop more → reader (text a ++ more) = some (value a, more)) :
    many reader (as.flatMap text ++ rest) = (as.map value, rest) := by
  -- no text is empty, so the length bounds how many there are
  have hlength : as.length ≤ (as.flatMap text ++ rest).length := by
    rw [List.length_append]
    refine Nat.le_add_right_of_le ?_
    clear h
    induction as with
    | nil => exact Nat.zero_le _
    | cons a as ih =>
      have ha : 0 < (text a).length := List.length_pos_iff.mpr (hne a (by simp))
      have has := ih fun b hb => hne b (by simp [hb])
      rw [List.flatMap_cons, List.length_append, List.length_cons]
      omega
  exact upTo_flatMap hnext hend hrest as _ hlength h

end ParamSql.Reader
