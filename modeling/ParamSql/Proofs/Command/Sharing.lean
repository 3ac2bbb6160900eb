import Mathlib.Algebra.GroupWithZero.Nat
import ParamSql.Command.Allotment

/-!
# Where the values of a statement stand

Statements take their values off the front of what is left.  So the values of a statement are
those between two positions in the whole list: as many as the statements before it bind, and
as many as these and the statement itself bind.  Behind the end of the list there is nothing to
take, and a statement whose values are not all there is the first one that reaches beyond it.

## Main definitions

* `Allotment.start statements i`: where the values of the `i`-th statement begin
* `Allotment.slices`: every statement with the values between its start and the next one

## Main results

* `Allotment.ofList_false`: without a demand, every statement takes its slice
* `Allotment.ofList_true_of_lt`: on demand, the slices before the first statement that reaches
  beyond the end, and that statement with what is left
* `Allotment.ofList_true_of_le`: on demand, all slices when no statement does
* `Allotment.flatMap_slices`: the slices behind each other are the front of the list
-/

namespace ParamSql.Allotment

variable {statements : List Statement} {values : List Value} {i j : Nat}

/-! ## Positions -/

/-- Where the values of the `i`-th statement begin: how many the statements before it bind. -/
def start (statements : List Statement) (i : Nat) : Nat :=
  ((statements.take i).map (·.placeholderCount)).sum

@[simp] theorem start_zero (statements : List Statement) : start statements 0 = 0 := rfl

@[simp] theorem start_cons_succ (s : Statement) (statements : List Statement) (i : Nat) :
    start (s :: statements) (i + 1) = s.placeholderCount + start statements i := by
  simp only [start, List.take_succ_cons, List.map_cons, List.sum_cons]

theorem start_mono (h : i ≤ j) : start statements i ≤ start statements j := by
  obtain ⟨k, rfl⟩ := Nat.exists_eq_add_of_le h
  rw [start, start, List.take_add, List.map_append, List.sum_append]
  exact Nat.le_add_right _ _

/-! ## Slices -/

/-- Every statement with the values between its start and the next one. -/
def slices (statements : List Statement) (values : List Value) : List (Statement × List Value) :=
  statements.mapIdx fun i s =>
    (s, values.extract (start statements i) (start statements (i + 1)))

@[simp] theorem length_slices (statements : List Statement) (values : List Value) :
    (slices statements values).length = statements.length := by
  rw [slices, List.length_mapIdx]

/-- A part of what is left is a part of the whole, so many positions further on. -/
theorem extract_drop (values : List Value) (k a b : Nat) :
    (values.drop k).extract a b = values.extract (k + a) (k + b) := by
  rw [List.extract_eq_take_drop, List.extract_eq_take_drop, List.drop_drop,
    Nat.add_sub_add_left]

/-- A slice ends with the list, wherever its bounds are. -/
theorem extract_min (values : List Value) (a b : Nat) :
    values.extract (min a values.length) (min b values.length) = values.extract a b := by
  rw [List.extract_eq_take_drop, List.extract_eq_take_drop]
  rcases Nat.le_total a values.length with ha | ha
  · rw [Nat.min_eq_left ha, List.take_eq_take_iff, List.length_drop]
    omega
  · rw [Nat.min_eq_right ha, List.drop_of_length_le ha, List.drop_length, List.take_nil,
      List.take_nil]

theorem slices_cons (s : Statement) (statements : List Statement) (values : List Value) :
    slices (s :: statements) values =
      (s, values.take s.placeholderCount) ::
        slices statements (values.drop s.placeholderCount) := by
  have hfirst : values.extract (start (s :: statements) 0) (start (s :: statements) 1) =
      values.take s.placeholderCount := by
    rw [start_cons_succ, start_zero, start_zero, List.extract_eq_take_drop]
    rfl
  rw [slices, slices, List.mapIdx_cons, hfirst]
  simp only [start_cons_succ, extract_drop]

/-- **Nothing is used twice, left out or moved**: the slices of the first statements, behind each
other, are the front of the list. -/
theorem flatMap_slices (statements : List Statement) (values : List Value) (j : Nat) :
    ((slices statements values).take j).flatMap (·.2) = values.take (start statements j) := by
  induction statements generalizing values j with
  | nil => simp [slices, start]
  | cons s statements ih =>
    cases j with
    | zero => simp
    | succ j =>
      rw [slices_cons, List.take_succ_cons, List.flatMap_cons, ih, start_cons_succ, List.take_add]

/-! ## Shares -/

/-- **Without a demand, every statement takes its slice**, and what is behind the last slice is
left. -/
theorem ofList_false (statements : List Statement) (values : List Value) :
    ofList false statements values =
      ⟨slices statements values, none, values.length - start statements statements.length⟩ := by
  induction statements generalizing values with
  | nil => rfl
  | cons s statements ih =>
    rw [ofList, ih, slices_cons, List.length_drop, List.length_cons, start_cons_succ,
      Nat.sub_sub]
    rfl

/-- **On demand, all slices are taken when they are all there**. -/
theorem ofList_true_of_le (h : start statements statements.length ≤ values.length) :
    ofList true statements values =
      ⟨slices statements values, none, values.length - start statements statements.length⟩ := by
  induction statements generalizing values with
  | nil => rfl
  | cons s statements ih =>
    rw [List.length_cons, start_cons_succ] at h
    have hrest : start statements statements.length ≤
        (values.drop s.placeholderCount).length := by
      rw [List.length_drop]
      omega
    rw [ofList, if_neg (by simp; omega), ih hrest, slices_cons, List.length_drop,
      List.length_cons, start_cons_succ, Nat.sub_sub]
    rfl

/-- **On demand, the sharing ends at the first statement whose slice is not all there**. -/
theorem ofList_true_of_lt (hj : j < statements.length)
    (hstart : start statements j ≤ values.length)
    (hend : values.length < start statements (j + 1)) :
    ofList true statements values =
      ⟨(slices statements values).take j, some (statements[j], values.length - start statements j),
        0⟩ := by
  induction statements generalizing values j with
  | nil => cases hj
  | cons s statements ih =>
    rw [start_cons_succ] at hend
    cases j with
    | zero =>
      rw [start_zero] at hend
      rw [ofList, if_pos (by simpa using hend)]
      rfl
    | succ j =>
      rw [start_cons_succ] at hstart
      have hleft : (values.drop s.placeholderCount).length =
          values.length - s.placeholderCount := List.length_drop
      have hrest := ih (Nat.lt_of_succ_lt_succ hj) (by rw [hleft]; omega) (by rw [hleft]; omega)
      rw [ofList, if_neg (by simp; omega), hrest, slices_cons, List.take_succ_cons,
        List.length_drop, start_cons_succ, Nat.sub_sub]
      rfl

end ParamSql.Allotment
