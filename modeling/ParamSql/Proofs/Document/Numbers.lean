import ParamSql.Document.JsonReader
import ParamSql.Proofs.Decimal.Finite

/-!
# The numbers of a JSON text

A JSON text holds integers of 64 bits, with or without a sign, and finite floats.  Whatever
text is read, well formed or not, there are no other numbers in its tree.

## Main definitions

* `Document.Node.Numeric`: every number of a tree is one that a text can hold

## Main results

* `Document.Json.numeric_node`: a number, however long it is written
* `Document.Json.numeric_value`: a value, behind any number of containers
* `Document.Json.numeric_read`: a whole text
-/

namespace ParamSql.Document

/-- The integers of a tree fit 64 bits and its floats are finite. -/
inductive Node.Numeric : Node → Prop
  | null : Numeric .null
  | bool (b : Bool) : Numeric (.bool b)
  | int {n : Int} (hlow : -2 ^ 63 ≤ n) (hhigh : n < 2 ^ 64) : Numeric (.int n)
  | real {x : Float} (h : x.isFinite = true) : Numeric (.real x)
  | text (s : String) : Numeric (.text s)
  | list {items : List Node} (h : ∀ n ∈ items, Numeric n) : Numeric (.list items)
  | record {members : List (String × Node)} (h : ∀ m ∈ members, Numeric m.2) :
      Numeric (.record members)
  | marred (n : Node) : Numeric (.marred n)
  | unlabelled (n : Node) : Numeric (.unlabelled n)
  | broken : Numeric .broken

namespace Json

/-! ## Numbers -/

/-- A significand never gets longer than 64 bits. -/
theorem appendDigits_le {n : Nat} (h : n ≤ maxSignificand) (ds : List Char) :
    (appendDigits n ds).1 ≤ maxSignificand := by
  induction ds generalizing n with
  | nil => exact h
  | cons d ds ih =>
    rw [appendDigits]
    split
    · next hfits => exact ih hfits
    · exact h

/-- The float of a number is finite: it is scaled, or zero if the exponent is out of range. -/
theorem isFinite_float? {n : Numeral} {significand : Nat} {scale : Int} {x : Float}
    (h : n.float? significand scale = some x) : x.isFinite = true := by
  have hzero : (if n.negative then -0.0 else 0.0 : Float).isFinite = true := by
    cases n.negative <;> decide +kernel
  unfold Numeral.float? at h
  split at h
  · exact (Decimal.below_stepwise h).isFinite
  · dsimp only at h
    split at h
    · exact (Decimal.below_stepwise h).isFinite
    · split at h
      · cases h
      · cases h
        exact hzero

/-- **A number is an integer of 64 bits or a finite float**, or it has no value. -/
theorem numeric_node (n : Numeral) : n.node.Numeric := by
  have hlt : (appendDigits 0 n.whole).1 < 2 ^ 64 :=
    Nat.lt_succ_of_le (appendDigits_le (Nat.zero_le _) n.whole)
  rw [Numeral.node]
  dsimp only
  split
  · next hint =>
    have hneg : n.negative = true → (appendDigits 0 n.whole).1 ≤ 2 ^ 63 := by
      intro hn
      rw [hn] at hint
      simp only [Bool.and_eq_true, Bool.not_true, Bool.false_or, decide_eq_true_eq] at hint
      exact hint.2.2
    split
    · next hn =>
      have hle := hneg hn
      exact .int (by omega) (by omega)
    · exact .int (by omega) (by omega)
  · split
    · next x hx => exact .real (isFinite_float? hx)
    · exact .marred _

/-! ## Values -/

theorem numeric_word (w : List Char) {n : Node} (h : n.Numeric) (cs : List Char) :
    (word w n cs).1.Numeric := by
  rw [word]
  split
  · exact h
  · exact .broken

theorem numeric_text (cs : List Char) : (text cs).1.Numeric := by
  unfold text
  split
  · exact .broken
  · exact .text _
  · exact .marred _

theorem numeric_number (negative : Bool) (cs : List Char) : (number negative cs).1.Numeric := by
  unfold number
  dsimp only
  repeat' split
  all_goals first | exact .broken | exact numeric_node _

theorem numeric_container (level : Nat) {n : Node} (h : n.Numeric) :
    (container level n).Numeric := by
  rw [container]
  split
  · exact h
  · exact .marred n

theorem numeric_member (key : Option (List Char)) {n : Node} (h : n.Numeric) :
    (member key n).2.Numeric := by
  cases key with
  | none => exact .unlabelled n
  | some key => exact h

section Steps

variable {fuel : Nat} (hvalue : ∀ level cs, (value fuel level cs).1.Numeric)
  (hitems : ∀ level cs, ∀ n ∈ (items fuel level cs).1, n.Numeric)
  (hmembers : ∀ level cs, ∀ m ∈ (members fuel level cs).1, m.2.Numeric)

include hitems hmembers in
/-- One step more of a value. -/
theorem numeric_value_succ (level : Nat) (cs : List Char) :
    (value (fuel + 1) level cs).1.Numeric := by
  unfold value
  split
  · split
    · exact numeric_container _ (.list nofun)
    · exact numeric_container _ (.list (hitems _ _))
  · split
    · exact numeric_container _ (.record nofun)
    · exact numeric_container _ (.record (hmembers _ _))
  · exact numeric_text _
  · exact numeric_number _ _
  · exact numeric_word _ .null _
  · exact numeric_word _ (.bool true) _
  · exact numeric_word _ (.bool false) _
  · exact numeric_number _ _

include hvalue hitems in
/-- One step more of the items of a list. -/
theorem numeric_items_succ (level : Nat) (cs : List Char) :
    ∀ n ∈ (items (fuel + 1) level cs).1, n.Numeric := by
  have hfirst := hvalue level cs
  unfold items
  split
  · next n h =>
    rw [h] at hfirst
    exact List.forall_mem_singleton.mpr hfirst
  · next n rest h =>
    rw [h] at hfirst
    have hbroken : ∀ n' ∈ [n, .broken], n'.Numeric :=
      List.forall_mem_cons.mpr ⟨hfirst, List.forall_mem_singleton.mpr .broken⟩
    split
    · exact List.forall_mem_singleton.mpr hfirst
    · split
      · exact hbroken
      · exact List.forall_mem_cons.mpr ⟨hfirst, hitems _ _⟩
    · exact hbroken

include hvalue hmembers in
/-- One step more of the members of a record. -/
theorem numeric_members_succ (level : Nat) (cs : List Char) :
    ∀ m ∈ (members (fuel + 1) level cs).1, m.2.Numeric := by
  unfold members
  split
  · next rest =>
    split
    · exact List.forall_mem_singleton.mpr .broken
    · next key rest _ =>
      split
      · next rest _ =>
        have hfirst := hvalue level (skipBlanks rest)
        split
        · next n h =>
          rw [h] at hfirst
          exact List.forall_mem_singleton.mpr (numeric_member key hfirst)
        · next n rest h =>
          rw [h] at hfirst
          split
          · exact List.forall_mem_singleton.mpr (numeric_member key hfirst)
          · exact List.forall_mem_cons.mpr ⟨numeric_member key hfirst, hmembers _ _⟩
          · exact List.forall_mem_cons.mpr
              ⟨numeric_member key hfirst, List.forall_mem_singleton.mpr .broken⟩
      · exact List.forall_mem_singleton.mpr (numeric_member key .broken)
  · exact List.forall_mem_singleton.mpr .broken

end Steps

/-- **Values, items and members**, as far as the steps reach. -/
theorem numeric_value (fuel : Nat) :
    (∀ level cs, (value fuel level cs).1.Numeric) ∧
    (∀ level cs, ∀ n ∈ (items fuel level cs).1, n.Numeric) ∧
    (∀ level cs, ∀ m ∈ (members fuel level cs).1, m.2.Numeric) := by
  induction fuel with
  | zero =>
    refine ⟨fun _ _ => .broken, fun _ _ => ?_, fun _ _ => ?_⟩
    · exact List.forall_mem_singleton.mpr .broken
    · exact List.forall_mem_singleton.mpr .broken
  | succ fuel ih =>
    obtain ⟨hvalue, hitems, hmembers⟩ := ih
    exact ⟨numeric_value_succ hitems hmembers, numeric_items_succ hvalue hitems,
      numeric_members_succ hvalue hmembers⟩

/-- **A whole text**, well formed or not. -/
theorem numeric_read (s : String) : (read s).1.Numeric := by
  have hvalue := (numeric_value (2 * s.toList.length + 2)).1 0 (skipBlanks s.toList)
  rw [read]
  split
  · next n rest h =>
    rw [h] at hvalue
    exact hvalue
  · next n h =>
    rw [h] at hvalue
    exact hvalue

end Json

end ParamSql.Document
