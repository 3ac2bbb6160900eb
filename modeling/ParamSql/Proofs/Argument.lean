import Mathlib
import ParamSql.Proofs.Decimal.Literal
import ParamSql.Value

/-!
# What an argument stands for

An argument is an integer if it is written as one that 64 bits hold, or else a float if it is
written as one, or else a word.  The two languages overlap, as whatever is written as an integer is
written as a float, too: an integer that 64 bits do not hold becomes a float.  The words for nothing
and for the truth values belong to neither language, so no number hides one of them.

## Main definitions

* `Value.StandsFor`: the value that an argument stands for, form by form

## Main results

* `Value.ofArgument_eq_iff`: an argument is read as the one value that it stands for
* `Value.argument_classified`: which arguments give which values, up to both ends of the integers
-/

namespace ParamSql.Value

open Decimal (IntegerLiteral FloatLiteral)

variable {s : String}

/-! ## Forms -/

/-- The words that stand for a value of their own. -/
def valueWords : List String := ["null", "NULL", "true", "false"]

/-- The forms of an argument. -/
inductive StandsFor (s : String) : Value → Prop where
  | integer {n : Int64} (h : IntegerLiteral s.toList n.toInt) : StandsFor s (.integer n)
  | real {x : Float} (hinteger : ∀ n : Int64, ¬ IntegerLiteral s.toList n.toInt)
      (h : FloatLiteral s.toList x) : StandsFor s (.real x)
  | null (h : s = "null" ∨ s = "NULL") : StandsFor s .null
  | true (h : s = "true") : StandsFor s (.integer 1)
  | false (h : s = "false") : StandsFor s (.integer 0)
  | text (hfloat : ∀ x, ¬ FloatLiteral s.toList x) (h : s ∉ valueWords) : StandsFor s (.text s)

/-- The text writes no integer that 64 bits hold. -/
theorem forall_not_integerLiteral_iff {cs : List Char} :
    (∀ n : Int64, ¬ IntegerLiteral cs n.toInt) ↔
      ∀ z, IntegerLiteral cs z → z < -2 ^ 63 ∨ 2 ^ 63 - 1 < z := by
  constructor
  · intro h z hz
    by_contra hrange
    rw [not_or, not_lt, not_lt] at hrange
    obtain ⟨hleast, hmost⟩ := hrange
    have hn : (Int64.ofInt z).toInt = z := Int64.toInt_ofInt_of_le hleast (by omega)
    exact h (Int64.ofInt z) (hn.symm ▸ hz)
  · intro h n hn
    have hleast := n.le_toInt
    have hmost := n.toInt_lt
    have := h n.toInt hn
    omega

theorem forall_not_integerLiteral {cs : List Char} (h : ∀ x, ¬ FloatLiteral cs x) (z : ℤ) :
    ¬ IntegerLiteral cs z := by
  intro hz
  obtain ⟨x, hx⟩ := hz.exists_float
  exact h x hx

/-- The words for values are no numbers. -/
theorem not_floatLiteral_of_mem_valueWords (h : s ∈ valueWords) (x : Float) :
    ¬ FloatLiteral s.toList x := by
  have hwords : ∀ w ∈ valueWords, Decimal.float? w.toList = none := by decide
  intro hx
  rw [← Decimal.float?_eq_some_iff, hwords s h] at hx
  cases hx

/-! ## Reading -/

theorem ofArgument_of_integerLiteral {n : Int64} (h : IntegerLiteral s.toList n.toInt) :
    ofArgument s = .integer n := by
  have hread : Decimal.integerWithin? 64 s.toList = some n.toInt :=
    Decimal.integerWithin?_eq_some_iff.mpr ⟨h, n.le_toInt, n.toInt_lt⟩
  rw [ofArgument, hread]
  simp only [Int64.ofInt_toInt]

/-- What is no integer is read as a float, or else as a word. -/
theorem ofArgument_of_forall_not (h : ∀ n : Int64, ¬ IntegerLiteral s.toList n.toInt) :
    ofArgument s = ((Decimal.float? s.toList).map real).getD (ofWord s) := by
  have hread : Decimal.integerWithin? 64 s.toList = none := by
    refine Option.eq_none_iff_forall_ne_some.mpr fun z hz => ?_
    obtain ⟨hliteral, hleast, hmost⟩ := Decimal.integerWithin?_eq_some_iff.mp hz
    have := forall_not_integerLiteral_iff.mp h z hliteral
    omega
  rw [ofArgument, hread]
  cases Decimal.float? s.toList <;> rfl

/-- What is no number is read as a word. -/
theorem ofArgument_of_forall_not_float (h : ∀ x, ¬ FloatLiteral s.toList x) :
    ofArgument s = ofWord s := by
  have hread : Decimal.float? s.toList = none :=
    Option.eq_none_iff_forall_ne_some.mpr fun x hx => h x (Decimal.float?_eq_some_iff.mp hx)
  rw [ofArgument_of_forall_not fun n => forall_not_integerLiteral h n.toInt, hread]
  rfl

theorem ofWord_of_not_mem (h : s ∉ valueWords) : ofWord s = .text s := by
  simp only [valueWords, List.mem_cons, List.not_mem_nil, or_false, not_or] at h
  obtain ⟨hnull, hNULL, htrue, hfalse⟩ := h
  rw [ofWord, if_neg (not_or.mpr ⟨hnull, hNULL⟩), if_neg htrue, if_neg hfalse]

/-- **An argument is read as the one value that it stands for.** -/
theorem ofArgument_eq_iff {v : Value} : ofArgument s = v ↔ StandsFor s v := by
  constructor
  · rintro rfl
    by_cases hinteger : ∃ n : Int64, IntegerLiteral s.toList n.toInt
    · obtain ⟨n, hn⟩ := hinteger
      rw [ofArgument_of_integerLiteral hn]
      exact .integer hn
    by_cases hfloat : ∃ x, FloatLiteral s.toList x
    · obtain ⟨x, hx⟩ := hfloat
      rw [ofArgument_of_forall_not (not_exists.mp hinteger),
        Decimal.float?_eq_some_iff.mpr hx]
      exact .real (not_exists.mp hinteger) hx
    rw [ofArgument_of_forall_not_float (not_exists.mp hfloat)]
    by_cases hword : s ∈ valueWords
    · simp only [valueWords, List.mem_cons, List.not_mem_nil, or_false] at hword
      rcases hword with rfl | rfl | rfl | rfl
      · exact .null (.inl rfl)
      · exact .null (.inr rfl)
      · exact .true rfl
      · exact .false rfl
    · rw [ofWord_of_not_mem hword]
      exact .text (not_exists.mp hfloat) hword
  · intro h
    have hword (hs : s ∈ valueWords) : ofArgument s = ofWord s :=
      ofArgument_of_forall_not_float (not_floatLiteral_of_mem_valueWords hs)
    cases h with
    | integer h => exact ofArgument_of_integerLiteral h
    | real hinteger h =>
      rw [ofArgument_of_forall_not hinteger, Decimal.float?_eq_some_iff.mpr h]
      rfl
    | null h => rcases h with rfl | rfl <;> exact hword (by decide)
    | true h =>
      subst h
      exact hword (by decide)
    | false h =>
      subst h
      exact hword (by decide)
    | text hfloat h => rw [ofArgument_of_forall_not_float hfloat, ofWord_of_not_mem h]

/-- **Which arguments give which values.**  An argument gives an integer if it is an optional sign
in front of digits whose value 64 bits with a sign hold, or a word for a truth value; or else a
float if it is written as one; `null` and `NULL` give nothing, and everything else gives itself as a
text.  An integer that is written beyond 64 bits gives a float, and the decimal text of an integer
gives that integer. -/
theorem argument_classified (s : String) :
    (∀ n : Int64, ofArgument s = .integer n ↔
      (IntegerLiteral s.toList n.toInt ∧ -2 ^ 63 ≤ n.toInt ∧ n.toInt ≤ 2 ^ 63 - 1) ∨
        (s = "true" ∧ n = 1) ∨ (s = "false" ∧ n = 0)) ∧
    (∀ x : Float, ofArgument s = .real x ↔
      (∀ z, IntegerLiteral s.toList z → z < -2 ^ 63 ∨ 2 ^ 63 - 1 < z) ∧
        FloatLiteral s.toList x) ∧
    (ofArgument s = .null ↔ s = "null" ∨ s = "NULL") ∧
    (∀ t : String, ofArgument s = .text t ↔
      t = s ∧ (∀ z, ¬ IntegerLiteral s.toList z) ∧ (∀ x, ¬ FloatLiteral s.toList x) ∧
        s ∉ ["null", "NULL", "true", "false"]) ∧
    (∀ bytes : List UInt8, ofArgument s ≠ .blob bytes) ∧
    (∀ z : ℤ, IntegerLiteral s.toList z →
      (∃ n : Int64, n.toInt = z ∧ ofArgument s = .integer n) ∨
        ((z < -2 ^ 63 ∨ 2 ^ 63 - 1 < z) ∧ ∃ x, ofArgument s = .real x)) ∧
    ∀ n : Int64, ofArgument (toString n.toInt) = .integer n := by
  simp only [ofArgument_eq_iff, ne_eq]
  refine ⟨fun n => ⟨fun h => ?_, ?_⟩, fun x => ⟨fun h => ?_, ?_⟩, ⟨fun h => ?_, .null⟩,
    fun t => ⟨fun h => ?_, ?_⟩, nofun, fun z hz => ?_, fun n => ?_⟩
  · cases h with
    | integer h =>
      have hmost := n.toInt_lt
      exact .inl ⟨h, n.le_toInt, by omega⟩
    | true h => exact .inr (.inl ⟨h, rfl⟩)
    | false h => exact .inr (.inr ⟨h, rfl⟩)
  · rintro (⟨h, -⟩ | ⟨h, rfl⟩ | ⟨h, rfl⟩)
    · exact .integer h
    · exact .true h
    · exact .false h
  · cases h with
    | real hinteger h => exact ⟨forall_not_integerLiteral_iff.mp hinteger, h⟩
  · rintro ⟨hinteger, h⟩
    exact .real (forall_not_integerLiteral_iff.mpr hinteger) h
  · cases h with
    | null h => exact h
  · cases h with
    | text hfloat h => exact ⟨rfl, forall_not_integerLiteral hfloat, hfloat, h⟩
  · rintro ⟨rfl, -, hfloat, h⟩
    exact .text hfloat h
  · by_cases hrange : ∃ n : Int64, n.toInt = z
    · obtain ⟨n, rfl⟩ := hrange
      exact .inl ⟨n, rfl, .integer hz⟩
    · -- the text writes no other integer, and it is written as a float, too
      have hinteger : ∀ n : Int64, ¬ IntegerLiteral s.toList n.toInt :=
        fun n hn => hrange ⟨n, hn.unique hz⟩
      obtain ⟨x, hx⟩ := hz.exists_float
      exact .inr ⟨forall_not_integerLiteral_iff.mp hinteger z hz, x, .real hinteger hx⟩
  · exact .integer (Decimal.integerLiteral_toString n.toInt)

/-- The least integer of 64 bits is one, and the one behind the greatest is a float. -/
theorem argument_classified_ends :
    ofArgument "-9223372036854775808" = .integer Int64.minValue ∧
      IntegerLiteral "+9223372036854775808".toList (2 ^ 63) ∧
      ∃ x, ofArgument "+9223372036854775808" = .real x := by
  have hleast : IntegerLiteral "-9223372036854775808".toList Int64.minValue.toInt :=
    Decimal.integer?_eq_some_iff.mp (by decide)
  have hbeyond : IntegerLiteral "+9223372036854775808".toList (2 ^ 63) :=
    Decimal.integer?_eq_some_iff.mp (by decide)
  obtain ⟨hinteger, -⟩ := argument_classified "-9223372036854775808"
  obtain ⟨-, -, -, -, -, hliteral, -⟩ := argument_classified "+9223372036854775808"
  refine ⟨(hinteger _).mpr (.inl ⟨hleast, by decide, by decide⟩), hbeyond, ?_⟩
  rcases hliteral _ hbeyond with ⟨n, hn, -⟩ | ⟨-, hx⟩
  · have hlt := n.toInt_lt
    omega
  · exact hx

end ParamSql.Value
