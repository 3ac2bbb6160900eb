import Mathlib
import ParamSql.Failure
import ParamSql.Proofs.Decimal.Literal

/-!
# Violated constraints

The code of an objection is a text.  It says that a constraint was violated if it writes an
integer that 32 bits hold and whose low byte is the one of constraints.  The byte is cut out of a
word in two's complement; it is the residue of the integer modulo 256, also below zero.  A text that
writes no such integer counts as zero, whose low byte is another one.

## Main definitions

* `Failure.CodesConstraint`: the code is that of a violated constraint

## Main results

* `Failure.toInt_and_byte`: the low byte of a word is a residue
* `Failure.isConstraintCode_codeOf`: a code says that a constraint was violated
* `Failure.objection_classified`: what an objection of a database means
-/

namespace ParamSql.Failure

open Decimal (IntegerLiteral)

variable {code : Option String}

/-! ## The low byte -/

/-- **The low byte of a word is its residue**, whatever its sign. -/
theorem toInt_and_byte (n : Int32) : (n &&& 0xff).toInt = n.toInt % 256 := by
  have hbyte : (n.toBitVec &&& 0xff#32).toNat = n.toBitVec.toNat % 256 := by
    rw [BitVec.toNat_and]
    exact Nat.and_two_pow_sub_one_eq_mod _ 8
  have hsmall : (n.toBitVec &&& 0xff#32).toInt = ((n.toBitVec &&& 0xff#32).toNat : ℤ) :=
    BitVec.toInt_eq_toNat_of_lt (by omega)
  -- below zero a word stands for 2 ^ 32 less, which is a multiple of 256
  have hword : n.toBitVec.toInt % 256 = n.toBitVec.toNat % 256 := by
    rw [BitVec.toInt_eq_toNat_cond]
    split <;> omega
  calc (n &&& 0xff).toInt = ((n.toBitVec &&& 0xff#32).toNat : ℤ) := hsmall
    _ = n.toBitVec.toNat % 256 := by rw [hbyte, Int.natCast_emod]; rfl
    _ = n.toInt % 256 := hword.symm

theorem isConstraintCode_iff {n : Int32} : isConstraintCode n = true ↔ n.toInt % 256 = 19 := by
  rw [isConstraintCode, beq_iff_eq, ← Int32.toInt_inj, toInt_and_byte]
  rfl

/-! ## Codes -/

/-- The code writes an integer that 32 bits hold and whose residue modulo 256 is 19. -/
def CodesConstraint (code : Option String) : Prop :=
  ∃ s z, code = some s ∧ IntegerLiteral s.toList z ∧ -2 ^ 31 ≤ z ∧ z ≤ 2 ^ 31 - 1 ∧ z % 256 = 19

theorem toInt_codeOf {s : String} {z : ℤ} (h : IntegerLiteral s.toList z) (hleast : -2 ^ 31 ≤ z)
    (hmost : z ≤ 2 ^ 31 - 1) : (codeOf (some s)).toInt = z := by
  have hread : Decimal.integerWithin? 32 s.toList = some z :=
    Decimal.integerWithin?_eq_some_iff.mpr ⟨h, hleast, by omega⟩
  rw [codeOf, Option.bind_some, hread]
  exact Int32.toInt_ofInt_of_le hleast (by omega)

/-- A code that is missing, is no integer or is one beyond 32 bits counts as zero. -/
theorem codeOf_eq_zero
    (h : ∀ s z, code = some s → IntegerLiteral s.toList z → -2 ^ 31 ≤ z → ¬ z ≤ 2 ^ 31 - 1) :
    codeOf code = 0 := by
  have hread : (code.bind fun s => Decimal.integerWithin? 32 s.toList) = none := by
    refine Option.eq_none_iff_forall_ne_some.mpr fun z hz => ?_
    obtain ⟨s, hs, hz⟩ := Option.bind_eq_some_iff.mp hz
    obtain ⟨hliteral, hleast, hmost⟩ := Decimal.integerWithin?_eq_some_iff.mp hz
    exact h s z hs hliteral hleast (by omega)
  rw [codeOf, hread]
  rfl

/-- **A code says that a constraint was violated** exactly if it is one of violated constraints. -/
theorem isConstraintCode_codeOf : isConstraintCode (codeOf code) = true ↔ CodesConstraint code := by
  rw [isConstraintCode_iff]
  constructor
  · intro h
    by_contra hcode
    rw [codeOf_eq_zero] at h
    · exact absurd h (by decide)
    · rintro s z rfl hz hleast hmost
      rw [toInt_codeOf hz hleast hmost] at h
      exact hcode ⟨s, z, rfl, hz, hleast, hmost, h⟩
  · rintro ⟨s, z, rfl, hz, hleast, hmost, hbyte⟩
    rwa [toInt_codeOf hz hleast hmost]

/-! ## Objections of a database -/

section Objections

variable (message : String)

theorem toQueryError_of_codesConstraint (h : CodesConstraint code) :
    toQueryError (.database code message) = .constraint message := by
  rw [toQueryError, if_pos (isConstraintCode_codeOf.mpr h)]

theorem toQueryError_of_not_codesConstraint (h : ¬ CodesConstraint code) :
    toQueryError (.database code message) = .statement message := by
  rw [toQueryError, if_neg (mt isConstraintCode_codeOf.mp h)]

theorem toQueryError_eq_constraint_iff :
    toQueryError (.database code message) = .constraint message ↔ CodesConstraint code := by
  refine ⟨fun h => ?_, toQueryError_of_codesConstraint message⟩
  by_contra hcode
  rw [toQueryError_of_not_codesConstraint message hcode] at h
  cases h

theorem toQueryError_eq_statement_iff :
    toQueryError (.database code message) = .statement message ↔ ¬ CodesConstraint code := by
  refine ⟨fun h hcode => ?_, toQueryError_of_not_codesConstraint message⟩
  rw [toQueryError_of_codesConstraint message hcode] at h
  cases h

end Objections

/-- The codes of violated constraints are those of 32 bits that are 19 and a multiple of 256. -/
theorem codesConstraint_some_iff {s : String} {z : ℤ} (h : IntegerLiteral s.toList z) :
    CodesConstraint (some s) ↔ (∃ k, z = 19 + 256 * k) ∧ -2 ^ 31 ≤ z ∧ z ≤ 2 ^ 31 - 1 := by
  have hresidue : z % 256 = 19 ↔ ∃ k, z = 19 + 256 * k := by
    constructor
    · intro hz
      exact ⟨z / 256, by omega⟩
    · rintro ⟨k, rfl⟩
      omega
  constructor
  · rintro ⟨_, y, ⟨⟩, hy, hleast, hmost, hbyte⟩
    obtain rfl := hy.unique h
    exact ⟨hresidue.mp hbyte, hleast, hmost⟩
  · rintro ⟨hk, hleast, hmost⟩
    exact ⟨s, z, rfl, h, hleast, hmost, hresidue.mpr hk⟩

/-- **What an objection of a database means.**  Whatever the message, it means a violated
constraint if the code is an optional sign in front of digits whose value 32 bits with a sign hold
and has the residue 19 modulo 256, and a refused statement otherwise.  So the codes
`19 + 256 * k` of 32 bits mean a violated constraint, no others do, and neither does one that is
too large. -/
theorem objection_classified (code : Option String) (message : String) :
    (toQueryError (.database code message) = .constraint message ↔
      ∃ s z, code = some s ∧ IntegerLiteral s.toList z ∧ -2 ^ 31 ≤ z ∧ z ≤ 2 ^ 31 - 1 ∧
        z % 256 = 19) ∧
    (toQueryError (.database code message) = .statement message ↔
      ¬ ∃ s z, code = some s ∧ IntegerLiteral s.toList z ∧ -2 ^ 31 ≤ z ∧ z ≤ 2 ^ 31 - 1 ∧
        z % 256 = 19) ∧
    ∀ (s : String) (z : ℤ), IntegerLiteral s.toList z →
      (toQueryError (.database (some s) message) = .constraint message ↔
        (∃ k, z = 19 + 256 * k) ∧ -2 ^ 31 ≤ z ∧ z ≤ 2 ^ 31 - 1) ∧
      (2 ^ 31 - 1 < z → toQueryError (.database (some s) message) = .statement message) := by
  refine ⟨toQueryError_eq_constraint_iff message, toQueryError_eq_statement_iff message,
    fun s z hz => ⟨?_, fun hlarge => ?_⟩⟩
  · rw [toQueryError_eq_constraint_iff, codesConstraint_some_iff hz]
  · rw [toQueryError_eq_statement_iff, codesConstraint_some_iff hz]
    rintro ⟨-, -, hmost⟩
    omega

/-- A code below zero has the byte of constraints, and one that is too large has not, though its
residue is the same. -/
theorem objection_classified_negative :
    IntegerLiteral "-237".toList (19 + 256 * (-1)) ∧
      toQueryError (.database (some "-237") "m") = .constraint "m" ∧
      IntegerLiteral "2147483667".toList (19 + 256 * 8388608) ∧
      toQueryError (.database (some "2147483667") "m") = .statement "m" := by
  have hnegative : IntegerLiteral "-237".toList (19 + 256 * (-1)) :=
    Decimal.integer?_eq_some_iff.mp (by decide)
  have hlarge : IntegerLiteral "2147483667".toList (19 + 256 * 8388608) :=
    Decimal.integer?_eq_some_iff.mp (by decide)
  obtain ⟨-, -, hcodes⟩ := objection_classified none "m"
  exact ⟨hnegative, (hcodes _ _ hnegative).1.mpr ⟨⟨-1, rfl⟩, by decide, by decide⟩, hlarge,
    (hcodes _ _ hlarge).2 (by decide)⟩

end ParamSql.Failure
