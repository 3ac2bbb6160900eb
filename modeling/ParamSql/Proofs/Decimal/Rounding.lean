import Mathlib
import ParamSql.Decimal.Reading

/-!
# Rounding and packing of floats

A float that is computed is rounded to 53 bits and then packed into 64.  What is looked at
here is its exponent: rounding moves it up by one at most, and packing keeps what has room.
So a result is finite when its exponent is small enough before it is rounded.

## Main definitions

* `Decimal.Within bound u`: zero, or a number with an exponent up to a bound
* `Decimal.Between low high u`: a number of 53 bits with an exponent between two bounds

## Main results

* `Decimal.within_roundWithAccuracy`, `Decimal.between_roundWithAccuracy`: rounding
* `Decimal.Within.unpack_pack`, `Decimal.Between.unpack_pack`: packing
-/

namespace ParamSql.Decimal

open Float.Model (totalExponent UnpackedFloat)
open Float.Model.UnpackedFloat

/-- The format of 64 bits: 52 of them for the mantissa, without its leading one. -/
abbrev binary64 : Float.Model.Format := .binary64

/-! ## Rounding -/

theorem mantissa_shiftRight (em : ExtendedMantissa) (n : Nat) :
    (em >>> n).mantissa = em.mantissa / 2 ^ n := by
  change (n.repeat ExtendedMantissa.shiftRightOne em).mantissa = _
  induction n with
  | zero => simp [Nat.repeat]
  | succ n ih =>
    rw [Nat.repeat, ExtendedMantissa.shiftRightOne, ih, Nat.div_div_eq_div_mul, Nat.pow_succ]

theorem mantissa_ofMantissaAndAccuracy (m : Nat) (a : Accuracy) :
    (ExtendedMantissa.ofMantissaAndAccuracy m a).mantissa = m := by
  rcases a with _ | _ | _ | _ <;> rfl

/-- Rounding leaves a mantissa or makes it larger by one. -/
theorem roundedMantissa_eq_or (em : ExtendedMantissa) :
    em.roundedMantissa = em.mantissa ∨ em.roundedMantissa = em.mantissa + 1 := by
  rcases em with ⟨m, r, s⟩
  have hmod := Nat.mod_two_eq_zero_or_one m
  cases r <;> cases s
  · exact .inl rfl
  · exact .inl rfl
  · change m + m % 2 = m ∨ m + m % 2 = m + 1
    omega
  · exact .inr rfl

theorem targetExponent_eq (m : Nat) (e : Int) :
    binary64.targetExponent (totalExponent m e) = max (m.log2 + e - 52) (-1074) := by
  simp only [Float.Model.Format.targetExponent, totalExponent, Float.Model.Format.mantissaBits,
    Float.Model.Format.minExponent]
  omega

theorem shiftToTargetExponent_mantissa (m : Nat) (e : Int) (a : Accuracy) :
    (shiftToTargetExponent binary64 m e a).1.mantissa =
      m / 2 ^ (max (m.log2 + e - 52) (-1074) - e).toNat := by
  rw [shiftToTargetExponent, shiftToExponent, mantissa_shiftRight, mantissa_ofMantissaAndAccuracy,
    targetExponent_eq]

theorem shiftToTargetExponent_exponent (m : Nat) (e : Int) (a : Accuracy) :
    (shiftToTargetExponent binary64 m e a).2 = max e (max (m.log2 + e - 52) (-1074)) := by
  rw [shiftToTargetExponent, shiftToExponent, targetExponent_eq]
  simp only
  omega

theorem log2_div_two_pow {m k : Nat} (hm : m ≠ 0) (hk : k ≤ m.log2) :
    (m / 2 ^ k).log2 = m.log2 - k := by
  have hlow : 2 ^ (m.log2 - k) ≤ m / 2 ^ k := by
    rw [Nat.le_div_iff_mul_le (Nat.two_pow_pos k), ← Nat.pow_add, Nat.sub_add_cancel hk]
    exact Nat.log2_self_le hm
  have hne : m / 2 ^ k ≠ 0 := Nat.ne_zero_of_lt (Nat.lt_of_lt_of_le (Nat.two_pow_pos _) hlow)
  have hhigh : m / 2 ^ k < 2 ^ (m.log2 - k + 1) := by
    rw [Nat.div_lt_iff_lt_mul (Nat.two_pow_pos k), ← Nat.pow_add]
    have hsum : m.log2 - k + 1 + k = m.log2 + 1 := by omega
    rw [hsum]
    exact Nat.lt_log2_self
  have hle := (Nat.le_log2 hne).mpr hlow
  have hlt := (Nat.log2_lt hne).mpr hhigh
  omega

/-- Zero, or a number with an exponent up to a bound. -/
inductive Within (bound : Int) : UnpackedFloat → Prop
  | zero {s : Sign} : Within bound (.zero s)
  | finite {s : Sign} {m : Nat} {e : Int} {hm : 0 < m} (he : e ≤ bound) :
      Within bound (.finite s m e hm)

/-- A number whose mantissa has all its bits, with an exponent between two bounds. -/
inductive Between (low high : Int) : UnpackedFloat → Prop
  | finite {s : Sign} {m : Nat} {e : Int} {hm : 0 < m} (hlog : m.log2 = 52) (hlow : low ≤ e)
      (hhigh : e ≤ high) : Between low high (.finite s m e hm)

theorem Within.mono {u : UnpackedFloat} {b c : Int} (h : Within b u) (hbc : b ≤ c) :
    Within c u := by
  cases h with
  | zero => exact .zero
  | finite he => exact .finite (Int.le_trans he hbc)

theorem Between.mono {u : UnpackedFloat} {low high low' high' : Int} (h : Between low high u)
    (hlow : low' ≤ low) (hhigh : high ≤ high') : Between low' high' u := by
  obtain ⟨hlog, hle, hge⟩ := h
  exact .finite hlog (Int.le_trans hlow hle) (Int.le_trans hge hhigh)

/-- The exponent of a number that is rounded once and has its leading digits at the front. -/
def roundedExponent (m : Nat) (e : Int) : Int := max e (max (m.log2 + e - 52) (-1074))

/-- A mantissa that is cut and rounded takes at most one bit more than there are. -/
theorem log2_roundedMantissa_le (m : Nat) (e : Int) (a : Accuracy) :
    (shiftToTargetExponent binary64 m e a).1.roundedMantissa.log2 ≤ 53 := by
  have hcut : (shiftToTargetExponent binary64 m e a).1.mantissa < 2 ^ 53 := by
    rw [shiftToTargetExponent_mantissa, Nat.div_lt_iff_lt_mul (Nat.two_pow_pos _), ← Nat.pow_add]
    refine Nat.lt_of_lt_of_le Nat.lt_log2_self (Nat.pow_le_pow_right (by omega) ?_)
    omega
  have hround := roundedMantissa_eq_or (shiftToTargetExponent binary64 m e a).1
  by_cases hr : (shiftToTargetExponent binary64 m e a).1.roundedMantissa = 0
  · rw [hr]
    decide
  · have hlt := (Nat.log2_lt hr (k := 54)).mpr (by omega)
    omega

/-- **Rounding moves an exponent up by one at most**. -/
theorem within_roundWithAccuracy (s : Sign) (m : Nat) (e : Int) (a : Accuracy) :
    Within (roundedExponent m e + 1) (roundWithAccuracy binary64 s m e a) := by
  have hlog := log2_roundedMantissa_le m e a
  have hfirst := shiftToTargetExponent_exponent m e a
  simp only [roundWithAccuracy]
  split
  · exact .zero
  · refine .finite ?_
    rw [shiftToTargetExponent_exponent, hfirst, roundedExponent]
    omega

/-- **A rounded number begins with its first digit** unless it is tiny. -/
theorem between_roundWithAccuracy (s : Sign) {m : Nat} {e : Int} (a : Accuracy)
    (hm : 52 ≤ m.log2) (he : -1074 ≤ e) :
    Between (m.log2 + e - 52) (m.log2 + e - 51) (roundWithAccuracy binary64 s m e a) := by
  have hm0 : m ≠ 0 := by
    rintro rfl
    exact absurd hm (by decide)
  have hlog := log2_roundedMantissa_le m e a
  have hexponent : (shiftToTargetExponent binary64 m e a).2 = m.log2 + e - 52 := by
    rw [shiftToTargetExponent_exponent]
    omega
  -- the cut mantissa has 53 bits, so the rounded one has 53 or 54
  have hcut : (shiftToTargetExponent binary64 m e a).1.mantissa.log2 = 52 := by
    rw [shiftToTargetExponent_mantissa, log2_div_two_pow hm0 (by omega)]
    omega
  have hcut0 : (shiftToTargetExponent binary64 m e a).1.mantissa ≠ 0 := by
    intro h
    rw [h] at hcut
    exact absurd hcut (by decide)
  have hle := Nat.log2_self_le hcut0
  rw [hcut] at hle
  let r := (shiftToTargetExponent binary64 m e a).1.roundedMantissa
  have hround : r = _ ∨ r = _ := roundedMantissa_eq_or (shiftToTargetExponent binary64 m e a).1
  have hr0 : r ≠ 0 := by omega
  have hr : 52 ≤ r.log2 := (Nat.le_log2 hr0).mpr (by omega)
  have hlast : (r / 2 ^ (max (r.log2 + (m.log2 + e - 52) - 52) (-1074) -
      (m.log2 + e - 52)).toNat).log2 = 52 := by
    rw [log2_div_two_pow hr0 (by omega)]
    omega
  have hlast0 : ¬ r / 2 ^ (max (r.log2 + (m.log2 + e - 52) - 52) (-1074) -
      (m.log2 + e - 52)).toNat = 0 := by
    intro h
    rw [h] at hlast
    exact absurd hlast (by decide)
  simp only [roundWithAccuracy, hexponent, shiftToTargetExponent_mantissa,
    shiftToTargetExponent_exponent]
  rw [dif_neg hlast0]
  exact .finite hlast (by omega) (by omega)

/-! ## Packing -/

theorem within_unpack_packComponents (s : Sign) (x : BitVec 11) (m : BitVec 52)
    (hx : x.toNat < 2047) :
    Within (max x.toNat 1 - 1075) (unpack binary64 (packComponents binary64 s x m)) := by
  have hinfinite : x ≠ -1#11 := by
    rintro rfl
    exact absurd hx (by decide)
  simp only [unpack, unpackMantissa_packComponents, unpackExponent_packComponents,
    if_neg hinfinite, Float.Model.Format.exponentBias]
  split
  · next hzero =>
    have hx0 : x.toNat = 0 := by
      rw [hzero]
      rfl
    split
    · exact .zero
    · exact .finite (by omega)
  · exact .finite (by omega)

/-- The packed exponent of a number is that exponent, or the one of the smallest numbers. -/
theorem pack_finite (s : Sign) (m : Nat) (e : Int) (hm : 0 < m) (he : e ≤ 971) :
    pack binary64 (.finite s m e hm) =
      packComponents binary64 s (if m.log2 = 52 then BitVec.ofNat 11 (e + 1075).toNat else 0)
        (BitVec.ofNat 52 m) := by
  have hbias : (e + (1023 : Nat) + (52 : Nat)).toNat = (e + 1075).toNat := by omega
  change (if 2 ^ 11 ≤ (e + (1023 : Nat) + (52 : Nat)).toNat + 1 then _
    else if m.log2 + 1 = 53 then _ else _) = _
  rw [hbias, if_neg (by omega)]
  by_cases hlog : m.log2 = 52
  · rw [if_pos hlog, if_pos (by omega), ← hbias]
    rfl
  · rw [if_neg hlog, if_neg (by omega)]
    rfl

/-- The leading one of a mantissa stands in front of the bits that are packed. -/
theorem log2_append_one (m : BitVec 52) : (1#1 ++ m).toNat.log2 = 52 := by
  have hvalue : (1#1 ++ m).toNat = 2 ^ 52 + m.toNat := by
    rw [BitVec.toNat_append, Nat.shiftLeft_eq, Nat.mul_comm, ← Nat.two_pow_add_eq_or_of_lt m.isLt]
    rfl
  have hlt := m.isLt
  have hne : (1#1 ++ m).toNat ≠ 0 := by omega
  have hlow := (Nat.le_log2 hne (k := 52)).mpr (by omega)
  have hhigh := (Nat.log2_lt hne (k := 53)).mpr (by omega)
  omega

theorem toNat_packedExponent {e : Int} (he : e ≤ 971) :
    (BitVec.ofNat 11 (e + 1075).toNat).toNat = (e + 1075).toNat := by
  rw [BitVec.toNat_ofNat, Nat.mod_eq_of_lt (by omega)]

/-- What is packed stays below a bound when it is unpacked again. -/
theorem Within.unpack_pack {u : UnpackedFloat} {bound : Int} (h : Within bound u)
    (hlow : -1074 ≤ bound) (hhigh : bound ≤ 971) :
    Within bound (unpack binary64 (pack binary64 u)) := by
  cases h with
  | @zero s => exact (within_unpack_packComponents s 0 0 (by decide)).mono hlow
  | @finite s m e hm he =>
    rw [pack_finite s m e hm (by omega)]
    by_cases hlog : m.log2 = 52
    · rw [if_pos hlog]
      have hx := toNat_packedExponent (e := e) (by omega)
      refine (within_unpack_packComponents s _ _ (by omega)).mono ?_
      omega
    · rw [if_neg hlog]
      exact (within_unpack_packComponents s 0 _ (by decide)).mono hlow

/-- A number with all its bits is packed without a loss. -/
theorem Between.unpack_pack {u : UnpackedFloat} {low high : Int} (h : Between low high u)
    (hlow : -1074 ≤ low) (hhigh : high ≤ 971) :
    Between low high (unpack binary64 (pack binary64 u)) := by
  cases h with
  | @finite s m e hm hlog hle hge =>
    have hx := toNat_packedExponent (e := e) (by omega)
    have hinfinite : BitVec.ofNat 11 (e + 1075).toNat ≠ -1#11 := by
      intro hx'
      rw [hx'] at hx
      have hmax : (-1#11).toNat = 2047 := rfl
      omega
    have hzero : BitVec.ofNat 11 (e + 1075).toNat ≠ 0#11 := by
      intro hx'
      rw [hx'] at hx
      have hmin : (0#11).toNat = 0 := rfl
      omega
    rw [pack_finite s m e hm (by omega), if_pos hlog]
    simp only [unpack, unpackMantissa_packComponents, unpackExponent_packComponents,
      if_neg hinfinite, if_neg hzero, hx]
    refine .finite (log2_append_one (BitVec.ofNat 52 m)) ?_ ?_
    · change low ≤ ((e + 1075).toNat : Int) - ((1023 : Nat) + (52 : Nat))
      omega
    · change ((e + 1075).toNat : Int) - ((1023 : Nat) + (52 : Nat)) ≤ high
      omega

/-- An unpacked mantissa has at most 53 bits. -/
theorem log2_le_of_unpack {b : BitVec 64} {s : Sign} {m : Nat} {e : Int} {hm : 0 < m}
    (h : unpack binary64 b = .finite s m e hm) : m.log2 ≤ 52 := by
  have hlt : m < 2 ^ 53 := by
    simp only [unpack] at h
    split at h
    · split at h <;> cases h
    · split at h
      · split at h
        · cases h
        · injection h with _ hm
          rw [← hm]
          exact Nat.lt_trans (BitVec.isLt _) (by decide)
      · injection h with _ hm
        rw [← hm]
        exact BitVec.isLt _
  have hlog := (Nat.log2_lt (Nat.ne_of_gt hm)).mpr hlt
  omega

end ParamSql.Decimal
