import ParamSql.Proofs.Decimal.Rounding

/-!
# Reading decimals gives finite floats

A decimal is read by scaling 64 bits with tabled powers of ten.  A product that has no room
becomes infinite, and the reader refuses it; a quotient is never larger than its dividend.
So what is read is always finite.

## Main definitions

* `Decimal.Below bound x`: a float that is zero, or a number with an exponent up to a bound

## Main results

* `Decimal.Below.isFinite`: such floats are finite
* `Decimal.below_ofNat`: natural numbers of 64 bits
* `Decimal.below_stepwise`: decimals that are scaled step by step
-/

namespace ParamSql.Decimal

open Float.Model (totalExponent UnpackedFloat)
open Float.Model.UnpackedFloat

theorem Between.within {u : UnpackedFloat} {low high : Int} (h : Between low high u) :
    Within high u := by
  obtain ⟨-, -, hhigh⟩ := h
  exact .finite hhigh

/-! ## Operations -/

theorem Within.neg {u : UnpackedFloat} {bound : Int} (h : Within bound u) : Within bound u.neg := by
  cases h with
  | zero => exact .zero
  | finite he => exact .finite he

theorem log2_shiftLeft {m : Nat} (hm : m ≠ 0) (k : Nat) : (m <<< k).log2 = m.log2 + k := by
  have hlow := Nat.log2_self_le hm
  have hhigh := Nat.lt_log2_self (n := m)
  have hne : m * 2 ^ k ≠ 0 := Nat.mul_ne_zero hm (Nat.ne_of_gt (Nat.two_pow_pos k))
  rw [Nat.shiftLeft_eq, Nat.log2_eq_iff hne, Nat.add_right_comm, Nat.pow_add, Nat.pow_add]
  exact ⟨Nat.mul_le_mul_right _ hlow, Nat.mul_lt_mul_of_pos_right hhigh (Nat.two_pow_pos k)⟩

/-- A quotient has as many bits as the dividend has more than the divisor, or none. -/
theorem log2_div_le (m : Nat) {n : Nat} (hn : n ≠ 0) : (m / n).log2 ≤ m.log2 - n.log2 := by
  by_cases hzero : m / n = 0
  · rw [hzero]
    exact Nat.zero_le _
  · refine Nat.le_of_lt_succ ((Nat.log2_lt hzero).mpr ?_)
    rw [Nat.div_lt_iff_lt_mul (Nat.pos_of_ne_zero hn)]
    calc m < 2 ^ (m.log2 + 1) := Nat.lt_log2_self
      _ ≤ 2 ^ (m.log2 - n.log2 + 1 + n.log2) := Nat.pow_le_pow_right (by omega) (by omega)
      _ = 2 ^ (m.log2 - n.log2 + 1) * 2 ^ n.log2 := Nat.pow_add ..
      _ ≤ 2 ^ (m.log2 - n.log2 + 1) * n := Nat.mul_le_mul_left _ (Nat.log2_self_le hn)

/-- The exponent of a quotient is less than that of the dividend when the divisor has 53 bits and
is not small. -/
theorem roundedExponent_divCore_lt {m₁ m₂ : Nat} {e₁ e₂ bound : Int} (hm₁ : m₁ ≠ 0)
    (hm₂ : m₂ ≠ 0) (hlog₁ : m₁.log2 ≤ 52) (hlog₂ : m₂.log2 = 52) (he₁ : e₁ ≤ bound)
    (he₂ : -51 ≤ e₂) (hbound : -1073 ≤ bound) :
    roundedExponent (divCore binary64 m₁ e₁ m₂ e₂).1 (divCore binary64 m₁ e₁ m₂ e₂).2.1 <
      bound := by
  let target : Int := min (e₁ - e₂) (max (m₁.log2 + 1 + e₁ - (m₂.log2 + 1 + e₂) - 53) (-1074))
  have hquotient : (divCore binary64 m₁ e₁ m₂ e₂).1 = (m₁ <<< (e₁ - e₂ - target).toNat) / m₂ := rfl
  have htarget : (divCore binary64 m₁ e₁ m₂ e₂).2.1 = target := rfl
  have hlog := log2_div_le (m₁ <<< (e₁ - e₂ - target).toNat) hm₂
  rw [log2_shiftLeft hm₁] at hlog
  rw [hquotient, htarget, roundedExponent]
  omega

/-- A quotient is no larger than its dividend when the divisor is a number of 53 bits that is
not small. -/
theorem Within.div {u v : UnpackedFloat} {bound high : Int} (hu : Within bound u)
    (hv : Between (-51) high v) (hbound : -1073 ≤ bound)
    (hbits : ∀ s m e hm, u = .finite s m e hm → m.log2 ≤ 52) :
    Within bound (div binary64 u v) := by
  obtain ⟨hlog₂, he₂, -⟩ := hv
  next s₂ m₂ e₂ hm₂ =>
    cases hu with
    | zero => exact .zero
    | @finite s₁ m₁ e₁ hm₁ he₁ =>
      have hlt := roundedExponent_divCore_lt (Nat.ne_of_gt hm₁) (Nat.ne_of_gt hm₂)
        (hbits s₁ m₁ e₁ hm₁ rfl) hlog₂ he₁ he₂ hbound
      exact (within_roundWithAccuracy _ _ _ _).mono hlt

/-- A number that is not infinite when it is packed has an exponent that has room. -/
theorem Within.of_pack {u : UnpackedFloat} {bound : Int} (h : Within bound u)
    (hfinite : (unpack binary64 (pack binary64 u)).isInf = false) :
    Within 971 (unpack binary64 (pack binary64 u)) := by
  cases h with
  | zero => exact Within.zero.unpack_pack (by decide) (by decide)
  | @finite s m e hm _ =>
    by_cases he : e ≤ 971
    · exact (Within.finite he).unpack_pack (by decide) (by decide)
    · have hpack : pack binary64 (.finite s m e hm) = packedInfinity binary64 s := by
        change (if 2 ^ 11 ≤ (e + (1023 : Nat) + (52 : Nat)).toNat + 1 then _ else _) = _
        rw [if_pos (by omega)]
      rw [hpack] at hfinite
      cases s <;> cases hfinite

/-- A product of numbers is a number, as large as it may be. -/
theorem within_mul {u v : UnpackedFloat} {b c : Int} (hu : Within b u) (hv : Within c v) :
    ∃ bound, Within bound (mul binary64 u v) := by
  cases hu with
  | zero =>
    cases hv with
    | zero => exact ⟨0, .zero⟩
    | finite he => exact ⟨0, .zero⟩
  | finite hu =>
    cases hv with
    | zero => exact ⟨0, .zero⟩
    | finite hv => exact ⟨_, within_roundWithAccuracy _ _ _ _⟩

instance (low high : Int) : (u : UnpackedFloat) → Decidable (Between low high u)
  | .finite _ m e _ =>
    decidable_of_iff (m.log2 = 52 ∧ low ≤ e ∧ e ≤ high)
      ⟨fun ⟨hlog, hlow, hhigh⟩ => .finite hlog hlow hhigh,
        fun ⟨hlog, hlow, hhigh⟩ => ⟨hlog, hlow, hhigh⟩⟩
  | .zero _ => isFalse nofun
  | .infinity _ => isFalse nofun
  | .notANumber => isFalse nofun

/-! ## Natural numbers -/

/-- A natural number of 64 bits. -/
theorem within_ofNat {n : Nat} (hn : n < 2 ^ 64) : Within 12 (ofNat binary64 n) := by
  cases n with
  | zero => exact .zero
  | succ n =>
    let target : Int := max ((n + 1).log2 + 1 + 0 - 53) (-1074)
    have hround : ofNat binary64 (n + 1) = roundWithAccuracy binary64 .positive
      ((n + 1) <<< (0 - target).toNat) (0 - (0 - target).toNat) .exact := rfl
    have hlog := (Nat.log2_lt (Nat.succ_ne_zero n)).mpr hn
    rw [hround]
    refine (within_roundWithAccuracy _ _ _ _).mono ?_
    rw [roundedExponent, log2_shiftLeft (Nat.succ_ne_zero n)]
    omega

/-- Decimals with no fraction are computed exactly and rounded once. -/
theorem ofScientific_eq {n k : Nat} (hn : n ≠ 0) (hk : k ≤ 308) :
    ofScientific binary64 n k =
      roundWithAccuracy binary64 .positive ((n * 10 ^ k) <<< 53) (-53) .exact := by
  have hshift : (n * 10 ^ k) <<< 53 = (n <<< 53) * 10 ^ k := by
    rw [Nat.shiftLeft_eq, Nat.shiftLeft_eq, Nat.mul_right_comm]
  rw [hshift, ofScientific, dif_neg hn, if_neg, if_neg, if_pos]
  · rfl
  · exact Int.natCast_nonneg k
  · change ¬ (k : Int) < -(2 ^ 11 + (n.log2 : Int))
    omega
  · change ¬ (k : Int) > 2 ^ 11
    omega

/-- Ten to the 31 is just below two to the 103. -/
theorem ten_pow_lt (q : Nat) : 10 ^ (31 * q + 28) < 2 ^ (103 * q + 94) := by
  rw [Nat.pow_add, Nat.pow_mul, Nat.pow_add, Nat.pow_mul]
  exact Nat.mul_lt_mul_of_le_of_lt (Nat.pow_le_pow_left (by decide) q) (by decide)
    (Nat.pow_pos (by decide))

theorem log2_ten_pow_lt {k q : Nat} (hk : k ≤ 31 * q + 28) : (10 ^ k).log2 < 103 * q + 94 := by
  have hne : 10 ^ k ≠ 0 := Nat.ne_of_gt (Nat.pow_pos (by decide))
  have hpow : 10 ^ k ≤ 10 ^ (31 * q + 28) := Nat.pow_le_pow_right (by decide) hk
  exact (Nat.log2_lt hne).mpr (Nat.lt_of_le_of_lt hpow (ten_pow_lt q))

/-- Powers of ten have 53 bits, but for the largest of them. -/
theorem between_tenTo {k : Nat} (hk : k ≤ 307) :
    Between ((10 ^ k).log2 - 52) 971 (ofScientific binary64 1 k) := by
  have hne : 10 ^ k ≠ 0 := Nat.ne_of_gt (Nat.pow_pos (by decide))
  have hlog : (10 ^ k).log2 < 103 * 9 + 94 := log2_ten_pow_lt hk
  have hbetween := between_roundWithAccuracy .positive (m := 10 ^ k <<< 53) (e := -53) .exact
  rw [log2_shiftLeft hne] at hbetween
  rw [ofScientific_eq (by decide) (by omega), Nat.one_mul]
  exact (hbetween (by omega) (by decide)).mono (by omega) (by omega)

/-! ## Floats -/

/-- A float that is zero, or a number with an exponent up to a bound. -/
def Below (bound : Int) (x : Float) : Prop := Within bound x.toModel.unpack

theorem Below.isFinite {x : Float} {bound : Int} (h : Below bound x) : x.isFinite = true := by
  change x.toModel.unpack.isFinite = true
  cases hu : x.toModel.unpack with
  | finite s m e hm => rfl
  | zero s => rfl
  | _ =>
    rw [Below, hu] at h
    cases h

theorem Below.mono {x : Float} {b c : Int} (h : Below b x) (hbc : b ≤ c) : Below c x :=
  Within.mono h hbc

theorem Below.neg {x : Float} {bound : Int} (h : Below bound x) (hlow : -1074 ≤ bound)
    (hhigh : bound ≤ 971) : Below bound (-x) :=
  Within.unpack_pack (Within.neg h) hlow hhigh

/-- The tabled powers of ten have 53 bits. -/
theorem between_floatTenTo {k : Nat} (hk : k ≤ 308) :
    Between ((10 ^ k).log2 - 52) 971 (floatTenTo k).toModel.unpack := by
  have hsmall : ∀ k < 23, Between ((10 ^ k).log2 - 52) 971 (floatTenTo k).toModel.unpack := by
    decide +kernel
  have hlarge : Between ((10 ^ 308).log2 - 52) 971 (floatTenTo 308).toModel.unpack := by
    decide +kernel
  by_cases h23 : k < 23
  · exact hsmall k h23
  · rcases Nat.lt_or_eq_of_le hk with hlt | rfl
    · have hten : floatTenTo k = .ofModel (.ofScientific 1 k) := by
        rw [floatTenTo, Float.ofScientific, dif_neg (by omega)]
        rfl
      rw [hten]
      exact (between_tenTo (by omega)).unpack_pack (by omega) (by decide)
    · exact hlarge

theorem below_floatTenTo {k : Nat} (hk : k ≤ 308) : Below 971 (floatTenTo k) :=
  (between_floatTenTo hk).within

theorem between_divisor {k : Nat} (hk : 0 < k) (hk' : k ≤ 308) :
    Between (-51) 971 (floatTenTo k).toModel.unpack := by
  have hten : 10 ^ 1 ≤ 10 ^ k := Nat.pow_le_pow_right (by decide) hk
  have hlog : 1 ≤ (10 ^ k).log2 := (Nat.le_log2 (by omega)).mpr (by omega)
  exact (between_floatTenTo hk').mono (by omega) (by decide)

theorem Below.div {x y : Float} {bound : Int} (hx : Below bound x)
    (hy : Between (-51) 971 y.toModel.unpack) (hlow : -1073 ≤ bound) (hhigh : bound ≤ 971) :
    Below bound (x / y) := by
  refine Within.unpack_pack (Within.div hx hy hlow ?_) (by omega) hhigh
  intro s m e hm h
  exact log2_le_of_unpack h

theorem Below.mul {x y : Float} {b c : Int} (hx : Below b x) (hy : Below c y)
    (hfinite : (x * y).isInf = false) : Below 971 (x * y) := by
  obtain ⟨bound, h⟩ := within_mul hx hy
  exact Within.of_pack h hfinite

theorem below_toFloat (n : UInt64) : Below 12 n.toFloat :=
  Within.unpack_pack (within_ofNat n.toNat_lt) (by decide) (by decide)

theorem below_ofNat {n : Nat} (hlow : 2 ^ 53 ≤ n) (hhigh : n < 2 ^ 64) :
    Below 12 (Float.ofNat n) := by
  have hn : n ≠ 0 := by omega
  have hof : Float.ofNat n = .ofModel (.ofScientific n 0) := by
    change Float.ofScientific n false 0 = _
    rw [Float.ofScientific, dif_neg (by omega)]
    rfl
  have hlog := (Nat.log2_lt hn).mpr hhigh
  rw [hof]
  refine Within.unpack_pack (u := ofScientific binary64 n (0 : Nat)) ?_ (by decide) (by decide)
  rw [ofScientific_eq hn (by decide), Nat.pow_zero, Nat.mul_one]
  refine (within_roundWithAccuracy _ _ _ _).mono ?_
  rw [roundedExponent, log2_shiftLeft hn]
  omega

theorem below_divideByTenTo {x : Float} {k : Nat} {bound : Int} (hx : Below bound x) (hk : 0 < k)
     (hlow : -1073 ≤ bound) (hhigh : bound ≤ 971) : Below bound (divideByTenTo x k) := by
  fun_induction divideByTenTo x k with
  | case1 x k h => exact hx.div (between_divisor hk h) hlow hhigh
  | case2 x k h hzero => exact hx
  | case3 x k h hzero ih =>
    have hten := between_divisor (k := 308) (by decide) (by decide)
    exact ih (hx.div hten hlow hhigh) (by omega)

/-- **Scaling stays finite**: the reader never makes an infinite float or none. -/
theorem below_stepwise {negative : Bool} {significand : UInt64} {exponent : Int} {x : Float}
    (h : stepwise negative significand exponent = some x) : Below 971 x := by
  have hn := below_toFloat significand
  obtain ⟨y, hy, rfl⟩ := Option.map_eq_some_iff.mp h
  have hscaled : Below 971 y := by
    split at hy
    · next hneg =>
      cases hy
      exact (below_divideByTenTo hn (by omega) (by decide) (by decide)).mono (by decide)
    · split at hy
      · next hpos hle =>
        dsimp only at hy
        split at hy
        · cases hy
        · next hinf =>
          cases hy
          exact hn.mul (below_floatTenTo (by omega)) (Bool.eq_false_iff.mpr hinf)
      · split at hy
        · cases hy
          exact hn.mono (by decide)
        · cases hy
  cases negative with
  | true => exact hscaled.neg (by decide) (by decide)
  | false => exact hscaled

end ParamSql.Decimal
