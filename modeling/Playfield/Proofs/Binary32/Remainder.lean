import Playfield.Proofs.Binary32.Rank

/-!
Remainders and magnitudes are exact.

A remainder has digits no finer than those of the two numbers and is smaller than either, so no digit
of it is lost: it is the dividend less a whole multiple of the divisor (`rem_exact`).
-/

namespace Playfield.Binary32

open Float.Model (Format UnpackedFloat totalExponent)
open Float.Model.UnpackedFloat

/-! ### Values that need no rounding -/

theorem shiftRight_zero (n : ℕ) :
    (⟨0, false, false⟩ : ExtendedMantissa) >>> n = ⟨0, false, false⟩ := by
  change n.repeat ExtendedMantissa.shiftRightOne ⟨0, false, false⟩ = _
  induction n with
  | zero => rfl
  | succ n ih => rw [Nat.repeat, ih]; rfl

/-- A mantissa of zero gives a zero with its sign. -/
theorem exact_nearest_zero (s : Sign) (e : ℤ) : exact (nearest s 0 e) = .zero s := by
  have zero : UnpackedFloat.round Format.binary32 s 0 e = .zero s := by
    simp [UnpackedFloat.round, decreaseExponent, roundWithAccuracy, shiftToTargetExponent,
      shiftToExponent, ExtendedMantissa.ofMantissaAndAccuracy, shiftRight_zero,
      ExtendedMantissa.roundedMantissa, ExtendedMantissa.accuracy, Accuracy.roundToNearestEven]
  have packed : nearest s 0 e = ofExact (UnpackedFloat.round Format.binary32 s 0 e) := rfl
  rw [packed, zero, exact_ofExact_zero]

/-- The number for a mantissa and an exponent is their value, rounded. -/
theorem rounds_nearest (s : Sign) (m : ℕ) (e : ℤ) :
    Rounds (signed s (m * 2 ^ e)) (nearest s m e) := by
  rcases Nat.eq_zero_or_pos m with rfl | pos
  · rw [Nat.cast_zero, zero_mul, signed_zero]
    exact .of_zero (exact_nearest_zero s e)
  · exact rounds_round pos

/-- Few digits above the least exponent are all kept. -/
theorem grain_le_of_digits {m : ℕ} {e : ℤ} (digits : m < 2 ^ 24) (low : -149 ≤ e) :
    grain (m * 2 ^ e) ≤ e := by
  rcases Nat.eq_zero_or_pos m with rfl | pos
  · rw [Nat.cast_zero, zero_mul, grain, abs_zero, max_eq_right leastNormal_pos.le, log_leastNormal]
    exact low
  · have most := (Nat.log2_lt pos.ne').mpr digits
    rw [grain_of_pos (mul_two_zpow_pos e pos), log_mul_two_zpow e pos le_rfl (lt_add_one _)]
    omega

/-- A mantissa of at most 24 digits needs no rounding within the exponents of the format. -/
theorem value_nearest {m : ℕ} {e : ℤ} (s : Sign) (digits : m < 2 ^ 24) (low : -149 ≤ e)
    (top : e ≤ 104) :
    (nearest s m e).isFinite ∧ value (nearest s m e) = signed s (m * 2 ^ e) := by
  have rounds := rounds_nearest s m e
  have finite : (nearest s m e).isFinite := by
    refine rounds.isFinite ?_
    have digits : (m : ℝ) ≤ 2 ^ 24 - 1 := by exact_mod_cast (by omega : (m : ℤ) ≤ 2 ^ 24 - 1)
    rw [abs_signed, abs_of_nonneg (by positivity), largest]
    exact mul_le_mul digits (zpow_le_zpow_right₀ one_le_two top) (two_zpow_pos e).le (by norm_num)
  refine ⟨finite, (rounds.near finite).eq_of_whole ?_⟩
  obtain ⟨n, power⟩ := two_zpow_whole (grain_le_of_digits digits low)
  rw [grain_signed, ← signed_apply]
  exact ⟨s.apply m * n, by rw [Int.cast_mul, mul_assoc, ← power]⟩

/-! ### Remainders -/

/-- What is left of a value when whole multiples of a divisor are taken away: less than the divisor,
and on the side of zero where the value is. -/
structure Remainder (r x y : ℝ) : Prop where
  whole : ∃ n : ℤ, r = x - n * y
  less : |r| < |y|
  side : 0 ≤ x * r

/-- The whole part of a division of naturals, with signs and a common power of two. -/
theorem remainder_signed {d k : ℕ} (s t : Sign) (g : ℤ) (pos : 0 < k) :
    Remainder (signed s ((d % k : ℕ) * 2 ^ g)) (signed s (d * 2 ^ g)) (signed t (k * 2 ^ g)) where
  whole := by
    have split : (d : ℝ) = (d % k : ℕ) + k * (d / k : ℕ) := by
      exact_mod_cast (Nat.mod_add_div d k).symm
    refine ⟨(s * t).apply (d / k : ℕ), ?_⟩
    generalize d / k = q at split ⊢
    rw [split]
    cases s <;> cases t <;> simp [signed, Sign.apply] <;> ring
  less := by
    have below : ((d % k : ℕ) : ℝ) < k := by exact_mod_cast Nat.mod_lt d pos
    rw [abs_signed, abs_signed, abs_of_nonneg (by positivity), abs_of_nonneg (by positivity)]
    exact mul_lt_mul_of_pos_right below (two_zpow_pos g)
  side := by
    rw [← signed_mul]
    cases s <;> exact mul_nonneg (by positivity) (by positivity)

/-- The remainder of one finite number by another is exact. -/
theorem rem_exact {x y : Float32} (finite : x.isFinite) (finite' : y.isFinite)
    (divisor : value y ≠ 0) :
    (rem x y).isFinite ∧ Remainder (value (rem x y)) (value x) (value y) := by
  obtain ⟨t, held'⟩ | ⟨t, n, f, pos', held', form', top'⟩ := finite_cases finite'
  · exact absurd (value_of_zero held') divisor
  obtain ⟨s, held⟩ | ⟨s, m, e, pos, held, form, top⟩ := finite_cases finite
  · have same : rem x y = x := by rw [rem, held, held']
    rw [same, value_of_zero held]
    exact ⟨finite, ⟨0, by simp⟩, by simpa using abs_pos.mpr divisor, by simp⟩
  · -- Both numbers as multiples of the finer of their last digits.
    have result : rem x y = nearest s ((m <<< (e - Min.min e f).toNat) %
        (n <<< (f - Min.min e f).toNat)) (Min.min e f) := by
      rw [rem, held, held']
    have place : Min.min e f = e - (e - Min.min e f).toNat := by omega
    have place' : Min.min e f = f - (f - Min.min e f).toNat := by omega
    have left : value x = signed s ((m <<< (e - Min.min e f).toNat : ℕ) * 2 ^ Min.min e f) := by
      rw [value_of_exact held, ← shiftLeft_mul_zpow m (e - Min.min e f).toNat e, ← place]
    have right : value y = signed t ((n <<< (f - Min.min e f).toNat : ℕ) * 2 ^ Min.min e f) := by
      rw [value_of_exact held', ← shiftLeft_mul_zpow n (f - Min.min e f).toNat f, ← place']
    -- The remainder is no larger than the mantissa that needs no shift, and so needs no rounding.
    have digits : (m <<< (e - Min.min e f).toNat) % (n <<< (f - Min.min e f).toNat) < 2 ^ 24 := by
      rcases le_total e f with finer | coarser
      · have none : (e - Min.min e f).toNat = 0 := by omega
        rw [none]
        exact (Nat.mod_le m _).trans_lt form.digits
      · have none : (f - Min.min e f).toNat = 0 := by omega
        rw [none]
        exact (Nat.mod_lt _ pos').trans form'.digits
    obtain ⟨bounded, kept⟩ := value_nearest s digits (le_min form.low form'.low)
      ((min_le_left e f).trans top)
    rw [result, kept, left, right]
    exact ⟨bounded, remainder_signed s t _ (shiftLeft_pos _ pos')⟩

/-! ### Magnitudes -/

theorem exact_abs (x : Float32) : exact x.abs = (exact x).abs := by
  have turned : x.abs = ofExact (exact x).abs := rfl
  rw [turned]
  cases held : exact x with
  | notANumber => exact exact_ofExact_notANumber
  | infinity s => exact exact_ofExact_infinity _
  | zero s => exact exact_ofExact_zero _
  | finite s m e pos =>
    obtain ⟨form, top⟩ := form_of_exact held
    exact (exact_ofExact_finite pos form).trans (if_neg (by omega))

theorem isFinite_abs {x : Float32} (finite : x.isFinite) : x.abs.isFinite := by
  rw [isFinite_eq] at finite ⊢
  rw [exact_abs]
  cases held : exact x with
  | zero | finite => rfl
  | infinity | notANumber =>
    rw [held] at finite
    cases finite

/-- The value of a magnitude is the magnitude of the value. -/
theorem value_abs (x : Float32) : value x.abs = |value x| := by
  rw [value, value, exact_abs]
  cases exact x with
  | finite s m e pos =>
    change signed .positive (m * 2 ^ e) = |signed s (m * 2 ^ e)|
    rw [abs_signed, abs_of_pos (mul_two_zpow_pos e pos), signed]
  | zero | infinity | notANumber => simp [UnpackedFloat.abs]

end Playfield.Binary32
