import Playfield.Proofs.Binary32.Canonical

/-!
Rounding to the nearest number.

A rounding starts from some digits of a value and the part of one unit that lies above them
(`Locates`). It keeps 24 digits, or those down to the least exponent (`grain`), and gives the number
nearest to the value, or infinity for a value beyond the largest number
(`rounds_roundWithAccuracy`). What is nearest differs from the value by a small part of it
(`Nearest.error`), and rounding crosses no number (`Nearest.le_of_le`).
-/

namespace Playfield.Binary32

open Float.Model (Format UnpackedFloat totalExponent)
open Float.Model.UnpackedFloat

/-! ### Where a value lies -/

/-- A value lies in the unit above `m` where an accuracy says. -/
def Locates (x : ℝ) (m : ℕ) : Accuracy → Prop
  | .exact => x = m
  | .inexact .lt => m < x ∧ x + x < m + m + 1
  | .inexact .eq => x + x = m + m + 1
  | .inexact .gt => m + m + 1 < x + x ∧ x < m + 1

namespace Locates

variable {x : ℝ} {m : ℕ} {a : Accuracy}

theorem bounds (h : Locates x m a) : (m : ℝ) ≤ x ∧ x < m + 1 := by
  match a with
  | .exact => exact ⟨h.ge, by linarith [h.le]⟩
  | .inexact .lt => exact ⟨h.1.le, by linarith [h.2]⟩
  | .inexact .eq => exact ⟨by linarith [h.ge], by linarith [h.le]⟩
  | .inexact .gt => exact ⟨by linarith [h.1], h.2⟩

/-- Rounding goes to the nearer end of the unit. -/
theorem near (h : Locates x m a) : |(a.roundToNearestEven m : ℝ) - x| ≤ 1 / 2 := by
  rw [abs_le]
  match a with
  | .exact =>
    have low : x = m := h
    simp only [Accuracy.roundToNearestEven]
    constructor <;> linarith
  | .inexact .lt =>
    simp only [Accuracy.roundToNearestEven]
    constructor <;> linarith [h.1, h.2]
  | .inexact .eq =>
    have half : x + x = m + m + 1 := h
    have odd : ((m % 2 : ℕ) : ℝ) ≤ 1 := by exact_mod_cast Nat.le_of_lt_succ (Nat.mod_lt m two_pos)
    have even := Nat.cast_nonneg (α := ℝ) (m % 2)
    simp only [Accuracy.roundToNearestEven]
    push_cast
    constructor <;> linarith
  | .inexact .gt =>
    simp only [Accuracy.roundToNearestEven]
    push_cast
    constructor <;> linarith [h.1, h.2]

/-- Dropping the last digit of the mantissa keeps the location of what is left. -/
theorem shiftRightOne {em : ExtendedMantissa} (h : Locates x em.mantissa em.accuracy) :
    Locates (x / 2) em.shiftRightOne.mantissa em.shiftRightOne.accuracy := by
  obtain ⟨m, round, sticky⟩ := em
  obtain ⟨half, rfl | rfl⟩ := Nat.even_or_odd' m
  · cases round <;> cases sticky <;>
      simp_all [ExtendedMantissa.shiftRightOne, ExtendedMantissa.accuracy, Locates] <;>
      (try constructor) <;> linarith
  · have cut : (2 * half + 1) / 2 = half := by omega
    cases round <;> cases sticky <;>
      simp_all [ExtendedMantissa.shiftRightOne, ExtendedMantissa.accuracy, Locates] <;>
      (try constructor) <;> linarith

/-- A shifted mantissa locates the value divided by the power of two. -/
theorem shiftRight {em : ExtendedMantissa} (h : Locates x em.mantissa em.accuracy) (n : ℕ) :
    Locates (x / 2 ^ n) (em >>> n).mantissa (em >>> n).accuracy := by
  change Locates _ (n.repeat ExtendedMantissa.shiftRightOne em).mantissa
    (n.repeat ExtendedMantissa.shiftRightOne em).accuracy
  induction n with
  | zero => simpa [Nat.repeat] using h
  | succ n ih =>
    rw [pow_succ, ← div_div]
    exact ih.shiftRightOne

/-- A mantissa with its accuracy locates the same value when it is extended. -/
theorem ofMantissaAndAccuracy (h : Locates x m a) :
    Locates x (ExtendedMantissa.ofMantissaAndAccuracy m a).mantissa
      (ExtendedMantissa.ofMantissaAndAccuracy m a).accuracy := by
  match a with
  | .exact | .inexact .lt | .inexact .eq | .inexact .gt => exact h

/-- The first shift of a rounding brings a value to its last digit. -/
theorem shiftToExponent (h : Locates x m a) {e t : ℤ} (room : e ≤ t) :
    (shiftToExponent m e a t).2 = t ∧
      Locates (x * 2 ^ e / 2 ^ t) (shiftToExponent m e a t).1.mantissa
        (shiftToExponent m e a t).1.accuracy := by
  obtain ⟨n, rfl⟩ := Int.le.dest room
  have shift : (e + n - e).toNat = n := by omega
  have scale : x * 2 ^ e / 2 ^ (e + n : ℤ) = x / 2 ^ n := by
    rw [zpow_add₀ two_ne_zero, zpow_natCast, mul_comm, mul_div_mul_left _ _ (two_zpow_pos e).ne']
  simp only [UnpackedFloat.shiftToExponent, shift, scale]
  exact ⟨trivial, h.ofMantissaAndAccuracy.shiftRight n⟩

end Locates

/-- Rounding gives the mantissa or the next one. -/
theorem roundToNearestEven_bounds (m : ℕ) (a : Accuracy) :
    m ≤ a.roundToNearestEven m ∧ a.roundToNearestEven m ≤ m + 1 := by
  match a with
  | .exact | .inexact .lt | .inexact .gt => simp [Accuracy.roundToNearestEven]
  | .inexact .eq => simp only [Accuracy.roundToNearestEven]; omega

/-! ### The last digit -/

/-- The exponent of the last digit that rounding keeps of a value. -/
noncomputable def grain (r : ℝ) : ℤ :=
  Int.log 2 (Max.max |r| leastNormal) - 23

theorem grain_neg (r : ℝ) : grain (-r) = grain r := by
  rw [grain, abs_neg, grain]

/-- A greater magnitude has a last digit as high or higher. -/
theorem grain_mono {r q : ℝ} (le : |r| ≤ |q|) : grain r ≤ grain q :=
  sub_le_sub_right (Int.log_mono_right (lt_max_of_lt_right leastNormal_pos)
    (max_le_max_right _ le)) 23

theorem log_two_zpow (e : ℤ) : Int.log 2 (2 ^ e : ℝ) = e := by
  exact_mod_cast Int.log_zpow (R := ℝ) one_lt_two e

theorem log_leastNormal : Int.log 2 leastNormal = -126 :=
  log_two_zpow _

/-- No last digit is below the one of the least exponent. -/
theorem le_grain (r : ℝ) : -149 ≤ grain r := by
  have least := Int.log_mono_right (b := 2) leastNormal_pos (le_max_right |r| _)
  rw [log_leastNormal] at least
  rw [grain]
  omega

/-- The last digit of a positive value is the 24th, or the one of the least exponent. -/
theorem grain_of_pos {r : ℝ} (pos : 0 < r) : grain r = Max.max (Int.log 2 r - 23) (-149) := by
  rw [grain, abs_of_pos pos]
  rcases le_total r leastNormal with small | large
  · have below := Int.log_mono_right (b := 2) pos small
    rw [log_leastNormal] at below
    rw [max_eq_right small, log_leastNormal]
    omega
  · have above := Int.log_mono_right (b := 2) leastNormal_pos large
    rw [log_leastNormal] at above
    rw [max_eq_left large]
    omega

theorem grain_one : grain 1 = -23 := by
  rw [grain_of_pos one_pos, Int.log_one_right]
  rfl

/-- A value in the unit above a mantissa has as many digits as the mantissa. -/
theorem log_mul_two_zpow {m : ℕ} {x : ℝ} (e : ℤ) (pos : 0 < m) (low : (m : ℝ) ≤ x)
    (high : x < m + 1) : Int.log 2 (x * 2 ^ e) = m.log2 + e := by
  have below : ((2 ^ m.log2 : ℕ) : ℝ) ≤ x :=
    le_trans (by exact_mod_cast Nat.log2_self_le pos.ne') low
  have above : x < ((2 ^ (m.log2 + 1) : ℕ) : ℝ) :=
    high.trans_le (by exact_mod_cast Nat.lt_log2_self (n := m))
  push_cast at below above
  have positive : 0 < x * 2 ^ e :=
    mul_pos ((pow_pos two_pos _).trans_le below) (two_zpow_pos e)
  refine le_antisymm (Int.lt_add_one_iff.mp ?_) ?_
  · rw [← Int.lt_zpow_iff_log_lt one_lt_two positive]
    calc x * 2 ^ e < 2 ^ (m.log2 + 1) * 2 ^ e := mul_lt_mul_of_pos_right above (two_zpow_pos e)
      _ = _ := by
        rw [← zpow_natCast, ← zpow_add₀ two_ne_zero]
        push_cast
        ring_nf
  · rw [← Int.zpow_le_iff_le_log one_lt_two positive]
    calc _ = 2 ^ m.log2 * (2 : ℝ) ^ e := by
          rw [← zpow_natCast, ← zpow_add₀ two_ne_zero]
          push_cast
          rfl
      _ ≤ x * 2 ^ e := mul_le_mul_of_nonneg_right below (two_zpow_pos e).le

/-- The last digit of a number in the form of the format is that of its mantissa. -/
theorem Form.grain_eq {m : ℕ} {e : ℤ} (form : Form m e) (pos : 0 < m) :
    grain (m * 2 ^ e) = e := by
  obtain ⟨digits, low, full⟩ := form
  have most := (Nat.log2_lt pos.ne').mpr digits
  have least : 2 ^ 23 ≤ m → 23 ≤ m.log2 := (Nat.le_log2 pos.ne').mpr
  rw [grain_of_pos (mul_two_zpow_pos e pos), log_mul_two_zpow e pos le_rfl (lt_add_one _)]
  omega

/-- The exponent to which a rounding shifts leaves 24 digits or is the least one. -/
theorem targetExponent_eq (m : ℕ) (e : ℤ) :
    Format.binary32.targetExponent (totalExponent m e) =
      Max.max ((m.log2 : ℤ) + e - 23) (-149) := by
  change Max.max ((m.log2 : ℤ) + 1 + e - 24) (-149) = _
  congr 1
  ring

/-- The exponent to which a rounding shifts is that of the last digit. -/
theorem Locates.grain_eq {m : ℕ} {e : ℤ} {x : ℝ} {a : Accuracy} (h : Locates x m a) (pos : 0 < x)
    (room : e ≤ Format.binary32.targetExponent (totalExponent m e)) :
    grain (x * 2 ^ e) = Format.binary32.targetExponent (totalExponent m e) := by
  have positive := mul_pos pos (two_zpow_pos e)
  rw [targetExponent_eq] at room ⊢
  rw [grain_of_pos positive]
  obtain ⟨low, high⟩ := h.bounds
  rcases Nat.eq_zero_or_pos m with rfl | digits
  · -- Less than one unit is left, and the unit is the least one already.
    rw [Nat.cast_zero, zero_add] at high
    have less : x * 2 ^ e < 2 ^ e := by
      simpa using mul_lt_mul_of_pos_right high (two_zpow_pos e)
    have small : Int.log 2 (x * 2 ^ e) < e :=
      (Int.lt_zpow_iff_log_lt one_lt_two positive).mp (by exact_mod_cast less)
    simp only [Nat.log2_zero] at room ⊢
    omega
  · rw [log_mul_two_zpow e digits low high]

/-- A positive value has fewer than `2 ^ 24` units of its last digit. -/
theorem div_grain_lt {r : ℝ} (pos : 0 < r) : r / 2 ^ grain r < 2 ^ 24 := by
  rw [div_lt_iff₀ (two_zpow_pos _), ← zpow_natCast, ← zpow_add₀ two_ne_zero]
  calc r < 2 ^ (Int.log 2 r + 1) := by exact_mod_cast Int.lt_zpow_succ_log_self one_lt_two r
    _ ≤ _ := zpow_le_zpow_right₀ one_le_two (by rw [grain_of_pos pos]; omega)

/-- A positive value has at least `2 ^ 23` units of its last digit, unless that is the least one. -/
theorem le_div_grain {r : ℝ} (pos : 0 < r) : 2 ^ 23 ≤ r / 2 ^ grain r ∨ grain r = -149 := by
  by_cases least : grain r = -149
  · exact .inr least
  · left
    have exponent : ((23 : ℕ) : ℤ) + grain r = Int.log 2 r := by
      rw [grain_of_pos pos] at least ⊢
      push_cast
      omega
    rw [le_div_iff₀ (two_zpow_pos _), ← zpow_natCast, ← zpow_add₀ two_ne_zero, exponent]
    exact_mod_cast Int.zpow_log_le_self one_lt_two pos

/-! ### The nearest value -/

/-- `z` is a whole multiple of the last digit of `r`, and none is nearer. -/
structure Nearest (z r : ℝ) : Prop where
  whole : ∃ n : ℤ, z = n * 2 ^ grain r
  near : |z - r| ≤ 2 ^ grain r / 2

namespace Nearest

variable {z r : ℝ}

theorem refl (whole : ∃ n : ℤ, z = n * 2 ^ grain z) : Nearest z z :=
  ⟨whole, by simpa using (half_pos (two_zpow_pos (grain z))).le⟩

theorem zero : Nearest 0 0 :=
  .refl ⟨0, by simp⟩

theorem neg (h : Nearest z r) : Nearest (-z) (-r) := by
  obtain ⟨⟨n, rfl⟩, near⟩ := h
  refine ⟨⟨-n, by rw [grain_neg]; push_cast; ring⟩, ?_⟩
  rwa [grain_neg, ← neg_sub', abs_neg]

theorem signed (h : Nearest z r) (s : Sign) : Nearest (signed s z) (signed s r) := by
  cases s with
  | positive => exact h
  | negative => exact h.neg

/-- What is nearest to a value differs from it by half of its last digit at most. -/
theorem error (h : Nearest z r) : |z - r| ≤ roundoff * |r| + underflow := by
  have positive : 0 < Max.max |r| leastNormal := lt_max_of_lt_right leastNormal_pos
  have unit : (2 : ℝ) ^ grain r ≤ (|r| + leastNormal) * 2 ^ (-23 : ℤ) := by
    rw [grain, sub_eq_add_neg, zpow_add₀ two_ne_zero]
    refine mul_le_mul_of_nonneg_right ?_ (two_zpow_pos _).le
    calc _ ≤ Max.max |r| leastNormal := by
          exact_mod_cast Int.zpow_log_le_self one_lt_two positive
      _ ≤ _ := max_le_add_of_nonneg (abs_nonneg r) leastNormal_pos.le
  calc |z - r| ≤ 2 ^ grain r / 2 := h.near
    _ ≤ (|r| + leastNormal) * 2 ^ (-23 : ℤ) / 2 := by gcongr
    _ = _ := by
      rw [leastNormal, roundoff, underflow]
      norm_num
      ring

/-- Rounding does not cross a whole multiple of the last digit. -/
theorem le_of_le {b : ℝ} (h : Nearest z r) (whole : ∃ n : ℤ, b = n * 2 ^ grain r) (le : r ≤ b) :
    z ≤ b := by
  obtain ⟨⟨n, rfl⟩, near⟩ := h
  obtain ⟨k, rfl⟩ := whole
  have unit := two_zpow_pos (grain r)
  by_contra! above
  have step : k + 1 ≤ n := by exact_mod_cast (mul_lt_mul_iff_of_pos_right unit).mp above
  have apart := mul_le_mul_of_nonneg_right (by exact_mod_cast step : (k + 1 : ℝ) ≤ n) unit.le
  have close := (abs_le.mp near).2
  linarith

/-- A multiple of the last digit that is at most the value is at most the nearest one. -/
theorem ge_of_ge {b : ℝ} (h : Nearest z r) (whole : ∃ n : ℤ, b = n * 2 ^ grain r) (le : b ≤ r) :
    b ≤ z := by
  obtain ⟨n, held⟩ := whole
  refine neg_le_neg_iff.mp (h.neg.le_of_le ⟨-n, ?_⟩ (neg_le_neg le))
  rw [held, grain_neg]
  push_cast
  ring

/-- The nearest value to one that is not negative is not negative. -/
theorem nonneg (h : Nearest z r) (nonneg : 0 ≤ r) : 0 ≤ z :=
  h.ge_of_ge ⟨0, by simp⟩ nonneg

/-- Nothing but itself is nearest to a whole multiple of its own last digit. -/
theorem eq_of_whole (h : Nearest z r) (whole : ∃ n : ℤ, r = n * 2 ^ grain r) : z = r :=
  le_antisymm (h.le_of_le whole le_rfl) (h.ge_of_ge whole le_rfl)

end Nearest

/-- A power of two is a whole multiple of a smaller one. -/
theorem two_zpow_whole {e t : ℤ} (le : t ≤ e) : ∃ n : ℤ, (2 : ℝ) ^ e = n * 2 ^ t := by
  obtain ⟨k, rfl⟩ := Int.le.dest le
  refine ⟨2 ^ k, ?_⟩
  rw [add_comm, zpow_add₀ two_ne_zero, zpow_natCast]
  push_cast
  rfl

/-! ### The nearest number -/

/-- The number `z` is the value `r` rounded: nearest to it, or infinite where `r` lies too far beyond
the largest number. -/
inductive Rounds (r : ℝ) (z : Float32) : Prop where
  | nearest (finite : z.isFinite) (near : Nearest (value z) r)
  | above (infinite : exact z = .infinity .positive) (beyond : overflow ≤ r)
  | below (infinite : exact z = .infinity .negative) (beyond : r ≤ -overflow)

namespace Rounds

variable {s : Sign} {r : ℝ} {z : Float32}

/-- A value among those that are rounded to infinity gives the infinity with its sign. -/
theorem of_infinite (infinite : exact z = .infinity s) (beyond : overflow ≤ r) :
    Rounds (signed s r) z := by
  cases s with
  | positive => exact .above infinite beyond
  | negative => exact .below infinite (neg_le_neg beyond)

theorem of_zero (held : exact z = .zero s) : Rounds 0 z := by
  refine .nearest (by rw [isFinite_eq, held]; rfl) ?_
  rw [value_of_zero held]
  exact .zero

/-- A number in the form of the format is its own value, rounded. -/
theorem of_exact {m : ℕ} {e : ℤ} {pos : 0 < m} (form : Form m e)
    (held : exact z = .finite s m e pos) : Rounds (signed s (m * 2 ^ e)) z := by
  refine .nearest (by rw [isFinite_eq, held]; rfl) ?_
  rw [value_of_exact held]
  exact (Nearest.refl ⟨m, by rw [form.grain_eq pos]; rfl⟩).signed s

/-- A value below those that are rounded to infinity rounds to a finite number. -/
theorem isFinite_of_lt (h : Rounds r z) (bound : |r| < overflow) : z.isFinite := by
  obtain ⟨below, above⟩ := abs_lt.mp bound
  cases h with
  | nearest finite near => exact finite
  | above infinite beyond => exact absurd above (not_lt_of_ge beyond)
  | below infinite beyond => exact absurd below (not_lt_of_ge beyond)

theorem isFinite (h : Rounds r z) (bound : |r| ≤ largest) : z.isFinite :=
  h.isFinite_of_lt (bound.trans_lt largest_lt_overflow)

/-- A finite rounded number is the nearest one. -/
theorem near (h : Rounds r z) (finite : z.isFinite) : Nearest (value z) r := by
  rw [isFinite_eq] at finite
  cases h with
  | nearest finite near => exact near
  | above infinite beyond | below infinite beyond =>
    rw [infinite] at finite
    exact absurd finite (by decide)

end Rounds

/-- Only a value up to where infinity begins has a finite number nearest to it. -/
theorem Nearest.le_overflow {z r : ℝ} (h : Nearest z r) (bound : z ≤ largest) : r ≤ overflow := by
  rw [largest] at bound
  rcases le_or_gt (grain r) 104 with fine | coarse
  · have unit : (2 : ℝ) ^ grain r ≤ 2 ^ (104 : ℤ) := zpow_le_zpow_right₀ one_le_two fine
    have close := (abs_le.mp h.near).1
    rw [overflow]
    norm_num at unit bound ⊢
    linarith
  · by_contra! beyond
    have full := (le_div_grain (overflow_pos.trans beyond)).resolve_right (by omega)
    rw [le_div_iff₀ (two_zpow_pos _)] at full
    have least : 2 ^ 23 * 2 ^ grain r ≤ z := h.ge_of_ge ⟨2 ^ 23, by norm_num⟩ full
    have unit : (2 : ℝ) ^ (105 : ℤ) ≤ 2 ^ grain r := zpow_le_zpow_right₀ one_le_two coarse
    norm_num at unit bound least
    linarith

/-- What lies below a value that is rounded to a finite number is finite too. -/
theorem Rounds.isFinite_of_rounds {q r : ℝ} {y z : Float32} (h : Rounds q y) (h' : Rounds r z)
    (finite : z.isFinite) (nonneg : 0 ≤ q) (less : q < r) : y.isFinite := by
  refine h.isFinite_of_lt ?_
  rw [abs_of_nonneg nonneg]
  exact less.trans_le ((h'.near finite).le_overflow (abs_le.mp (abs_value_le finite)).2)

/-- A value whose last digit is beyond the greatest exponent is among those rounded to infinity. -/
theorem overflow_le_of_grain {r : ℝ} (pos : 0 < r) (coarse : 105 ≤ grain r) : overflow ≤ r := by
  have exponent : 128 ≤ Int.log 2 r := by
    rw [grain_of_pos pos] at coarse
    omega
  calc overflow ≤ 2 ^ (128 : ℤ) := sub_le_self _ (two_zpow_pos _).le
    _ ≤ r := by exact_mod_cast (Int.zpow_le_iff_le_log one_lt_two pos).mpr exponent

/-- A mantissa of at most 24 digits is not shifted. -/
theorem shiftToTargetExponent_of_lt {m : ℕ} {e : ℤ} (digits : m < 2 ^ 24) (low : -149 ≤ e) :
    shiftToTargetExponent Format.binary32 m e .exact = (⟨m, false, false⟩, e) := by
  have least : m.log2 < 24 := by
    by_cases zero : m = 0
    · simp [zero]
    · exact (Nat.log2_lt zero).mpr digits
  have none : (Format.binary32.targetExponent (totalExponent m e) - e).toNat = 0 := by
    rw [targetExponent_eq]
    omega
  simp [shiftToTargetExponent, shiftToExponent, none, HShiftRight.hShiftRight, Nat.repeat,
    ExtendedMantissa.ofMantissaAndAccuracy]

/-- A mantissa that has reached a 25th digit is shifted by one. -/
theorem shiftToTargetExponent_carry {e : ℤ} (low : -149 ≤ e) :
    shiftToTargetExponent Format.binary32 (2 ^ 24) e .exact = (⟨2 ^ 23, false, false⟩, e + 1) := by
  have target : Format.binary32.targetExponent (totalExponent (2 ^ 24) e) = e + 1 := by
    rw [targetExponent_eq, Nat.log2_two_pow]
    omega
  have one : (e + 1 - e).toNat = 1 := by omega
  rw [shiftToTargetExponent, target, shiftToExponent, one]
  rfl

/-- A mantissa after rounding. It may have reached one digit more, which goes into the exponent. -/
def settled (s : Sign) (m : ℕ) (t : ℤ) : UnpackedFloat :=
  if h : m = 0 then .zero s
  else if m < 2 ^ 24 then .finite s m t (Nat.pos_of_ne_zero h)
  else .finite s (2 ^ 23) (t + 1) (by decide)

/-- The second shift of a rounding is for the digit that the first one may have carried. -/
theorem roundWithAccuracy_eq {s : Sign} {m : ℕ} {e : ℤ} {a : Accuracy} {em : ExtendedMantissa}
    {t : ℤ} (first : shiftToTargetExponent Format.binary32 m e a = (em, t))
    (digits : em.roundedMantissa ≤ 2 ^ 24) (low : -149 ≤ t) :
    roundWithAccuracy Format.binary32 s m e a = settled s em.roundedMantissa t := by
  rw [roundWithAccuracy, first, settled]
  rcases digits.lt_or_eq with small | full
  · simp only [shiftToTargetExponent_of_lt small low, small, if_true]
  · simp only [full, shiftToTargetExponent_carry low, lt_irrefl, if_false]
    rfl

/-- A rounded mantissa with its carry settled is the value, rounded. -/
theorem rounds_settled {s : Sign} {n : ℕ} {t : ℤ} {r : ℝ} (pos : 0 < r) (place : grain r = t)
    (near : Nearest (n * 2 ^ t) r) (digits : n ≤ 2 ^ 24) (full : 2 ^ 23 ≤ n ∨ t = -149) :
    Rounds (signed s r) (ofExact (settled s n t)) := by
  have low : -149 ≤ t := place ▸ le_grain r
  rw [settled]
  split_ifs with zero small
  · have held := exact_ofExact_zero s
    refine .nearest (by rw [isFinite_eq, held]; rfl) ?_
    rw [zero, Nat.cast_zero, zero_mul] at near
    rw [value_of_zero held, ← signed_zero s]
    exact near.signed s
  · have held := exact_ofExact_finite (s := s) (Nat.pos_of_ne_zero zero) ⟨small, low, full⟩
    split_ifs at held with large
    · exact .of_infinite held (overflow_le_of_grain pos (by omega))
    · refine .nearest (by rw [isFinite_eq, held]; rfl) ?_
      rw [value_of_exact held]
      exact near.signed s
  · -- The mantissa has carried, and is the least one of the next exponent.
    obtain rfl : n = 2 ^ 24 := by omega
    have held := exact_ofExact_finite (s := s) (m := 2 ^ 23) (e := t + 1) (by decide)
      ⟨by decide, by omega, .inl (by decide)⟩
    split_ifs at held with large
    · refine .of_infinite held ?_
      have scale : (2 : ℝ) ^ (104 : ℤ) ≤ 2 ^ t := zpow_le_zpow_right₀ one_le_two (by omega)
      have away := (abs_le.mp near.near).2
      rw [place] at away
      push_cast at away
      rw [overflow]
      norm_num at scale ⊢
      linarith
    · refine .nearest (by rw [isFinite_eq, held]; rfl) ?_
      have carried : ((2 ^ 23 : ℕ) : ℝ) * 2 ^ (t + 1) = ((2 ^ 24 : ℕ) : ℝ) * 2 ^ t := by
        rw [zpow_add₀ two_ne_zero]
        norm_num
        ring
      rw [value_of_exact held, carried]
      exact near.signed s

/-- Rounding a value that is located well enough gives the nearest number. -/
theorem rounds_roundWithAccuracy {s : Sign} {m : ℕ} {e : ℤ} {x : ℝ} {a : Accuracy}
    (h : Locates x m a) (pos : 0 < x)
    (room : e ≤ Format.binary32.targetExponent (totalExponent m e)) :
    Rounds (signed s (x * 2 ^ e)) (ofExact (roundWithAccuracy Format.binary32 s m e a)) := by
  have positive : 0 < x * 2 ^ e := mul_pos pos (two_zpow_pos e)
  have place := h.grain_eq pos room
  obtain ⟨place', located⟩ := h.shiftToExponent room
  obtain ⟨em, t, first⟩ : ∃ em t, shiftToTargetExponent Format.binary32 m e a = (em, t) :=
    ⟨_, _, rfl⟩
  rw [shiftToTargetExponent] at first
  simp only [first] at place' located
  rw [← place'] at place located
  -- The last digit of the value is the unit of the mantissa, which is rounded by half of it at most.
  have near : Nearest (em.roundedMantissa * 2 ^ t) (x * 2 ^ e) := by
    refine ⟨⟨em.roundedMantissa, by rw [place]; rfl⟩, ?_⟩
    have unit := two_zpow_pos t
    have split : em.roundedMantissa * 2 ^ t - x * 2 ^ e =
        (em.roundedMantissa - x * 2 ^ e / 2 ^ t) * 2 ^ t := by
      rw [sub_mul, div_mul_cancel₀ _ unit.ne']
    rw [place, split, abs_mul, abs_of_pos unit]
    exact (mul_le_mul_of_nonneg_right located.near unit.le).trans_eq (by ring)
  obtain ⟨least, most⟩ := located.bounds
  obtain ⟨atLeast, atMost⟩ := roundToNearestEven_bounds em.mantissa em.accuracy
  have digits : em.mantissa < 2 ^ 24 := by
    exact_mod_cast least.trans_lt (place ▸ div_grain_lt positive)
  have full : 2 ^ 23 ≤ em.mantissa ∨ t = -149 := by
    refine (place ▸ le_div_grain positive).imp_left fun enough => ?_
    exact Nat.le_of_lt_succ (by exact_mod_cast enough.trans_lt most)
  have low : -149 ≤ t := place ▸ le_grain _
  rw [roundWithAccuracy_eq first (atMost.trans digits) low]
  exact rounds_settled positive place near (atMost.trans digits)
    (full.imp_left fun enough => enough.trans atLeast)

end Playfield.Binary32
