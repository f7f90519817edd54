import Playfield.Proofs.Binary32.Rounding

/-!
Sums, products, quotients and square roots are the exact ones, rounded.

Each operation on finite numbers finds digits of its exact result, and the place of the result above
them, with room left for rounding. So it gives the number nearest to the sum, product, quotient or
root of the values (`rounds_add`, `rounds_mul`, `rounds_div`, `rounds_sqrt`), and a natural number
becomes the nearest number (`rounds_ofNat`). A quotient of nonnegative numbers is one
(`zero_le_div`), and a number by itself is one (`quotient_self`).
-/

namespace Playfield.Binary32

open Float.Model (Format UnpackedFloat totalExponent)
open Float.Model.UnpackedFloat

/-! ### Enough digits -/

/-- Rounding does not lower the exponent of a mantissa with all its digits or of the least exponent.
-/
theorem room_of_digits {m : ℕ} {e : ℤ} (digits : 2 ^ 23 ≤ m ∨ e ≤ -149) :
    e ≤ Format.binary32.targetExponent (totalExponent m e) := by
  rw [targetExponent_eq]
  rcases digits with digits | least
  · have enough := (Nat.le_log2 (by omega)).mpr digits
    omega
  · omega

theorem shiftLeft_pos {m : ℕ} (k : ℕ) (pos : 0 < m) : 0 < m <<< k := by
  rw [Nat.shiftLeft_eq]
  positivity

/-- Appended digits bring a positive mantissa up to a power of two. -/
theorem two_pow_le_shiftLeft {m n k : ℕ} (pos : 0 < m) (digits : n ≤ m.log2 + k) :
    2 ^ n ≤ m <<< k := by
  rw [Nat.shiftLeft_eq]
  calc 2 ^ n ≤ 2 ^ (m.log2 + k) := Nat.pow_le_pow_right two_pos digits
    _ = 2 ^ m.log2 * 2 ^ k := pow_add ..
    _ ≤ m * 2 ^ k := Nat.mul_le_mul_right _ (Nat.log2_self_le pos.ne')

/-- Moving digits from the exponent into the mantissa does not change the value. -/
theorem shiftLeft_mul_zpow (m k : ℕ) (e : ℤ) :
    ((m <<< k : ℕ) : ℝ) * 2 ^ (e - k) = m * 2 ^ e := by
  rw [Nat.shiftLeft_eq, zpow_sub₀ two_ne_zero, zpow_natCast]
  push_cast
  field_simp

/-! ### Whole multiples of a power of two -/

/-- Rounding a mantissa times a power of two gives the nearest number. -/
theorem rounds_round {s : Sign} {m : ℕ} {e : ℤ} (pos : 0 < m) :
    Rounds (signed s (m * 2 ^ e)) (ofExact (UnpackedFloat.round Format.binary32 s m e)) := by
  have target := targetExponent_eq m e
  rw [UnpackedFloat.round, decreaseExponent]
  generalize Format.binary32.targetExponent (totalExponent m e) = t at target ⊢
  have digits : 2 ^ 23 ≤ m <<< (e - t).toNat ∨ e - (e - t).toNat ≤ -149 := by
    by_cases least : t = -149
    · omega
    · exact .inl (two_pow_le_shiftLeft pos (by omega))
  rw [← shiftLeft_mul_zpow m (e - t).toNat e]
  exact rounds_roundWithAccuracy rfl (Nat.cast_pos.mpr (shiftLeft_pos _ pos)) (room_of_digits digits)

/-- Normalizing a whole multiple of a power of two gives the nearest number. -/
theorem rounds_normalize (n e : ℤ) (zero : Sign) :
    Rounds (n * 2 ^ e) (ofExact (UnpackedFloat.normalize Format.binary32 n e zero)) := by
  rcases lt_trichotomy n 0 with neg | rfl | pos
  · have magnitude : ((-n).toNat : ℤ) = -n := Int.toNat_of_nonneg (by omega)
    have same : (n : ℝ) * 2 ^ e = signed .negative (((-n).toNat : ℕ) * 2 ^ e) := by
      rw [signed, ← neg_mul, ← Int.cast_natCast, magnitude, Int.cast_neg, neg_neg]
    rw [UnpackedFloat.normalize, show compare n 0 = .lt from compare_lt_iff_lt.mpr neg, same]
    exact rounds_round (by omega)
  · rw [Int.cast_zero, zero_mul]
    exact .of_zero (exact_ofExact_zero _)
  · have magnitude : (n.toNat : ℤ) = n := Int.toNat_of_nonneg pos.le
    have same : (n : ℝ) * 2 ^ e = signed .positive ((n.toNat : ℕ) * 2 ^ e) := by
      rw [signed, ← Int.cast_natCast, magnitude]
    rw [UnpackedFloat.normalize, show compare n 0 = .gt from compare_gt_iff_gt.mpr pos, same]
    exact rounds_round (by omega)

/-- A natural number becomes the nearest number. -/
theorem rounds_ofNat (n : ℕ) : Rounds n (ofNat n) := by
  rcases Nat.eq_zero_or_pos n with rfl | pos
  · rw [Nat.cast_zero]
    exact .of_zero (s := .positive) rfl
  · have whole : (n : ℝ) = signed .positive (n * 2 ^ (0 : ℤ)) := by
      rw [signed, zpow_zero, mul_one]
    rw [whole]
    exact rounds_round pos

/-! ### Products and sums -/

/-- A product of finite numbers is the product of their values, rounded. -/
theorem rounds_mul {x y : Float32} (finite : x.isFinite) (finite' : y.isFinite) :
    Rounds (value x * value y) (x * y) := by
  have product : x * y = ofExact (UnpackedFloat.mul Format.binary32 (exact x) (exact y)) := rfl
  rw [product]
  obtain ⟨s, held⟩ | ⟨s, m, e, pos, held, form, -⟩ := finite_cases finite <;>
    obtain ⟨s', held'⟩ | ⟨s', m', e', pos', held', form', -⟩ := finite_cases finite'
  · rw [value_of_zero held, zero_mul, held, held']
    exact .of_zero (exact_ofExact_zero _)
  · rw [value_of_zero held, zero_mul, held, held']
    exact .of_zero (exact_ofExact_zero _)
  · rw [value_of_zero held', mul_zero, held, held']
    exact .of_zero (exact_ofExact_zero _)
  · have same : value x * value y = signed (s * s') (((m * m' : ℕ) : ℝ) * 2 ^ (e + e')) := by
      rw [value_of_exact held, value_of_exact held', ← signed_mul, zpow_add₀ two_ne_zero]
      push_cast
      congr 1
      ring
    -- One full mantissa is enough; without any the product is far below the last digit.
    have digits : 2 ^ 23 ≤ m * m' ∨ e + e' ≤ -149 := by
      rcases form.full with full | least
      · exact .inl (full.trans (Nat.le_mul_of_pos_right m pos'))
      · rcases form'.full with full' | least'
        · exact .inl (full'.trans (Nat.le_mul_of_pos_left m' pos))
        · exact .inr (by omega)
    rw [same, held, held']
    exact rounds_roundWithAccuracy rfl (by positivity) (room_of_digits digits)

/-- Where one summand is zero, the other one is the sum and is not rounded again. -/
theorem rounds_ofExact_exact {x : Float32} (finite : x.isFinite) :
    Rounds (value x) (ofExact (exact x)) := by
  obtain ⟨s, held⟩ | ⟨s, m, e, pos, held, form, top⟩ := finite_cases finite
  · rw [value_of_zero held, held]
    exact .of_zero (exact_ofExact_zero s)
  · rw [value_of_exact held, held]
    exact .of_exact form ((exact_ofExact_finite pos form).trans (if_neg (by omega)))

/-- A sum of finite numbers is the sum of their values, rounded. -/
theorem rounds_add {x y : Float32} (finite : x.isFinite) (finite' : y.isFinite) :
    Rounds (value x + value y) (x + y) := by
  have sum : x + y = ofExact (UnpackedFloat.add Format.binary32 (exact x) (exact y)) := rfl
  rw [sum]
  obtain ⟨s, held⟩ | ⟨s, m, e, pos, held, form, -⟩ := finite_cases finite <;>
    obtain ⟨s', held'⟩ | ⟨s', m', e', pos', held', form', -⟩ := finite_cases finite'
  · rw [value_of_zero held, value_of_zero held', zero_add, held, held', UnpackedFloat.add]
    split
    all_goals exact .of_zero (exact_ofExact_zero _)
  · rw [value_of_zero held, zero_add, held]
    have other := rounds_ofExact_exact finite'
    rw [held'] at other ⊢
    exact other
  · rw [value_of_zero held', add_zero, held']
    have other := rounds_ofExact_exact finite
    rw [held] at other ⊢
    exact other
  · have place : Min.min e e' = e - (e - Min.min e e').toNat := by omega
    have place' : Min.min e e' = e' - (e' - Min.min e e').toNat := by omega
    have same : value x + value y =
        ((s.apply (m <<< (e - Min.min e e').toNat : ℕ) +
          s'.apply (m' <<< (e' - Min.min e e').toNat : ℕ) : ℤ) : ℝ) * 2 ^ Min.min e e' := by
      rw [Int.cast_add, add_mul, signed_apply, signed_apply, value_of_exact held,
        value_of_exact held', ← shiftLeft_mul_zpow m (e - Min.min e e').toNat e,
        ← shiftLeft_mul_zpow m' (e' - Min.min e e').toNat e', ← place, ← place']
    rw [same, held, held']
    exact rounds_normalize _ _ _

/-! ### Quotients -/

/-- The remainder of a division says where the quotient lies above its whole part. -/
theorem locates_quotient (m : ℕ) {n : ℕ} (pos : 0 < n) :
    Locates (m / n : ℝ) (m / n : ℕ) (accuracyOfFraction (m % n) n) := by
  have positive : (0 : ℝ) < n := Nat.cast_pos.mpr pos
  have whole : (m : ℝ) / n = (m / n : ℕ) + (m % n : ℕ) / n := by
    rw [div_eq_iff positive.ne', add_mul, div_mul_cancel₀ _ positive.ne']
    exact_mod_cast (Nat.div_add_mod' m n).symm
  have rest : m % n < n := Nat.mod_lt m pos
  have below : ((m % n : ℕ) : ℝ) / n < 1 := (div_lt_one positive).mpr (by exact_mod_cast rest)
  rw [whole, accuracyOfFraction]
  split_ifs with exactly
  · simp [exactly, Locates]
  · have above : 0 < ((m % n : ℕ) : ℝ) / n := by positivity
    rcases lt_trichotomy (2 * (m % n)) n with less | half | more
    · rw [compare_lt_iff_lt.mpr less]
      have : ((m % n : ℕ) : ℝ) / n < 1 / 2 := by
        rw [div_lt_div_iff₀ positive two_pos]
        exact_mod_cast (by omega : m % n * 2 < 1 * n)
      constructor <;> linarith
    · have : ((m % n : ℕ) : ℝ) / n = 1 / 2 := by
        rw [div_eq_div_iff positive.ne' two_ne_zero]
        exact_mod_cast (by omega : m % n * 2 = 1 * n)
      rw [compare_eq_iff_eq.mpr half, Locates]
      linarith
    · rw [compare_gt_iff_gt.mpr more]
      have : 1 / 2 < ((m % n : ℕ) : ℝ) / n := by
        rw [div_lt_div_iff₀ two_pos positive]
        exact_mod_cast (by omega : 1 * n < m % n * 2)
      constructor <;> linarith

/-- A division shifts the dividend far enough for all digits of the quotient. -/
theorem exists_divCore_eq {m n : ℕ} (e f : ℤ) (pos : 0 < m) (pos' : 0 < n) :
    ∃ (k : ℕ) (t : ℤ), divCore Format.binary32 m e n f =
        ((m <<< k) / n, t, accuracyOfFraction ((m <<< k) % n) n) ∧
      t = e - f - k ∧ (2 ^ 23 ≤ (m <<< k) / n ∨ t ≤ -149) := by
  refine ⟨_, _, rfl, by omega, ?_⟩
  have target : Format.binary32.targetExponent (totalExponent m e - totalExponent n f) =
      Max.max (m.log2 + e - (n.log2 + f) - 24) (-149) := by
    change Max.max ((m.log2 : ℤ) + 1 + e - (n.log2 + 1 + f) - 24) (-149) = _
    omega
  rw [target]
  generalize held : Min.min (e - f) (Max.max (m.log2 + e - (n.log2 + f) - 24) (-149)) = t
  by_cases least : t ≤ -149
  · exact .inr least
  · left
    rw [Nat.le_div_iff_mul_le pos']
    calc 2 ^ 23 * n ≤ 2 ^ 23 * 2 ^ (n.log2 + 1) := Nat.mul_le_mul_left _ Nat.lt_log2_self.le
      _ = 2 ^ (23 + (n.log2 + 1)) := (pow_add ..).symm
      _ ≤ m <<< (e - f - t).toNat := two_pow_le_shiftLeft pos (by omega)

/-- A quotient of finite numbers is the quotient of their values, rounded, unless the divisor is
zero. -/
theorem rounds_div {x y : Float32} (finite : x.isFinite) (finite' : y.isFinite)
    (divisor : value y ≠ 0) : Rounds (value x / value y) (x / y) := by
  have quotient : x / y = ofExact (UnpackedFloat.div Format.binary32 (exact x) (exact y)) := rfl
  rw [quotient]
  obtain ⟨s', held'⟩ | ⟨s', n, f, pos', held', form', -⟩ := finite_cases finite'
  · exact absurd (value_of_zero held') divisor
  · obtain ⟨s, held⟩ | ⟨s, m, e, pos, held, form, -⟩ := finite_cases finite
    · rw [value_of_zero held, zero_div, held, held']
      exact .of_zero (exact_ofExact_zero _)
    · obtain ⟨k, t, core, place, digits⟩ := exists_divCore_eq e f pos pos'
      have same : value x / value y = signed (s / s') (((m <<< k : ℕ) : ℝ) / n * 2 ^ t) := by
        rw [value_of_exact held, value_of_exact held', ← signed_div, ← shiftLeft_mul_zpow m k e,
          place, mul_div_mul_comm, ← zpow_sub₀ two_ne_zero]
        ring_nf
      have positive := shiftLeft_pos k pos
      rw [same, held, held', UnpackedFloat.div, core]
      exact rounds_roundWithAccuracy (locates_quotient _ pos') (by positivity)
        (room_of_digits digits)

/-! ### Square roots -/

/-- What is left of a number after its whole root says where the root lies above it. -/
theorem locates_root (m : ℕ) : Locates √m m.sqrt
    (if m - m.sqrt * m.sqrt = 0 then .exact
      else .inexact (if m - m.sqrt * m.sqrt ≤ m.sqrt then .lt else .gt)) := by
  have low := Nat.sqrt_le m
  have high := Nat.lt_succ_sqrt m
  generalize m.sqrt = r at low high ⊢
  split_ifs with exactly less
  · obtain rfl : m = r * r := by omega
    rw [Locates, Nat.cast_mul, Real.sqrt_mul_self (Nat.cast_nonneg r)]
  · have most : (m : ℝ) ≤ r * r + r := by exact_mod_cast (by omega : m ≤ r * r + r)
    have below : √m < r + 1 / 2 := by
      rw [Real.sqrt_lt' (by positivity)]
      linarith
    constructor
    · rw [Real.lt_sqrt (Nat.cast_nonneg r)]
      exact_mod_cast (by rw [sq]; omega : r ^ 2 < m)
    · linarith
  · have least : (r * r + r + 1 : ℝ) ≤ m := by exact_mod_cast (by omega : r * r + r + 1 ≤ m)
    have above : r + 1 / 2 < √m := by
      rw [Real.lt_sqrt (by positivity)]
      linarith
    constructor
    · linarith
    · rw [Real.sqrt_lt' (by positivity)]
      exact_mod_cast (by rwa [sq] : m < (r + 1) ^ 2)

/-- A root is taken of enough digits for all of its own, and of an even exponent. -/
theorem exists_sqrtCore_eq {m : ℕ} (e : ℤ) (pos : 0 < m) :
    ∃ (k : ℕ) (t : ℤ), sqrtCore Format.binary32 m e = ((m <<< k).sqrt, t,
        if (m <<< k) - (m <<< k).sqrt * (m <<< k).sqrt = 0 then .exact
        else .inexact
          (if (m <<< k) - (m <<< k).sqrt * (m <<< k).sqrt ≤ (m <<< k).sqrt then .lt else .gt)) ∧
      t + t = e - k ∧ (2 ^ 23 ≤ (m <<< k).sqrt ∨ t ≤ -149) := by
  have even : 2 * e.ediv 2 ≤ e := Int.mul_ediv_self_le two_ne_zero
  refine ⟨_, _, rfl, by omega, ?_⟩
  have target : Format.binary32.targetExponent ((totalExponent m e + 1).ediv 2) =
      Max.max ((m.log2 + 1 + e + 1 : ℤ) / 2 - 24) (-149) := rfl
  have bound := min_le_right (e.ediv 2) (Max.max ((m.log2 + 1 + e + 1 : ℤ) / 2 - 24) (-149))
  rw [target]
  generalize Min.min (e.ediv 2) _ = t at bound ⊢
  by_cases least : t ≤ -149
  · exact .inr least
  · left
    have enough : 2 ^ 46 ≤ m <<< (e - 2 * t).toNat := two_pow_le_shiftLeft pos (by omega)
    exact Nat.le_sqrt.mpr enough

/-- A square root is the root of the value, rounded. -/
theorem rounds_sqrt {x : Float32} (finite : x.isFinite) (nonneg : 0 ≤ value x) :
    Rounds √(value x) x.sqrt := by
  have root : x.sqrt = ofExact (UnpackedFloat.sqrt Format.binary32 (exact x)) := rfl
  rw [root]
  obtain ⟨s, held⟩ | ⟨s, m, e, pos, held, form, -⟩ := finite_cases finite
  · rw [value_of_zero held, Real.sqrt_zero, held]
    exact .of_zero (exact_ofExact_zero _)
  · rw [value_of_exact held] at nonneg ⊢
    cases s with
    | negative => exact absurd nonneg (not_le_of_gt (neg_lt_zero.mpr (mul_two_zpow_pos e pos)))
    | positive =>
      obtain ⟨k, t, core, place, digits⟩ := exists_sqrtCore_eq e pos
      have same : √(m * 2 ^ e) = √(m <<< k : ℕ) * 2 ^ t := by
        rw [← shiftLeft_mul_zpow m k e, ← place, zpow_add₀ two_ne_zero,
          Real.sqrt_mul (Nat.cast_nonneg _), Real.sqrt_mul_self (two_zpow_pos t).le]
      have positive := shiftLeft_pos k pos
      rw [held, UnpackedFloat.sqrt, core, signed, same]
      exact rounds_roundWithAccuracy (s := .positive) (locates_root _)
        (Real.sqrt_pos.mpr (by positivity)) (room_of_digits digits)

/-! ### Positive numbers -/

/-- A finite number is positive iff its value is. -/
theorem pos_iff {x : Float32} (finite : x.isFinite) : 0 < x ↔ 0 < value x := by
  rw [lt_iff rfl finite, value_zero]

theorem not_beq_zero {x : Float32} (pos : 0 < x) : ¬(x == 0) = true := by
  intro zero
  obtain ⟨-, -, rfl | ⟨rfl, -⟩ | ⟨rfl, -⟩⟩ := Float32.beq_iff_ne_nan_and_eq.mp zero
  all_goals exact absurd pos (by decide)

/-- A finite number is less than infinity. -/
theorem lt_of_infinite {x y : Float32} (finite : x.isFinite)
    (infinite : exact y = .infinity .positive) : x < y := by
  rw [lt_iff_exact, infinite]
  obtain ⟨s, held⟩ | ⟨s, m, e, pos, held, -⟩ := finite_cases finite
  · rw [held]
    rfl
  · rw [held]
    cases s <;> rfl

/-- What rounds a nonnegative value is nonnegative. -/
theorem Rounds.zero_le {r : ℝ} {z : Float32} (h : Rounds r z) (nonneg : 0 ≤ r) : 0 ≤ z := by
  cases h with
  | nearest finite near =>
    rw [le_iff rfl finite, value_zero]
    exact near.nonneg nonneg
  | above infinite beyond =>
    rw [le_iff_exact, infinite]
    rfl
  | below infinite beyond =>
    have := overflow_pos
    linarith

/-- What is compared with success is a number. -/
theorem isNaN_eq_false_of_le {x y : Float32} (le : x ≤ y) : y.isNaN = false := by
  have alike : y.isNaN = (exact y).isNaN := rfl
  rw [le_iff_exact, UnpackedFloat.le] at le
  rw [alike]
  cases held : exact y with
  | notANumber =>
    rw [held] at le
    cases held' : exact x <;> rw [held'] at le <;> cases le
  | infinity s | zero s | finite s m e pos => rfl

/-- A number from zero on that is not finite is infinity. -/
theorem exact_of_zero_le {x : Float32} (nonneg : 0 ≤ x) (infinite : ¬x.isFinite) :
    exact x = .infinity .positive := by
  rw [le_iff_exact] at nonneg
  rw [isFinite_eq] at infinite
  match held : exact x with
  | .infinity .positive => rfl
  | .infinity .negative | .notANumber => rw [held] at nonneg; cases nonneg
  | .zero s | .finite s m e pos => rw [held] at infinite; exact absurd rfl infinite

/-- A nonnegative number, infinity too, divided by a positive one is nonnegative. -/
theorem zero_le_div {x y : Float32} (nonneg : 0 ≤ x) (finite : y.isFinite) (pos : 0 < y) :
    0 ≤ x / y := by
  have positive := (pos_iff finite).mp pos
  by_cases finite' : x.isFinite
  · rw [le_iff rfl finite', value_zero] at nonneg
    exact (rounds_div finite' finite positive.ne').zero_le (div_nonneg nonneg positive.le)
  · obtain ⟨s, held⟩ | ⟨s, m, e, digits, held, -⟩ := finite_cases finite
    · exact absurd (value_of_zero held) positive.ne'
    · rw [value_of_exact held] at positive
      have above : s = .positive := by
        cases s with
        | negative => exact absurd positive (neg_nonpos.mpr (mul_two_zpow_pos e digits).le).not_gt
        | positive => rfl
      have quotient : x / y = ofExact (UnpackedFloat.div Format.binary32 (exact x) (exact y)) := rfl
      rw [le_iff_exact, quotient, exact_of_zero_le nonneg finite', held, above]
      change (exact 0).le (exact (ofExact (.infinity .positive))) = true
      rw [exact_ofExact_infinity]
      rfl

/-! ### Infinity and no number -/

section Special

variable {x y : Float32}

/-- The exact value of a product comes from those of its factors. -/
theorem exact_mul (x y : Float32) :
    exact (x * y) = exact (ofExact (UnpackedFloat.mul Format.binary32 (exact x) (exact y))) := rfl

theorem exact_add (x y : Float32) :
    exact (x + y) = exact (ofExact (UnpackedFloat.add Format.binary32 (exact x) (exact y))) := rfl

theorem exact_div (x y : Float32) :
    exact (x / y) = exact (ofExact (UnpackedFloat.div Format.binary32 (exact x) (exact y))) := rfl

theorem exact_sqrt (x : Float32) :
    exact x.sqrt = exact (ofExact (UnpackedFloat.sqrt Format.binary32 (exact x))) := rfl

/-- What is not finite is no number or infinite. -/
theorem not_isFinite_cases (infinite : ¬x.isFinite) :
    exact x = .notANumber ∨ ∃ s, exact x = .infinity s := by
  rw [isFinite_eq] at infinite
  match held : exact x with
  | .notANumber => exact .inl rfl
  | .infinity s => exact .inr ⟨s, rfl⟩
  | .zero s | .finite s m e pos => rw [held] at infinite; exact absurd rfl infinite

/-- Nothing is less than what is no number. -/
theorem not_lt_notANumber (held : exact y = .notANumber) : ¬x < y := by
  rw [lt_iff_exact, held]
  cases exact x <;> exact Bool.false_ne_true

/-- A product with what is no number is no number. -/
theorem mul_notANumber (held : exact x = .notANumber) (y : Float32) :
    exact (x * y) = .notANumber := by
  rw [exact_mul, held]
  exact exact_ofExact_notANumber

theorem add_notANumber (held : exact x = .notANumber ∨ exact y = .notANumber) :
    exact (x + y) = .notANumber := by
  rw [exact_add]
  rcases held with held | held
  · rw [held]
    exact exact_ofExact_notANumber
  · rw [held]
    cases exact x <;> exact exact_ofExact_notANumber

theorem sqrt_notANumber (held : exact x = .notANumber) : exact x.sqrt = .notANumber := by
  rw [exact_sqrt, held]
  exact exact_ofExact_notANumber

/-- The square of an infinity is the positive one. -/
theorem mul_self_infinite {s : Sign} (held : exact x = .infinity s) :
    exact (x * x) = .infinity .positive := by
  rw [exact_mul, held]
  cases s <;> exact exact_ofExact_infinity _

/-- The square of a number is zero or more. -/
theorem zero_le_mul_self (number : exact x ≠ .notANumber) : 0 ≤ x * x := by
  by_cases finite : x.isFinite
  · exact (rounds_mul finite finite).zero_le (mul_self_nonneg _)
  · obtain ⟨s, held⟩ := (not_isFinite_cases finite).resolve_left number
    rw [le_iff_exact, mul_self_infinite held]
    rfl

/-- A sum of terms from zero on is infinite if one of them is. -/
theorem add_infinite (nonneg : 0 ≤ x) (nonneg' : 0 ≤ y)
    (held : exact x = .infinity .positive ∨ exact y = .infinity .positive) :
    exact (x + y) = .infinity .positive := by
  rw [exact_add]
  rw [le_iff_exact] at nonneg nonneg'
  rcases held with held | held
  · rw [held]
    match held' : exact y with
    | .infinity .positive | .zero s | .finite s m e pos => exact exact_ofExact_infinity _
    | .infinity .negative | .notANumber => rw [held'] at nonneg'; cases nonneg'
  · rw [held]
    match held' : exact x with
    | .infinity .positive | .zero s | .finite s m e pos => exact exact_ofExact_infinity _
    | .infinity .negative | .notANumber => rw [held'] at nonneg; cases nonneg

/-- A sum of terms from zero on is zero or more. -/
theorem zero_le_add (nonneg : 0 ≤ x) (nonneg' : 0 ≤ y) : 0 ≤ x + y := by
  by_cases finite : x.isFinite ∧ y.isFinite
  · rw [le_iff rfl finite.1, value_zero] at nonneg
    rw [le_iff rfl finite.2, value_zero] at nonneg'
    exact (rounds_add finite.1 finite.2).zero_le (add_nonneg nonneg nonneg')
  · have infinite : exact x = .infinity .positive ∨ exact y = .infinity .positive :=
      (not_and_or.mp finite).imp (exact_of_zero_le nonneg) (exact_of_zero_le nonneg')
    rw [le_iff_exact, add_infinite nonneg nonneg' infinite]
    rfl

theorem le_self (number : x.isNaN = false) : x ≤ x := by
  by_cases finite : x.isFinite
  · exact (le_iff finite finite).mpr le_rfl
  · obtain none | ⟨s, held⟩ := not_isFinite_cases finite
    · have alike : x.isNaN = (exact x).isNaN := rfl
      rw [alike, none] at number
      cases number
    · rw [le_iff_exact, held]
      cases s <;> rfl

theorem sqrt_infinite (held : exact x = .infinity .positive) :
    exact x.sqrt = .infinity .positive := by
  rw [exact_sqrt, held]
  exact exact_ofExact_infinity _

theorem div_infinite {s : Sign} (finite : x.isFinite) (held : exact y = .infinity s) :
    ∃ t, exact (x / y) = .zero t := by
  rw [exact_div, held]
  obtain ⟨t, held'⟩ | ⟨t, m, e, pos, held', -⟩ := finite_cases finite
  · rw [held']
    exact ⟨_, exact_ofExact_zero _⟩
  · rw [held']
    exact ⟨_, exact_ofExact_zero _⟩

theorem infinite_mul_zero {s t : Sign} (held : exact x = .infinity s) (held' : exact y = .zero t) :
    exact (x * y) = .notANumber := by
  rw [exact_mul, held, held']
  exact exact_ofExact_notANumber

end Special

/-! ### Natural numbers -/

theorem ofNat_pos {n : ℕ} (pos : 0 < n) : 0 < ofNat n := by
  have least : (1 : ℝ) ≤ n := by exact_mod_cast pos
  have rounds := rounds_ofNat n
  cases rounds with
  | nearest finite near =>
    rw [pos_iff finite]
    have close := (abs_le.mp near.error).1
    rw [abs_of_pos (by linarith), roundoff, underflow] at close
    norm_num at close ⊢
    linarith
  | above infinite beyond => exact lt_of_infinite rfl infinite
  | below infinite beyond =>
    have := overflow_pos
    linarith

/-- A natural below `2 ^ 64` is a finite number. -/
theorem isFinite_ofNat {n : ℕ} (bound : n < 2 ^ 64) : (ofNat n).isFinite := by
  refine (rounds_ofNat n).isFinite ?_
  have below : (n : ℝ) < 2 ^ 64 := by exact_mod_cast bound
  rw [abs_of_nonneg (Nat.cast_nonneg n), largest]
  norm_num
  linarith

/-- A number divided by itself is exactly one. -/
theorem quotient_self {x : Float32} (finite : x.isFinite) (nonzero : value x ≠ 0) : x / x = 1 := by
  have rounds := rounds_div finite finite nonzero
  rw [div_self nonzero] at rounds
  have whole : ∃ n : ℤ, (1 : ℝ) = n * 2 ^ grain 1 := ⟨2 ^ 23, by rw [grain_one]; norm_num⟩
  have bounded : (x / x).isFinite := rounds.isFinite (by norm_num [largest])
  have one : value (x / x) = 1 := (rounds.near bounded).eq_of_whole whole
  exact eq_of_value_eq bounded rfl (one.trans value_one.symm) (by rw [one]; exact one_ne_zero)

end Playfield.Binary32
