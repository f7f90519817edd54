import Mathlib
import Playfield.Binary32

/-!
Finite numbers and the real numbers that they stand for.

A finite number that is not zero is `±m · 2^e` in one form only (`Form`), and what has that form goes
into the bits of a number and comes out unchanged unless it is too large (`exact_ofExact_finite`).
Finite numbers compare as their values do (`compare_exact`), and only the two zeros share a value
(`eq_of_value_eq`).
-/

namespace Playfield.Binary32

open Float.Model (Format UnpackedFloat totalExponent)
open Float.Model.UnpackedFloat

/-! ### Into the bits and out of them -/

/-- The number with an exact value. -/
def ofExact (f : UnpackedFloat) : Float32 :=
  .ofModel (.pack f)

/-- The number with an exact value holds what the packed value unpacks to. -/
theorem exact_ofExact (f : UnpackedFloat) :
    exact (ofExact f) = unpack Format.binary32 (pack Format.binary32 f) := rfl

/-- What `m` and `e` are like in a finite number `±m · 2^e`: all 24 digits of `m` are in use, unless
`e` is the least exponent. -/
structure Form (m : ℕ) (e : ℤ) : Prop where
  digits : m < 2 ^ 24
  low : -149 ≤ e
  full : 2 ^ 23 ≤ m ∨ e = -149

/-- A leading one stands above the 23 digits of a mantissa. -/
theorem toNat_append_one (m : BitVec 23) : (1#1 ++ m).toNat = 2 ^ 23 + m.toNat := by
  rw [BitVec.toNat_append, ← Nat.shiftLeft_add_eq_or_of_lt m.isLt]
  rfl

/-- How a finite value is packed, by its exponent and its leading digit. -/
theorem pack_finite {s : Sign} {m : ℕ} {e : ℤ} (pos : 0 < m) :
    pack Format.binary32 (.finite s m e pos) =
      if 105 ≤ e then packedInfinity Format.binary32 s
      else if m.log2 = 23 then
        packComponents Format.binary32 s (BitVec.ofNat 8 (e + 150).toNat) (BitVec.ofNat 23 m)
      else packComponents Format.binary32 s 0#8 (BitVec.ofNat 23 m) := by
  have bias : (e + (Format.binary32.exponentBias : ℤ) + (23 : ℕ)).toNat = (e + 150).toNat := by
    change (e + 127 + 23).toNat = _
    omega
  have large : 2 ^ 8 ≤ (e + 150).toNat + 1 ↔ 105 ≤ e := by omega
  have full : m.log2 + 1 = Format.binary32.mantissaBits ↔ m.log2 = 23 := by
    change m.log2 + 1 = 24 ↔ _
    omega
  simp only [pack, bias, large, full]

/-- How packed components are unpacked, by the bits of the exponent. -/
theorem unpack_packComponents {s : Sign} {b : BitVec 8} {m : BitVec 23} :
    unpack Format.binary32 (packComponents Format.binary32 s b m) =
      if b = -1#8 then if m = 0#23 then .infinity s else .notANumber
      else if b = 0#8 then
        if h : m = 0#23 then .zero s
        else .finite s m.toNat (-149) (by simpa [BitVec.toNat_pos, BitVec.pos_iff_ne_zero])
      else .finite s (1#1 ++ m).toNat (b.toNat - 150) (by rw [toNat_append_one]; omega) := by
  have bias : ((Format.binary32.exponentBias : ℤ) + (23 : ℕ)) = 150 := rfl
  simp only [unpack, unpackExponent_packComponents, unpackMantissa_packComponents,
    unpackSign_packComponents, Sign.ofBitVec_toBitVec, bias]
  split
  · rfl
  · split
    · rename_i zero
      subst zero
      rfl
    · rfl

/-- A value in form becomes the number with that value, or infinity where it is too large. -/
theorem exact_ofExact_finite {s : Sign} {m : ℕ} {e : ℤ} (pos : 0 < m) (form : Form m e) :
    exact (ofExact (.finite s m e pos)) =
      if 105 ≤ e then .infinity s else .finite s m e pos := by
  obtain ⟨digits, low, full⟩ := form
  rw [exact_ofExact, pack_finite]
  split_ifs with large normal
  · cases s <;> rfl
  · have least := (Nat.log2_eq_iff pos.ne').mp normal
    have exponent : (BitVec.ofNat 8 (e + 150).toNat).toNat = (e + 150).toNat := by
      rw [BitVec.toNat_ofNat]
      omega
    have notInf : BitVec.ofNat 8 (e + 150).toNat ≠ -1#8 := fun same => by
      have := exponent.symm.trans (congrArg BitVec.toNat same)
      change (e + 150).toNat = 255 at this
      omega
    have notZero : BitVec.ofNat 8 (e + 150).toNat ≠ 0#8 := fun same => by
      have := exponent.symm.trans (congrArg BitVec.toNat same)
      change (e + 150).toNat = 0 at this
      omega
    rw [unpack_packComponents, if_neg notInf, if_neg notZero]
    congr 1
    · rw [toNat_append_one, BitVec.toNat_ofNat]
      omega
    · omega
  · have small : m < 2 ^ 23 := by
      by_contra big
      exact normal ((Nat.log2_eq_iff pos.ne').mpr ⟨by omega, digits⟩)
    have held : (BitVec.ofNat 23 m).toNat = m := by
      rw [BitVec.toNat_ofNat, Nat.mod_eq_of_lt small]
    have notZero : BitVec.ofNat 23 m ≠ 0#23 := fun same => by
      have := held.symm.trans (congrArg BitVec.toNat same)
      exact pos.ne' this
    rw [unpack_packComponents, if_neg (by decide), if_pos rfl, dif_neg notZero]
    congr 1
    omega

/-- What is no number stays so through the bits. -/
@[simp]
theorem exact_ofExact_notANumber : exact (ofExact .notANumber) = .notANumber := by
  rw [exact_ofExact]
  exact unpack_packedNaN

/-- A zero stays the same through the bits. -/
@[simp]
theorem exact_ofExact_zero (s : Sign) : exact (ofExact (.zero s)) = .zero s := by
  rw [exact_ofExact]
  exact unpack_packedZero

@[simp]
theorem exact_ofExact_infinity (s : Sign) : exact (ofExact (.infinity s)) = .infinity s := by
  cases s <;> rfl

/-- The exact value of a number is in form. -/
theorem form_of_exact {x : Float32} {s : Sign} {m : ℕ} {e : ℤ} {pos : 0 < m}
    (held : exact x = .finite s m e pos) : Form m e ∧ e ≤ 104 := by
  obtain ⟨s', b, m', components⟩ : ∃ (s : Sign) (b : BitVec 8) (m : BitVec 23),
      exact x = unpack Format.binary32 (packComponents Format.binary32 s b m) :=
    ⟨_, _, _, congrArg (unpack Format.binary32)
      (@packComponents_unpackSign_unpackExponent_unpackMantissa Format.binary32
        x.toModel.toBits.toBitVec).symm⟩
  rw [components, unpack_packComponents] at held
  have digits := m'.isLt
  have exponent := b.isLt
  split_ifs at held with allOnes _ subnormal
  · cases held
    exact ⟨⟨by omega, by omega, .inr rfl⟩, by omega⟩
  · cases held
    have top : b.toNat ≠ 255 := fun same => allOnes (BitVec.eq_of_toNat_eq same)
    have bottom : b.toNat ≠ 0 := fun same => subnormal (BitVec.eq_of_toNat_eq same)
    rw [toNat_append_one]
    exact ⟨⟨by omega, by omega, .inl (by omega)⟩, by omega⟩

theorem isFinite_eq (x : Float32) : x.isFinite = (exact x).isFinite := rfl

/-- A finite number is a zero or a mantissa times a power of two, in the form of the format. -/
theorem finite_cases {x : Float32} (finite : x.isFinite) :
    (∃ s, exact x = .zero s) ∨ ∃ s m e pos, exact x = .finite s m e pos ∧ Form m e ∧ e ≤ 104 := by
  rw [isFinite_eq] at finite
  match held : exact x with
  | .zero s => exact .inl ⟨s, rfl⟩
  | .finite s m e pos => exact .inr ⟨s, m, e, pos, rfl, form_of_exact held⟩
  | .infinity s => simp [held, UnpackedFloat.isFinite] at finite
  | .notANumber => simp [held, UnpackedFloat.isFinite] at finite

/-! ### Values -/

def signed (s : Sign) (r : ℝ) : ℝ :=
  match s with
  | .positive => r
  | .negative => -r

@[simp]
theorem signed_zero (s : Sign) : signed s 0 = 0 := by
  cases s <;> simp [signed]

/-- A sign leaves the magnitude. -/
@[simp]
theorem abs_signed (s : Sign) (r : ℝ) : |signed s r| = |r| := by
  cases s <;> simp [signed]

/-- The signs of factors are multiplied. -/
theorem signed_mul (s t : Sign) (q r : ℝ) : signed (s * t) (q * r) = signed s q * signed t r := by
  match s, t with
  | .negative, .negative => exact (neg_mul_neg q r).symm
  | .negative, .positive => exact (neg_mul q r).symm
  | .positive, .negative => exact (mul_neg q r).symm
  | .positive, .positive => rfl

theorem signed_div (s t : Sign) (q r : ℝ) : signed (s / t) (q / r) = signed s q / signed t r := by
  match s, t with
  | .negative, .negative => exact (neg_div_neg_eq q r).symm
  | .negative, .positive => exact (neg_div r q).symm
  | .positive, .negative => exact (div_neg q).symm
  | .positive, .positive => rfl

/-- A sign that is applied to a mantissa is one of the product. -/
theorem signed_apply (s : Sign) (m : ℕ) (r : ℝ) : (s.apply m : ℤ) * r = signed s (m * r) := by
  cases s <;> simp [signed, Sign.apply]

theorem two_zpow_pos (e : ℤ) : (0 : ℝ) < 2 ^ e := zpow_pos two_pos e

theorem mul_two_zpow_pos {m : ℕ} (e : ℤ) (pos : 0 < m) : (0 : ℝ) < m * 2 ^ e :=
  mul_pos (Nat.cast_pos.mpr pos) (two_zpow_pos e)

/-- The real number that a finite number stands for; zero for what is not finite. -/
noncomputable def value (x : Float32) : ℝ :=
  match exact x with
  | .finite s m e _ => signed s (m * 2 ^ e)
  | _ => 0

/-- The value of a number is its mantissa times its power of two, with its sign. -/
theorem value_of_exact {x : Float32} {s : Sign} {m : ℕ} {e : ℤ} {pos : 0 < m}
    (held : exact x = .finite s m e pos) : value x = signed s (m * 2 ^ e) := by
  rw [value, held]

theorem value_of_zero {x : Float32} {s : Sign} (held : exact x = .zero s) : value x = 0 := by
  rw [value, held]

@[simp]
theorem value_zero : value 0 = 0 :=
  value_of_zero (s := .positive) rfl

@[simp]
theorem value_one : value 1 = 1 := by
  have held : exact 1 = .finite .positive (2 ^ 23) (-23) (by decide) := rfl
  rw [value_of_exact held, signed]
  norm_num

/-- The largest value. -/
noncomputable def largest : ℝ :=
  (2 ^ 24 - 1) * 2 ^ (104 : ℤ)

/-- The least positive value with all digits in use. -/
noncomputable def leastNormal : ℝ :=
  2 ^ (-126 : ℤ)

/-- The part of a value by which rounding can change it. -/
noncomputable def roundoff : ℝ :=
  2 ^ (-24 : ℤ)

/-- Half of the least positive value, by which rounding can change a small one. -/
noncomputable def underflow : ℝ :=
  2 ^ (-150 : ℤ)

/-- The value from which on rounding makes infinity: it lies half of a last digit above the largest
number. -/
noncomputable def overflow : ℝ :=
  2 ^ (128 : ℤ) - 2 ^ (103 : ℤ)

theorem leastNormal_pos : 0 < leastNormal :=
  two_zpow_pos _

theorem roundoff_nonneg : 0 ≤ roundoff :=
  (two_zpow_pos _).le

theorem underflow_nonneg : 0 ≤ underflow :=
  (two_zpow_pos _).le

/-- The largest number lies below the values that are rounded to infinity. -/
theorem largest_lt_overflow : largest < overflow := by
  norm_num [largest, overflow]

theorem overflow_pos : 0 < overflow := by
  norm_num [overflow]

/-- No finite number has a magnitude beyond the largest one. -/
theorem abs_value_le {x : Float32} (finite : x.isFinite) : |value x| ≤ largest := by
  obtain ⟨s, held⟩ | ⟨s, m, e, pos, held, form, top⟩ := finite_cases finite
  · rw [value_of_zero held, abs_zero, largest]
    norm_num
  · rw [value_of_exact held, abs_signed, abs_of_pos (mul_two_zpow_pos e pos), largest]
    have digits : (m : ℝ) ≤ 2 ^ 24 - 1 := by
      have := form.digits
      exact_mod_cast (by omega : (m : ℤ) ≤ 2 ^ 24 - 1)
    exact mul_le_mul digits (zpow_le_zpow_right₀ one_le_two top) (two_zpow_pos e).le (by norm_num)

/-! ### Order -/

/-- The greater exponent belongs to the greater value. -/
theorem Form.lt_of_exponent_lt {m n : ℕ} {e f : ℤ} (form : Form m e) (form' : Form n f)
    (less : e < f) : (m * 2 ^ e : ℝ) < n * 2 ^ f := by
  have full : 2 ^ 23 ≤ n := form'.full.resolve_right (by have := form.low; omega)
  have digits : (m : ℝ) < 2 ^ 24 := by exact_mod_cast form.digits
  have full' : (2 ^ 23 : ℝ) ≤ n := by exact_mod_cast full
  have unit := two_zpow_pos e
  calc (m * 2 ^ e : ℝ) < 2 ^ 24 * 2 ^ e := mul_lt_mul_of_pos_right digits unit
    _ = 2 ^ 23 * 2 ^ (e + 1) := by rw [zpow_add_one₀ two_ne_zero]; ring
    _ ≤ 2 ^ 23 * 2 ^ f :=
      mul_le_mul_of_nonneg_left (zpow_le_zpow_right₀ one_le_two less) (by positivity)
    _ ≤ n * 2 ^ f := mul_le_mul_of_nonneg_right full' (two_zpow_pos f).le

/-- Magnitudes in the form of the format compare by the exponents first and by the mantissas then.
-/
theorem Form.cmp_eq {m n : ℕ} {e f : ℤ} (form : Form m e) (form' : Form n f) :
    (compare e f).then (compare m n) = cmp (m * 2 ^ e : ℝ) (n * 2 ^ f) := by
  rcases lt_trichotomy e f with less | rfl | more
  · rw [compare_lt_iff_lt.mpr less, (cmp_eq_lt_iff _ _).mpr (form.lt_of_exponent_lt form' less)]
    rfl
  · rw [compare_eq_iff_eq.mpr rfl, cmp_mul_pos_right (two_zpow_pos e), Nat.strictMono_cast.cmp_map_eq,
      cmp_eq_compare]
    rfl
  · rw [compare_gt_iff_gt.mpr more, (cmp_eq_gt_iff _ _).mpr (form'.lt_of_exponent_lt form more)]
    rfl

/-- Finite numbers compare as their values do. -/
theorem compare_exact {x y : Float32} (finite : x.isFinite) (finite' : y.isFinite) :
    (exact x).compare (exact y) = some (cmp (value x) (value y)) := by
  have below {m : ℕ} (e : ℤ) (pos : 0 < m) : signed .negative (m * 2 ^ e) < 0 :=
    neg_lt_zero.mpr (mul_two_zpow_pos e pos)
  have above {m : ℕ} (e : ℤ) (pos : 0 < m) : 0 < signed .positive (m * 2 ^ e) :=
    mul_two_zpow_pos e pos
  obtain ⟨s, held⟩ | ⟨s, m, e, pos, held, form, -⟩ := finite_cases finite <;>
    obtain ⟨s', held'⟩ | ⟨s', m', e', pos', held', form', -⟩ := finite_cases finite'
  · rw [value_of_zero held, value_of_zero held', held, held', cmp_self_eq_eq]
    rfl
  · rw [value_of_zero held, value_of_exact held', held, held']
    cases s' with
    | negative => rw [(cmp_eq_gt_iff _ _).mpr (below e' pos')]; rfl
    | positive => rw [(cmp_eq_lt_iff _ _).mpr (above e' pos')]; rfl
  · rw [value_of_exact held, value_of_zero held', held, held']
    cases s with
    | negative => rw [(cmp_eq_lt_iff _ _).mpr (below e pos)]; rfl
    | positive => rw [(cmp_eq_gt_iff _ _).mpr (above e pos)]; rfl
  · rw [value_of_exact held, value_of_exact held', held, held']
    match s, s' with
    | .negative, .negative =>
      -- Of two negative numbers the one with the greater magnitude is less.
      have anti : StrictAnti fun r : ℝ => -r := fun _ _ => neg_lt_neg
      rw [signed, signed, anti.cmp_map_eq, ← cmp_swap, ← form.cmp_eq form']
      rfl
    | .negative, .positive =>
      rw [(cmp_eq_lt_iff _ _).mpr ((below e pos).trans (above e' pos'))]
      rfl
    | .positive, .negative =>
      rw [(cmp_eq_gt_iff _ _).mpr ((below e' pos').trans (above e pos))]
      rfl
    | .positive, .positive =>
      rw [signed, signed, ← form.cmp_eq form']
      rfl

/-- Numbers compare by their exact values. -/
theorem lt_iff_exact (x y : Float32) : x < y ↔ (exact x).lt (exact y) = true :=
  decide_eq_true_iff

theorem le_iff_exact (x y : Float32) : x ≤ y ↔ (exact x).le (exact y) = true :=
  decide_eq_true_iff

/-- Finite numbers compare by their values. -/
theorem lt_iff {x y : Float32} (finite : x.isFinite) (finite' : y.isFinite) :
    x < y ↔ value x < value y := by
  rw [lt_iff_exact, UnpackedFloat.lt, compare_exact finite finite', ← cmp_eq_lt_iff]
  simp

theorem le_iff {x y : Float32} (finite : x.isFinite) (finite' : y.isFinite) :
    x ≤ y ↔ value x ≤ value y := by
  rw [le_iff_exact, UnpackedFloat.le, compare_exact finite finite', ← not_lt, ← cmp_eq_gt_iff]
  cases cmp (value x) (value y) <;> decide

/-- Two finite numbers with one value are the same, unless they are the two zeros. -/
theorem eq_of_value_eq {x y : Float32} (finite : x.isFinite) (finite' : y.isFinite)
    (same : value x = value y) (nonzero : value x ≠ 0) : x = y := by
  have alike : (x == y) = (exact x).beq (exact y) := rfl
  have equal : (x == y) = true := by
    rw [alike, UnpackedFloat.beq, compare_exact finite finite', same, cmp_self_eq_eq]
    rfl
  obtain ⟨-, -, same | ⟨rfl, -⟩ | ⟨-, rfl⟩⟩ := Float32.beq_iff_ne_nan_and_eq.mp equal
  · exact same
  · exact absurd value_zero nonzero
  · exact absurd (same.trans value_zero) nonzero

/-! ### Choice -/

/-- What comes out of a choice is finite and valid if the value or else the fallback is. -/
theorem sanitize_iff {given : Option Float32} {fallback : Float32} {valid : Float32 → Bool} :
    (sanitize given fallback valid).isFinite ∧ valid (sanitize given fallback valid) ↔
      (∃ v ∈ given, v.isFinite ∧ valid v) ∨ fallback.isFinite ∧ valid fallback := by
  unfold sanitize
  cases given with
  | none => simp
  | some v =>
    by_cases sound : v.isFinite ∧ valid v
    · simp [sound]
    · simp [sound]

/-- With a sound fallback the choice is sound whatever is given. -/
theorem sanitize_sound {given : Option Float32} {fallback : Float32} {P : Float32 → Prop}
    [DecidablePred P] (sound : fallback.isFinite ∧ P fallback) :
    (sanitize given fallback fun v => P v).isFinite ∧ P (sanitize given fallback fun v => P v) := by
  have choice := @sanitize_iff given fallback fun v => P v
  simp only [decide_eq_true_eq] at choice
  exact choice.mpr (.inr sound)

end Playfield.Binary32
