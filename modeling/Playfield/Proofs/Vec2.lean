import Playfield.Proofs.Binary32.Arithmetic
import Playfield.Vec2

/-!
How long a vector is after it was shortened.

Rounding can make the computed length of a vector a little too small, and never much
(`reaches_length`), also where the length overflows. So a finite vector that was shortened to a
limit is finite and no longer than the limit, but for the rounding (`norm_clampLength_le`). A vector
that is not finite is not made finite by shortening it (`isFinite_clampLength`): its length, if
there is one, is infinite, and infinity times nothing is no number.
-/

namespace Playfield

open Float.Model (Format UnpackedFloat)
open Float.Model.UnpackedFloat (Sign)

namespace Binary32

/-! ### Values from below -/

/-- A nonnegative number, infinity too, whose value is not below `r`. -/
def Reaches (r : ℝ) (z : Float32) : Prop :=
  exact z = .infinity .positive ∨ z.isFinite ∧ 0 ≤ value z ∧ r ≤ value z

/-- What is sure to be left of a nonnegative value after rounding. -/
noncomputable def lowered (r : ℝ) : ℝ :=
  (1 - roundoff) * r - underflow

theorem lowered_mono {q r : ℝ} (le : q ≤ r) : lowered q ≤ lowered r :=
  sub_le_sub_right (mul_le_mul_of_nonneg_left le (by norm_num [roundoff])) _

/-- A nonnegative value, rounded, reaches what is lowered of it. -/
theorem Rounds.reaches {r q : ℝ} {z : Float32} (h : Rounds r z) (nonneg : 0 ≤ r) (le : q ≤ r) :
    Reaches (lowered q) z := by
  cases h with
  | nearest finite near =>
    refine .inr ⟨finite, near.nonneg nonneg, (lowered_mono le).trans ?_⟩
    have close := (abs_le.mp near.error).1
    rw [abs_of_nonneg nonneg] at close
    rw [lowered]
    linarith
  | above infinite beyond => exact .inl infinite
  | below infinite beyond =>
    have := overflow_pos
    linarith

theorem Reaches.zero_le {r : ℝ} {z : Float32} (h : Reaches r z) : 0 ≤ z := by
  rcases h with infinite | ⟨finite, nonneg, -⟩
  · rw [le_iff_exact, infinite]
    rfl
  · rwa [le_iff rfl finite, value_zero]

/-- A sum of numbers that reach two values reaches their sum, lowered. -/
theorem Reaches.add {q r : ℝ} {x y : Float32} (h : Reaches q x) (h' : Reaches r y) :
    Reaches (lowered (q + r)) (x + y) := by
  rcases id h with infinite | ⟨finite, nonneg, least⟩
  · exact .inl (add_infinite h.zero_le h'.zero_le (.inl infinite))
  · rcases id h' with infinite | ⟨finite', nonneg', least'⟩
    · exact .inl (add_infinite h.zero_le h'.zero_le (.inr infinite))
    · exact (rounds_add finite finite').reaches (add_nonneg nonneg nonneg') (add_le_add least least')

theorem Reaches.sqrt {r : ℝ} {x : Float32} (h : Reaches r x) : Reaches (lowered √r) x.sqrt := by
  rcases h with infinite | ⟨finite, nonneg, least⟩
  · exact .inl (sqrt_infinite infinite)
  · exact (rounds_sqrt finite nonneg).reaches (Real.sqrt_nonneg _) (Real.sqrt_le_sqrt least)

end Binary32

namespace Vec2

open Binary32

/-! ### Lengths -/

/-- The length of a finite vector. -/
noncomputable def norm (a : Vec2) : ℝ :=
  √(value a.x ^ 2 + value a.y ^ 2)

theorem norm_nonneg (a : Vec2) : 0 ≤ a.norm :=
  Real.sqrt_nonneg _

theorem isFinite_iff (a : Vec2) : a.isFinite ↔ a.x.isFinite ∧ a.y.isFinite := by
  simp [isFinite]

/-- What two roundings of squares, one of their sum and one of the root can take from a length. -/
theorem le_lowered_sqrt (q r : ℝ) :
    (1 - 2 ^ (-23 : ℤ)) * √(q ^ 2 + r ^ 2) - 2 ^ (-73 : ℤ) ≤
      lowered √(lowered (lowered (q * q) + lowered (r * r))) := by
  have nonneg := Real.sqrt_nonneg (q ^ 2 + r ^ 2)
  have square : √(q ^ 2 + r ^ 2) ^ 2 = q ^ 2 + r ^ 2 := Real.sq_sqrt (by positivity)
  generalize √(q ^ 2 + r ^ 2) = n at nonneg square ⊢
  have inner : (1 - roundoff) * n - 2 ^ (-74 : ℤ) ≤
      √(lowered (lowered (q * q) + lowered (r * r))) := by
    rcases le_total ((1 - roundoff) * n) (2 ^ (-74 : ℤ)) with small | large
    · exact (sub_nonpos.mpr small).trans (Real.sqrt_nonneg _)
    · refine (le_abs_self _).trans (Real.abs_le_sqrt ?_)
      have rest : lowered (lowered (q * q) + lowered (r * r)) =
          ((1 - roundoff) * n) ^ 2 - (3 - 2 * roundoff) * underflow := by
        rw [mul_pow, square, lowered, lowered, lowered]
        ring
      rw [rest]
      generalize (1 - roundoff) * n = k at large ⊢
      rw [roundoff, underflow]
      norm_num at large ⊢
      nlinarith
  refine le_trans ?_ (lowered_mono inner)
  rw [lowered, roundoff, underflow]
  norm_num
  linarith

/-- The computed length of a finite vector is not much too small. -/
theorem reaches_length {a : Vec2} (finite : a.isFinite) :
    Reaches ((1 - 2 ^ (-23 : ℤ)) * a.norm - 2 ^ (-73 : ℤ)) a.length := by
  obtain ⟨finiteX, finiteY⟩ := a.isFinite_iff.mp finite
  have squareX := (rounds_mul finiteX finiteX).reaches (mul_self_nonneg _) le_rfl
  have squareY := (rounds_mul finiteY finiteY).reaches (mul_self_nonneg _) le_rfl
  rcases (squareX.add squareY).sqrt with infinite | ⟨finite, nonneg, least⟩
  · exact .inl infinite
  · exact .inr ⟨finite, nonneg, (le_lowered_sqrt _ _).trans least⟩

/-! ### Shortening -/

section ClampLength

variable {a : Vec2} {limit : Float32}

/-- A vector that is longer than the limit is scaled down. -/
theorem clampLength_of_longer (longer : limit < a.length ∧ 0 < a.length) :
    a.clampLength limit = a * (limit / a.length) := by
  simp [clampLength, longer]

theorem clampLength_of_not_longer (short : ¬(limit < a.length ∧ 0 < a.length)) :
    a.clampLength limit = a := by
  simpa [clampLength] using fun longer positive => absurd ⟨longer, positive⟩ short

/-- Scaling both components, but for small errors, scales the length, but for a small error. -/
theorem sqrt_scaled_le {x y c d k t : ℝ} (nonneg : 0 ≤ k) (nonneg' : 0 ≤ t)
    (first : |c| ≤ k * |x| + t) (second : |d| ≤ k * |y| + t) :
    √(c ^ 2 + d ^ 2) ≤ k * √(x ^ 2 + y ^ 2) + 2 * t := by
  have square : √(x ^ 2 + y ^ 2) ^ 2 = x ^ 2 + y ^ 2 := Real.sq_sqrt (by positivity)
  have longX : |x| ≤ √(x ^ 2 + y ^ 2) := Real.abs_le_sqrt (by nlinarith [sq_nonneg y])
  have longY : |y| ≤ √(x ^ 2 + y ^ 2) := Real.abs_le_sqrt (by nlinarith [sq_nonneg x])
  generalize √(x ^ 2 + y ^ 2) = n at square longX longY ⊢
  have length : 0 ≤ n := (abs_nonneg x).trans longX
  refine Real.sqrt_le_iff.mpr ⟨by positivity, ?_⟩
  have squareC : c ^ 2 ≤ (k * |x| + t) ^ 2 := by
    rw [← sq_abs c]
    exact pow_le_pow_left₀ (abs_nonneg c) first 2
  have squareD : d ^ 2 ≤ (k * |y| + t) ^ 2 := by
    rw [← sq_abs d]
    exact pow_le_pow_left₀ (abs_nonneg d) second 2
  have cross : k * t * (|x| + |y|) ≤ k * t * (2 * n) :=
    mul_le_mul_of_nonneg_left (by linarith) (mul_nonneg nonneg nonneg')
  calc c ^ 2 + d ^ 2 ≤ (k * |x| + t) ^ 2 + (k * |y| + t) ^ 2 := add_le_add squareC squareD
    _ = k ^ 2 * (x ^ 2 + y ^ 2) + 2 * (k * t * (|x| + |y|)) + 2 * t ^ 2 := by
      rw [← sq_abs x, ← sq_abs y]
      ring
    _ ≤ k ^ 2 * n ^ 2 + 2 * (k * t * (2 * n)) + 4 * t ^ 2 := by
      rw [square]
      nlinarith [sq_nonneg t]
    _ = (k * n + 2 * t) ^ 2 := by ring

/-- A length within a limit, but for the rounding. -/
noncomputable def allowed (limit : ℝ) : ℝ :=
  limit * (1 + 1 / 10 ^ 5) + 1 / 10 ^ 6

/-- A length `n`, computed as `v`, is within the limit after it was scaled to it. -/
theorem scaled_le_allowed {l v n s : ℝ} (nonneg : 0 ≤ l) (longer : l < v) (bounded : v ≤ largest)
    (near : (1 - 2 ^ (-23 : ℤ)) * n - 2 ^ (-73 : ℤ) ≤ v) (length : 0 ≤ n)
    (scale : s ≤ (1 + roundoff) * (l / v) + underflow) :
    (1 + roundoff) * s * n + 2 * underflow ≤ allowed l := by
  have positive : 0 < v := nonneg.trans_lt longer
  have whole : l / v * v = l := div_mul_cancel₀ l positive.ne'
  have part : l / v ≤ 1 := (div_le_one positive).mpr longer.le
  have part' : 0 ≤ l / v := div_nonneg nonneg positive.le
  generalize l / v = w at whole part part' scale
  have shortened : (1 - 2 ^ (-23 : ℤ)) * (w * n) ≤ l + 2 ^ (-73 : ℤ) := by
    have := mul_le_mul_of_nonneg_left near part'
    norm_num at this ⊢
    nlinarith
  have scaled := mul_le_mul_of_nonneg_right scale length
  rw [largest] at bounded
  rw [roundoff, underflow] at *
  rw [allowed]
  norm_num at near shortened scaled bounded ⊢
  linarith

/-- A product with a scale of at most one is finite, and not much longer than the exact one. -/
theorem scaled_component {x s : Float32} (finite : x.isFinite) (finite' : s.isFinite)
    (nonneg : 0 ≤ value s) (part : value s ≤ 1) :
    (x * s).isFinite ∧
      |value (x * s)| ≤ (1 + roundoff) * value s * |value x| + underflow := by
  have rounds := rounds_mul finite finite'
  have magnitude : |value x * value s| = value s * |value x| := by
    rw [abs_mul, abs_of_nonneg nonneg, mul_comm]
  have bounded : (x * s).isFinite := by
    refine rounds.isFinite ?_
    rw [magnitude]
    exact (mul_le_of_le_one_left (abs_nonneg _) part).trans (abs_value_le finite)
  refine ⟨bounded, ?_⟩
  have close := (rounds.near bounded).error
  have apart := abs_sub_abs_le_abs_sub (value (x * s)) (value x * value s)
  rw [magnitude] at close apart
  linarith

/-- The scale of a vector that is too long is from zero to one. -/
theorem scale_bounds {limit length : Float32} (finite : limit.isFinite) (finite' : length.isFinite)
    (nonneg : 0 ≤ value limit) (longer : value limit < value length) :
    (limit / length).isFinite ∧ 0 ≤ value (limit / length) ∧ value (limit / length) ≤ 1 ∧
      value (limit / length) ≤
        (1 + roundoff) * (value limit / value length) + underflow := by
  have positive : 0 < value length := nonneg.trans_lt longer
  have rounds := rounds_div finite finite' positive.ne'
  have part : value limit / value length ≤ 1 := (div_le_one positive).mpr longer.le
  have part' : 0 ≤ value limit / value length := div_nonneg nonneg positive.le
  have bounded : (limit / length).isFinite := by
    refine rounds.isFinite ?_
    rw [abs_of_nonneg part']
    exact part.trans (by norm_num [largest])
  have near := rounds.near bounded
  have close := (abs_le.mp near.error).2
  rw [abs_of_nonneg part'] at close
  refine ⟨bounded, near.nonneg part', near.le_of_le ?_ part, by linarith⟩
  -- One is a whole multiple of every digit up to its own last one.
  have fine := grain_mono (r := value limit / value length) (q := 1) (by
    rwa [abs_one, abs_of_nonneg part'])
  rw [grain_one] at fine
  simpa using two_zpow_whole (e := 0) (fine.trans (by norm_num))

theorem longer_of_infinite (finite : limit.isFinite)
    (infinite : exact a.length = .infinity .positive) : limit < a.length ∧ 0 < a.length :=
  ⟨lt_of_infinite finite infinite, lt_of_infinite rfl infinite⟩

/-- A finite vector that was shortened is finite and no longer than the limit, but for the rounding.
-/
theorem norm_clampLength_le (finite : a.isFinite) (finite' : limit.isFinite) (nonneg : 0 ≤ limit) :
    (a.clampLength limit).isFinite ∧ (a.clampLength limit).norm ≤ allowed (value limit) := by
  obtain ⟨finiteX, finiteY⟩ := a.isFinite_iff.mp finite
  rw [le_iff rfl finite', value_zero] at nonneg
  rcases reaches_length finite with infinite | ⟨bounded, nonneg', near⟩
  · -- The length overflows, and the vector is scaled to zero.
    obtain ⟨s, none⟩ := div_infinite finite' infinite
    have scaled : (limit / a.length).isFinite := by
      rw [isFinite_eq, none]
      rfl
    have least : value (limit / a.length) = 0 := value_of_zero none
    obtain ⟨boundedX, shortX⟩ := scaled_component finiteX scaled least.ge (by simp [least])
    obtain ⟨boundedY, shortY⟩ := scaled_component finiteY scaled least.ge (by simp [least])
    rw [clampLength_of_longer (longer_of_infinite finite' infinite)]
    refine ⟨(isFinite_iff _).mpr ⟨boundedX, boundedY⟩, ?_⟩
    refine (sqrt_scaled_le (by simp [least]) underflow_nonneg shortX shortY).trans ?_
    rw [least, allowed, underflow]
    norm_num
    linarith
  · by_cases longer : limit < a.length ∧ 0 < a.length
    · rw [clampLength_of_longer longer]
      have beyond := (lt_iff finite' bounded).mp longer.1
      obtain ⟨scaled, least, most, near'⟩ := scale_bounds finite' bounded nonneg beyond
      obtain ⟨boundedX, shortX⟩ := scaled_component finiteX scaled least most
      obtain ⟨boundedY, shortY⟩ := scaled_component finiteY scaled least most
      have positive : 0 ≤ 1 + roundoff := add_nonneg zero_le_one roundoff_nonneg
      refine ⟨(isFinite_iff _).mpr ⟨boundedX, boundedY⟩, ?_⟩
      refine (sqrt_scaled_le (mul_nonneg positive least) underflow_nonneg shortX shortY).trans ?_
      exact scaled_le_allowed nonneg beyond ((le_abs_self _).trans (abs_value_le bounded)) near
        a.norm_nonneg near'
    · rw [clampLength_of_not_longer longer]
      refine ⟨finite, ?_⟩
      -- The length is within the limit, and what was lost in rounding it is allowed.
      have short : value a.length ≤ value limit := by
        by_contra! beyond
        exact longer ⟨(lt_iff finite' bounded).mpr beyond,
          (pos_iff bounded).mpr (nonneg.trans_lt beyond)⟩
      have length := a.norm_nonneg
      rw [allowed]
      norm_num at near ⊢
      linarith

/-- A vector with a component that is no number has no number for its length. -/
theorem length_notANumber (held : exact a.x = .notANumber ∨ exact a.y = .notANumber) :
    exact a.length = .notANumber :=
  sqrt_notANumber (add_notANumber
    (held.imp (fun held => mul_notANumber held _) fun held => mul_notANumber held _))

/-- A vector that is not finite has an infinite length or none. -/
theorem length_infinite {s : Sign} (number : exact a.x ≠ .notANumber)
    (number' : exact a.y ≠ .notANumber)
    (held : exact a.x = .infinity s ∨ exact a.y = .infinity s) :
    exact a.length = .infinity .positive :=
  sqrt_infinite (add_infinite (zero_le_mul_self number) (zero_le_mul_self number')
    (held.imp mul_self_infinite mul_self_infinite))

/-- Shortening does not make a vector finite. -/
theorem not_isFinite_clampLength (infinite : ¬a.isFinite) (finite : limit.isFinite) :
    ¬(a.clampLength limit).isFinite := by
  by_cases none : exact a.x = .notANumber ∨ exact a.y = .notANumber
  · have short : ¬(limit < a.length ∧ 0 < a.length) := fun longer =>
      not_lt_notANumber (length_notANumber none) longer.1
    rwa [clampLength_of_not_longer short]
  · obtain ⟨number, number'⟩ := not_or.mp none
    obtain ⟨s, held⟩ : ∃ s, exact a.x = .infinity s ∨ exact a.y = .infinity s := by
      rw [isFinite_iff, not_and_or] at infinite
      rcases infinite with infinite | infinite
      · obtain ⟨s, held⟩ := (not_isFinite_cases infinite).resolve_left number
        exact ⟨s, .inl held⟩
      · obtain ⟨s, held⟩ := (not_isFinite_cases infinite).resolve_left number'
        exact ⟨s, .inr held⟩
    have length := length_infinite number number' held
    obtain ⟨t, scale⟩ := div_infinite finite length
    rw [clampLength_of_longer (longer_of_infinite finite length), isFinite_iff]
    intro ⟨finiteX, finiteY⟩
    rw [isFinite_eq] at finiteX finiteY
    rcases held with held | held
    · have poisoned : exact (a.x * (limit / a.length)) = .notANumber := infinite_mul_zero held scale
      have := finiteX.symm.trans (congrArg UnpackedFloat.isFinite poisoned)
      cases this
    · have poisoned : exact (a.y * (limit / a.length)) = .notANumber := infinite_mul_zero held scale
      have := finiteY.symm.trans (congrArg UnpackedFloat.isFinite poisoned)
      cases this

end ClampLength

end Vec2

end Playfield
