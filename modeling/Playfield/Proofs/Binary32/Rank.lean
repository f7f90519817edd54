import Playfield.Proofs.Binary32.Arithmetic

/-!
The order of numbers and their places in it.

In the bits of a number its exponent stands above its digits, so the place of a number is read off
its exact value (`rank_eq_place`) and rises with the number (`rank_lt_rank`). Rounding crosses no
number (`Nearest.le_of_le_number`): what is taken away from a number never moves it up, even where
it is lost in rounding (`rank_sub_le`).
-/

namespace Playfield.Binary32

open Float.Model (Format UnpackedFloat)
open Float.Model.UnpackedFloat

/-! ### Places -/

/-- The place of a magnitude with a sign. Negative ones count downwards from `-1`, which is the
place of the negative zero. -/
def mirrored : Sign → ℕ → ℤ
  | .positive, n => n
  | .negative, n => -1 - n

/-- The place of `m · 2^e` among the magnitudes. -/
def magnitude (m : ℕ) (e : ℤ) : ℕ :=
  (e + 149).toNat * 2 ^ 23 + m

/-- The place of an exact value. -/
def place : UnpackedFloat → ℤ
  | .zero s => mirrored s 0
  | .finite s m e _ => mirrored s (magnitude m e)
  | .infinity s => mirrored s (255 * 2 ^ 23)
  | .notANumber => 0

/-- Sign, exponent and mantissa stand one above the other in the bits. -/
theorem toNat_packComponents (s : Sign) (b : BitVec 8) (m : BitVec 23) :
    (packComponents Format.binary32 s b m).toNat =
      s.toBitVec.toNat * 2 ^ 31 + b.toNat * 2 ^ 23 + m.toNat := by
  have digits := m.isLt
  have exponent := b.isLt
  change ((s.toBitVec ++ b) ++ m).toNat = _
  rw [BitVec.toNat_append, ← Nat.shiftLeft_add_eq_or_of_lt m.isLt, BitVec.toNat_append,
    ← Nat.shiftLeft_add_eq_or_of_lt b.isLt, Nat.shiftLeft_eq, Nat.shiftLeft_eq]
  ring

/-- The place of the number with some bits. -/
theorem rank_of_components {x : Float32} {s : Sign} {b : BitVec 8} {m : BitVec 23}
    (components : x.toModel.toBits.toBitVec = packComponents Format.binary32 s b m) :
    rank x = mirrored s (b.toNat * 2 ^ 23 + m.toNat) := by
  have digits := m.isLt
  have exponent := b.isLt
  have bits : x.toBits.toNat = s.toBitVec.toNat * 2 ^ 31 + b.toNat * 2 ^ 23 + m.toNat :=
    (congrArg BitVec.toNat components).trans (toNat_packComponents s b m)
  rw [rank, signBit]
  cases s with
  | positive =>
    have none : (Sign.toBitVec .positive).toNat = 0 := rfl
    rw [none] at bits
    rw [if_pos (by omega), mirrored]
    omega
  | negative =>
    have one : (Sign.toBitVec .negative).toNat = 1 := rfl
    rw [one] at bits
    rw [if_neg (by omega), mirrored]
    omega

/-- The place of a number is that of its exact value. -/
theorem rank_eq_place {x : Float32} (number : exact x ≠ .notANumber) :
    rank x = place (exact x) := by
  obtain ⟨s, b, m, components⟩ : ∃ (s : Sign) (b : BitVec 8) (m : BitVec 23),
      x.toModel.toBits.toBitVec = packComponents Format.binary32 s b m :=
    ⟨_, _, _, (@packComponents_unpackSign_unpackExponent_unpackMantissa Format.binary32
      x.toModel.toBits.toBitVec).symm⟩
  have held : exact x = unpack Format.binary32 (packComponents Format.binary32 s b m) :=
    congrArg (unpack Format.binary32) components
  rw [unpack_packComponents] at held
  rw [rank_of_components components]
  rw [held] at number ⊢
  split_ifs at number ⊢ with allOnes none subnormal none
  · simp [place, allOnes, none]
  · exact absurd rfl number
  · simp [place, subnormal, none]
  · simp [place, magnitude, subnormal]
  · have bottom : b.toNat ≠ 0 := fun same => subnormal (BitVec.eq_of_toNat_eq same)
    have same : b.toNat * 2 ^ 23 + m.toNat =
        ((b.toNat - 150 : ℤ) + 149).toNat * 2 ^ 23 + (2 ^ 23 + m.toNat) := by omega
    rw [place, magnitude, toNat_append_one, same]

/-- The greater exponent belongs to the greater place. -/
theorem magnitude_lt_magnitude {m n : ℕ} {e f : ℤ} (form : Form m e) (form' : Form n f)
    (less : (compare e f).then (compare m n) = .lt) : magnitude m e < magnitude n f := by
  have digits := form.digits
  have low := form.low
  have full := form'.full
  unfold magnitude
  rcases Ordering.then_eq_lt.mp less with less | ⟨same, less⟩
  · have := compare_lt_iff_lt.mp less
    omega
  · have := compare_eq_iff_eq.mp same
    have := compare_lt_iff_lt.mp less
    omega

/-- A finite magnitude has its place below that of infinity. -/
theorem magnitude_lt_infinite {m : ℕ} {e : ℤ} (form : Form m e) (top : e ≤ 104) :
    magnitude m e < 255 * 2 ^ 23 := by
  have digits := form.digits
  unfold magnitude
  omega

theorem magnitude_pos {m : ℕ} (e : ℤ) (pos : 0 < m) : 0 < magnitude m e :=
  pos.trans_le (Nat.le_add_left _ _)

/-- An exact value that a number can have. -/
def Held : UnpackedFloat → Prop
  | .finite _ m e _ => Form m e ∧ e ≤ 104
  | .zero _ | .infinity _ | .notANumber => True

/-- The exact value of a number is one that a number can have. -/
theorem held_exact (x : Float32) : Held (exact x) := by
  cases held : exact x with
  | finite s m e pos => exact form_of_exact held
  | zero | infinity | notANumber => trivial

/-- Places rise with the values. -/
theorem place_lt_place {u v : UnpackedFloat} (held : Held u) (held' : Held v)
    (less : u.compare v = some .lt) : place u < place v := by
  -- The finite values lie between the infinities, and the zeros in their middle.
  have bounded {m : ℕ} {e : ℤ} {pos : 0 < m} {s : Sign} (held : Held (.finite s m e pos)) :
      0 < magnitude m e ∧ magnitude m e < 255 * 2 ^ 23 :=
    ⟨magnitude_pos e pos, magnitude_lt_infinite held.1 held.2⟩
  match u, v with
  | .notANumber, _ | .zero _, .notANumber | .finite .., .notANumber | .infinity _, .notANumber =>
    cases less
  | .zero s, .zero t | .zero s, .infinity t | .infinity s, .zero t | .infinity s, .infinity t =>
    cases s <;> cases t <;> first | (simp only [place, mirrored]; omega) | cases less
  | .finite s m e pos, .zero t | .finite s m e pos, .infinity t =>
    have := bounded held
    cases s <;> cases t <;> first | (simp only [place, mirrored]; omega) | cases less
  | .zero s, .finite t n f pos | .infinity s, .finite t n f pos =>
    have := bounded held'
    cases s <;> cases t <;> first | (simp only [place, mirrored]; omega) | cases less
  | .finite .positive m e pos, .finite .positive n f pos' =>
    have := magnitude_lt_magnitude held.1 held'.1 (Option.some.inj less)
    simp only [place, mirrored]
    omega
  | .finite .positive m e pos, .finite .negative n f pos' => cases less
  | .finite .negative m e pos, .finite .positive n f pos' =>
    simp only [place, mirrored]
    omega
  | .finite .negative m e pos, .finite .negative n f pos' =>
    have swapped : ((compare e f).then (compare m n)).swap = .lt := Option.some.inj less
    rw [Ordering.swap_then, ← Std.OrientedCmp.eq_swap, ← Std.OrientedCmp.eq_swap] at swapped
    have := magnitude_lt_magnitude held'.1 held.1 swapped
    simp only [place, mirrored]
    omega

section Rank

variable {x y : Float32}

theorem exact_ne_notANumber (number : x.isNaN = false) : exact x ≠ .notANumber := by
  have alike : x.isNaN = (exact x).isNaN := rfl
  intro none
  rw [alike, none] at number
  cases number

/-- Numbers with one exact value have one rank. -/
theorem rank_eq_of_exact_eq (number : exact x ≠ .notANumber) (same : exact y = exact x) :
    rank y = rank x := by
  rw [rank_eq_place number, rank_eq_place (same ▸ number), same]

/-- A number above another has the greater place. -/
theorem rank_lt_rank (less : x < y) : rank x < rank y := by
  have compared : (exact x).compare (exact y) = some .lt := by
    rw [lt_iff_exact, UnpackedFloat.lt] at less
    exact beq_iff_eq.mp less
  have number : exact x ≠ .notANumber := by
    intro none
    rw [none] at compared
    contradiction
  have number' : exact y ≠ .notANumber := fun none => not_lt_notANumber none less
  rw [rank_eq_place number, rank_eq_place number']
  exact place_lt_place (held_exact x) (held_exact y) compared

/-- Of two numbers one is at most the other. -/
theorem le_of_not_lt (number : x.isNaN = false) (number' : y.isNaN = false) (notLess : ¬y < x) :
    x ≤ y := by
  have some := exact_ne_notANumber number
  have some' := exact_ne_notANumber number'
  by_cases finite : x.isFinite
  · by_cases finite' : y.isFinite
    · rw [lt_iff finite' finite, not_lt] at notLess
      exact (le_iff finite finite').mpr notLess
    · obtain ⟨t, held'⟩ := (not_isFinite_cases finite').resolve_left some'
      rw [lt_iff_exact, held'] at notLess
      rw [le_iff_exact, held']
      obtain ⟨s, held⟩ | ⟨s, m, e, pos, held, -⟩ := finite_cases finite
      all_goals rw [held] at notLess ⊢; cases t <;> first | rfl | exact absurd rfl notLess
  · obtain ⟨s, held⟩ := (not_isFinite_cases finite).resolve_left some
    rw [lt_iff_exact, held] at notLess
    rw [le_iff_exact, held]
    cases held' : exact y with
    | notANumber => exact absurd held' some'
    | infinity t | zero t | finite t n f pos =>
      rw [held'] at notLess
      cases s <;> cases t <;> first | rfl | exact absurd rfl notLess

/-- Of two numbers the one with the greater place is not below the other. -/
theorem le_of_rank_le (number : x.isNaN = false) (number' : y.isNaN = false)
    (le : rank x ≤ rank y) : x ≤ y :=
  le_of_not_lt number number' fun less => not_lt_of_ge le (rank_lt_rank less)

end Rank

/-! ### Rounding and the numbers -/

theorem grain_signed (s : Sign) (r : ℝ) : grain (signed s r) = grain r := by
  rw [grain, abs_signed, grain]

/-- The value of a number is a whole multiple of its last digit. -/
theorem value_whole {x : Float32} (finite : x.isFinite) :
    ∃ n : ℤ, value x = n * 2 ^ grain (value x) := by
  obtain ⟨s, held⟩ | ⟨s, m, e, pos, held, form, -⟩ := finite_cases finite
  · exact ⟨0, by rw [value_of_zero held]; simp⟩
  · refine ⟨s.apply m, ?_⟩
    rw [value_of_exact held, grain_signed, form.grain_eq pos, signed_apply]

/-- Rounding crosses no number, even one with finer digits than the rounded value. -/
theorem Nearest.le_of_le_number {z r q : ℝ} (h : Nearest z r)
    (number : ∃ n : ℤ, q = n * 2 ^ grain q) (le : r ≤ q) : z ≤ q := by
  by_cases finer : grain q < grain r
  · -- A coarser value below `q` lies beyond the power of two at which its digits begin.
    have beyond : |q| < |r| := lt_of_not_ge fun ge => not_lt_of_ge (grain_mono ge) finer
    have negative : r < 0 := by
      by_contra! nonneg
      rw [abs_of_nonneg nonneg, abs_of_nonneg (nonneg.trans le)] at beyond
      linarith
    have coarse : grain r ≠ -149 := by
      have := le_grain q
      omega
    have full := (le_div_grain (r := -r) (by linarith)).resolve_right (grain_neg r ▸ coarse)
    rw [grain_neg, le_div_iff₀ (two_zpow_pos _)] at full
    have below : z ≤ -(2 ^ 23 * 2 ^ grain r) :=
      h.le_of_le ⟨-2 ^ 23, by push_cast; ring⟩ (by linarith)
    have digits : |q| ≤ 2 ^ 23 * 2 ^ grain r := by
      have next : grain q + 24 = Int.log 2 (Max.max |q| leastNormal) + 1 := by
        rw [grain]
        ring
      calc |q| ≤ Max.max |q| leastNormal := le_max_left _ _
        _ ≤ 2 ^ (grain q + 24) := by
          rw [next]
          exact_mod_cast (Int.lt_zpow_succ_log_self one_lt_two (Max.max |q| leastNormal)).le
        _ ≤ 2 ^ (((23 : ℕ) : ℤ) + grain r) := zpow_le_zpow_right₀ one_le_two (by push_cast; omega)
        _ = _ := by rw [zpow_add₀ two_ne_zero, zpow_natCast]
    linarith [(abs_le.mp digits).1]
  · obtain ⟨n, whole⟩ := number
    obtain ⟨k, power⟩ := two_zpow_whole (not_lt.mp finer)
    exact h.le_of_le ⟨n * k, by rw [whole, power]; push_cast; ring⟩ le

/-- A value above a number is not rounded to below it. -/
theorem Nearest.ge_of_ge_number {z r q : ℝ} (h : Nearest z r)
    (number : ∃ n : ℤ, q = n * 2 ^ grain q) (ge : q ≤ r) : q ≤ z := by
  obtain ⟨n, whole⟩ := number
  refine neg_le_neg_iff.mp (h.neg.le_of_le_number ⟨-n, ?_⟩ (neg_le_neg ge))
  rw [grain_neg, Int.cast_neg, neg_mul, ← whole]

theorem neg_value_whole {x : Float32} (finite : x.isFinite) :
    ∃ n : ℤ, -value x = n * 2 ^ grain (-value x) := by
  obtain ⟨n, whole⟩ := value_whole finite
  exact ⟨-n, by rw [grain_neg, Int.cast_neg, neg_mul, ← whole]⟩

/-- Adding something positive to a number that is not negative, infinity too, does not move it
down. -/
theorem le_add {x y : Float32} (nonneg : 0 ≤ x) (finite : y.isFinite) (pos : 0 < value y) :
    x ≤ x + y := by
  by_cases finite' : x.isFinite
  · cases rounds_add finite' finite with
    | nearest finite'' near =>
      rw [le_iff finite' finite'']
      exact near.ge_of_ge_number (value_whole finite') (by linarith)
    | above infinite beyond =>
      rw [le_iff_exact, infinite]
      obtain ⟨s, held⟩ | ⟨s, m, e, pos, held, -⟩ := finite_cases finite' <;> rw [held] <;>
        cases s <;> rfl
    | below infinite beyond =>
      rw [le_iff rfl finite', value_zero] at nonneg
      have := overflow_pos
      linarith
  · have held := exact_of_zero_le nonneg finite'
    have above : 0 ≤ y := by
      rw [le_iff rfl finite, value_zero]
      exact pos.le
    rw [le_iff_exact, held, add_infinite nonneg above (.inl held)]
    rfl

/-! ### Differences -/

theorem exact_neg (x : Float32) : exact (-x) = (exact x).neg := by
  have turned : -x = ofExact (exact x).neg := rfl
  rw [turned]
  cases held : exact x with
  | notANumber => exact exact_ofExact_notANumber
  | infinity s => exact exact_ofExact_infinity _
  | zero s => exact exact_ofExact_zero _
  | finite s m e pos =>
    obtain ⟨form, top⟩ := form_of_exact held
    exact (exact_ofExact_finite pos form).trans (if_neg (by omega))

theorem isFinite_neg {x : Float32} (finite : x.isFinite) : (-x).isFinite := by
  rw [isFinite_eq] at finite ⊢
  rw [exact_neg]
  cases held : exact x with
  | zero | finite => rfl
  | infinity | notANumber =>
    rw [held] at finite
    cases finite

/-- Negating a number negates its value. -/
theorem value_neg (x : Float32) : value (-x) = -value x := by
  rw [value, value, exact_neg]
  cases exact x with
  | finite s m e pos => cases s <;> simp [UnpackedFloat.neg, signed]
  | zero | infinity | notANumber => simp [UnpackedFloat.neg]

/-- A difference is a sum with what is taken away turned round. -/
theorem sub_eq (x y : Float32) : x - y = x + -y := by
  have difference : x - y = ofExact (UnpackedFloat.sub Format.binary32 (exact x) (exact y)) := rfl
  have sum : x + -y = ofExact (UnpackedFloat.add Format.binary32 (exact x) (exact (-y))) := rfl
  rw [difference, sum, exact_neg]
  congr 1
  cases exact x with
  | finite s m e pos =>
    cases exact y with
    | finite t n f pos' =>
      have apply_neg (k : ℕ) : (-t).apply k = -t.apply k := by cases t <;> simp [Sign.apply]
      simp only [UnpackedFloat.sub, UnpackedFloat.neg, UnpackedFloat.add, apply_neg,
        sub_eq_add_neg]
    | zero | infinity | notANumber => rfl
  | zero | infinity | notANumber => cases exact y <;> rfl

/-- A difference of finite numbers is the difference of their values, rounded. -/
theorem rounds_sub {x y : Float32} (finite : x.isFinite) (finite' : y.isFinite) :
    Rounds (value x - value y) (x - y) := by
  rw [sub_eq, sub_eq_add_neg, ← value_neg]
  exact rounds_add finite (isFinite_neg finite')

/-- An infinity less a finite number is that infinity. -/
theorem exact_infinite_sub {x y : Float32} {s : Sign} (held : exact x = .infinity s)
    (finite : y.isFinite) : exact (x - y) = .infinity s := by
  have difference : x - y = ofExact (UnpackedFloat.sub Format.binary32 (exact x) (exact y)) := rfl
  rw [difference, held]
  obtain ⟨t, held'⟩ | ⟨t, m, e, pos, held', -⟩ := finite_cases finite <;> rw [held'] <;>
    exact exact_ofExact_infinity s

/-- A rounded value is a number. -/
theorem Rounds.isNaN {r : ℝ} {z : Float32} (h : Rounds r z) : z.isNaN = false := by
  have alike : z.isNaN = (exact z).isNaN := rfl
  rw [alike]
  cases h with
  | nearest finite near =>
    obtain ⟨s, held⟩ | ⟨s, m, e, pos, held, -⟩ := finite_cases finite <;> rw [held] <;> rfl
  | above infinite | below infinite => rw [infinite]; rfl

/-- Taking something finite away from a number leaves a number. -/
theorem isNaN_sub {x y : Float32} (number : x.isNaN = false) (finite : y.isFinite) :
    (x - y).isNaN = false := by
  by_cases finite' : x.isFinite
  · exact (rounds_sub finite' finite).isNaN
  · obtain ⟨s, held⟩ := (not_isFinite_cases finite').resolve_left (exact_ne_notANumber number)
    have alike : (x - y).isNaN = (exact (x - y)).isNaN := rfl
    rw [alike, exact_infinite_sub held finite]
    rfl

/-- Taking something positive away from a number does not move it up, even where rounding leaves
nothing of it. -/
theorem rank_sub_le {x y : Float32} (number : x.isNaN = false) (finite : y.isFinite)
    (pos : 0 < y) : rank (x - y) ≤ rank x := by
  have positive := (pos_iff finite).mp pos
  by_cases finite' : x.isFinite
  · cases rounds_sub finite' finite with
    | nearest finite'' near =>
      have le : value (x - y) ≤ value x :=
        near.le_of_le_number (value_whole finite') (by linarith)
      rcases le.lt_or_eq with less | same
      · exact (rank_lt_rank ((lt_iff finite'' finite').mpr less)).le
      · -- The value has not changed, so it is not zero: below zero there is a number to stop at.
        have nonzero : value (x - y) ≠ 0 := by
          intro zero
          have stop := near.le_of_le_number (neg_value_whole finite) (by linarith)
          linarith
        rw [eq_of_value_eq finite'' finite' same nonzero]
    | above infinite beyond =>
      have most := (abs_le.mp (abs_value_le finite')).2.trans_lt largest_lt_overflow
      linarith
    | below infinite beyond =>
      refine (rank_lt_rank ?_).le
      rw [lt_iff_exact, infinite]
      obtain ⟨s, held⟩ | ⟨s, m, e, pos, held, -⟩ := finite_cases finite' <;> rw [held] <;> rfl
  · obtain ⟨s, held⟩ := (not_isFinite_cases finite').resolve_left (exact_ne_notANumber number)
    have same : exact (x - y) = exact x := (exact_infinite_sub held finite).trans held.symm
    exact (rank_eq_of_exact_eq (exact_ne_notANumber number) same).le

end Playfield.Binary32
