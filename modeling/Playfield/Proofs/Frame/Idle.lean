import Playfield.Proofs.Binary32.Remainder
import Playfield.Proofs.Frame.Bounds
import Playfield.Proofs.Frame.Turn

/-!
Agents that do nothing.

Without behaviors there is no force, and adding none of it changes no velocity. Shortening a vector
scales it by one at most, and so does the damping unless it is authored greater than one; rounding
takes neither product past the number that it began with (`Binary32.mul_le_self`). So an agent that
does nothing keeps to its damped velocity, and does not speed up unless its damping is greater than
one (`idle_below`). A greater damping is accepted, and then it does (`idle_speeds_up`).
-/

namespace Playfield

open Binary32 (value le_iff)

/-! ### Scales of at most one -/

namespace Binary32

/-- Rounding takes no value past a number that it does not exceed. -/
theorem Nearest.abs_le_value {z r : ℝ} {x : Float32} (h : Nearest z r) (finite : x.isFinite)
    (le : |r| ≤ |value x|) : |z| ≤ |value x| := by
  have number : ∃ n : ℤ, |value x| = n * 2 ^ grain |value x| := by
    rw [← value_abs]
    exact value_whole (isFinite_abs finite)
  have number' : ∃ n : ℤ, -|value x| = n * 2 ^ grain (-|value x|) := by
    rw [← value_abs]
    exact neg_value_whole (isFinite_abs finite)
  obtain ⟨low, high⟩ := abs_le.mp le
  exact abs_le.mpr ⟨h.ge_of_ge_number number' low, h.le_of_le_number number high⟩

/-- A scale of at most one makes no number larger. -/
theorem mul_le_self {x scale : Float32} (finite : x.isFinite) (finite' : scale.isFinite)
    (nonneg : 0 ≤ value scale) (most : value scale ≤ 1) :
    (x * scale).isFinite ∧ |value (x * scale)| ≤ |value x| := by
  have rounds := rounds_mul finite finite'
  have less : |value x * value scale| ≤ |value x| := by
    rw [abs_mul, abs_of_nonneg nonneg]
    exact mul_le_of_le_one_right (abs_nonneg _) most
  have bounded := rounds.isFinite (less.trans (abs_value_le finite))
  exact ⟨bounded, (rounds.near bounded).abs_le_value finite less⟩

/-- Adding a zero changes nothing, unless it turns one zero into the other. -/
theorem add_zero_cases {x y : Float32} (finite : x.isFinite) (finite' : y.isFinite)
    (zero : value y = 0) : x + y = x ∨ (x + y).isFinite ∧ value (x + y) = 0 := by
  have rounds := rounds_add finite finite'
  rw [zero, add_zero] at rounds
  have bounded := rounds.isFinite (abs_value_le finite)
  have same := (rounds.near bounded).eq_of_whole (value_whole finite)
  by_cases none : value (x + y) = 0
  · exact .inr ⟨bounded, none⟩
  · exact .inl (eq_of_value_eq bounded finite same none)

/-- What rounds a zero is one. -/
theorem Rounds.value_eq_zero {z : Float32} (h : Rounds 0 z) : z.isFinite ∧ value z = 0 := by
  have finite := h.isFinite (by norm_num [largest])
  exact ⟨finite, (h.near finite).eq_of_whole ⟨0, by simp⟩⟩

/-- A product is no larger where a zero was added to its first factor. -/
theorem add_zero_mul_le {x y scale : Float32} (finite : x.isFinite) (finite' : y.isFinite)
    (zero : value y = 0) (finiteScale : scale.isFinite) (scaled : (x * scale).isFinite) :
    ((x + y) * scale).isFinite ∧ |value ((x + y) * scale)| ≤ |value (x * scale)| := by
  rcases add_zero_cases finite finite' zero with same | ⟨bounded, gone⟩
  · rw [same]
    exact ⟨scaled, le_rfl⟩
  · have rounds := rounds_mul bounded finiteScale
    rw [gone, zero_mul] at rounds
    obtain ⟨bounded', none⟩ := rounds.value_eq_zero
    rw [none, abs_zero]
    exact ⟨bounded', abs_nonneg _⟩

/-- Zero divided by a positive number is zero. -/
theorem value_zero_div {y : Float32} (finite : y.isFinite) (pos : 0 < y) :
    (0 / y).isFinite ∧ value (0 / y) = 0 := by
  have rounds := rounds_div (x := 0) rfl finite ((pos_iff finite).mp pos).ne'
  rw [value_zero, zero_div] at rounds
  exact rounds.value_eq_zero

end Binary32

namespace Vec2

/-- A finite vector no component of which is larger, in absolute value, than that of another one. -/
def Below (a b : Vec2) : Prop :=
  a.isFinite ∧ a.x.abs ≤ b.x.abs ∧ a.y.abs ≤ b.y.abs

variable {a b c : Vec2} {scale limit : Float32}

/-- A vector is below a finite one iff it is finite and no larger in either component. -/
theorem below_iff (finite : b.isFinite) :
    a.Below b ↔
      a.isFinite ∧ |value a.x| ≤ |value b.x| ∧ |value a.y| ≤ |value b.y| := by
  obtain ⟨finiteX, finiteY⟩ := b.isFinite_iff.mp finite
  refine and_congr_right fun finite' => ?_
  obtain ⟨finiteX', finiteY'⟩ := a.isFinite_iff.mp finite'
  rw [le_iff (Binary32.isFinite_abs finiteX') (Binary32.isFinite_abs finiteX),
    le_iff (Binary32.isFinite_abs finiteY') (Binary32.isFinite_abs finiteY)]
  simp only [Binary32.value_abs]

theorem Below.refl (finite : a.isFinite) : a.Below a :=
  (below_iff finite).mpr ⟨finite, le_rfl, le_rfl⟩

theorem Below.trans (h : a.Below b) (h' : b.Below c) (finite : c.isFinite) : a.Below c := by
  obtain ⟨bounded, x, y⟩ := (below_iff h'.1).mp h
  obtain ⟨-, x', y'⟩ := (below_iff finite).mp h'
  exact (below_iff finite).mpr ⟨bounded, x.trans x', y.trans y'⟩

/-- A scale from zero to one makes no component of a finite vector larger. -/
theorem below_mul (finite : a.isFinite) (finite' : scale.isFinite) (nonneg : 0 ≤ value scale)
    (most : value scale ≤ 1) : (a * scale).Below a := by
  obtain ⟨finiteX, finiteY⟩ := a.isFinite_iff.mp finite
  obtain ⟨boundedX, lessX⟩ := Binary32.mul_le_self finiteX finite' nonneg most
  obtain ⟨boundedY, lessY⟩ := Binary32.mul_le_self finiteY finite' nonneg most
  exact (below_iff finite).mpr ⟨(isFinite_iff _).mpr ⟨boundedX, boundedY⟩, lessX, lessY⟩

/-- Nor does shortening it. -/
theorem below_clampLength (finite : a.isFinite) (finite' : limit.isFinite) (nonneg : 0 ≤ limit) :
    (a.clampLength limit).Below a := by
  rw [le_iff rfl finite', Binary32.value_zero] at nonneg
  by_cases longer : limit < a.length ∧ 0 < a.length
  · rw [clampLength_of_longer longer]
    rcases reaches_length finite with infinite | ⟨bounded, -, -⟩
    · obtain ⟨s, none⟩ := Binary32.div_infinite finite' infinite
      have zero : value (limit / a.length) = 0 := Binary32.value_of_zero none
      have scaled : (limit / a.length).isFinite := by
        rw [Binary32.isFinite_eq, none]
        rfl
      exact below_mul finite scaled zero.ge (by simp [zero])
    · obtain ⟨scaled, least, most, -⟩ := scale_bounds finite' bounded nonneg
        ((Binary32.lt_iff finite' bounded).mp longer.1)
      exact below_mul finite scaled least most
  · rw [clampLength_of_not_longer longer]
    exact .refl finite

/-- A vector that has a zero added to it is scaled as it was before. -/
theorem below_add_zero_mul {none : Vec2} (finite : a.isFinite)
    (zeroX : none.x.isFinite ∧ value none.x = 0) (zeroY : none.y.isFinite ∧ value none.y = 0)
    (finite' : scale.isFinite) (scaled : (a * scale).isFinite) :
    ((a + none) * scale).Below (a * scale) := by
  obtain ⟨finiteX, finiteY⟩ := a.isFinite_iff.mp finite
  obtain ⟨scaledX, scaledY⟩ := (isFinite_iff _).mp scaled
  obtain ⟨boundedX, lessX⟩ :=
    Binary32.add_zero_mul_le finiteX zeroX.1 zeroX.2 finite' scaledX
  obtain ⟨boundedY, lessY⟩ :=
    Binary32.add_zero_mul_le finiteY zeroY.1 zeroY.2 finite' scaledY
  exact (below_iff scaled).mpr ⟨(isFinite_iff _).mpr ⟨boundedX, boundedY⟩, lessX, lessY⟩

end Vec2

/-! ### Parameters -/

namespace Agent

variable (agent : Agent)

/-- The mass of an agent is finite and positive. -/
theorem limit_mass : agent.params.mass.isFinite ∧ 0 < agent.params.mass :=
  Binary32.sanitize_sound ⟨rfl, by decide⟩

theorem limit_damping : agent.params.damping.isFinite ∧ 0 ≤ agent.params.damping :=
  Binary32.sanitize_sound ⟨rfl, by decide⟩

/-- The damping that counts is at most one if the one that was authored is, or is not finite. -/
theorem damping_le_one {agent : Agent} (authored : ∀ d ∈ agent.damping, d.isFinite → d ≤ 1) :
    agent.params.damping ≤ 1 := by
  have usual : (1 : Float32) ≤ 1 := by decide
  change Binary32.sanitize agent.damping 1 (fun d => 0 ≤ d) ≤ 1
  unfold Binary32.sanitize
  split
  · rename_i d given
    split
    · rename_i sound
      exact authored d given (Bool.and_eq_true_iff.mp sound).1
    · exact usual
  · exact usual

end Agent

/-! ### One frame -/

namespace Frame

variable {o : SceneObject} {agent : Agent} {s : AgentState}

/-- Without behaviors there is no force. -/
theorem steeringForce_nil (context : SteeringContext) (a : Steered) :
    (steeringForce [] context a).1 = Vec2.zero := by
  have short : ¬(context.params.maxForce < Vec2.zero.length ∧ 0 < Vec2.zero.length) :=
    fun longer => absurd longer.2 (by decide)
  exact Vec2.clampLength_of_not_longer short

/-- Without behaviors and a keyframe a step ends with no more than the damped velocity. -/
theorem stepAgent_below {snap : AgentStates} {published : Formula.Published} {ctx : FrameContext}
    (found : snap.get? o.id = some s) (free : s.keyframe = none)
    (idle : s.behaviorOverride.getD agent.behaviors = []) (finite : s.velocity.isFinite)
    (damped : (s.velocity * agent.params.damping).isFinite) :
    (stepAgent o agent snap published ctx).velocity.Below
      (s.velocity * agent.params.damping) := by
  have none := Binary32.value_zero_div agent.limit_mass.1 agent.limit_mass.2
  have pushed : ((s.velocity + Vec2.zero / agent.params.mass) * agent.params.damping).Below
      (s.velocity * agent.params.damping) :=
    Vec2.below_add_zero_mul finite none none agent.limit_damping.1 damped
  have shortened := Vec2.below_clampLength pushed.1 agent.limit_maxSpeed.1 agent.limit_maxSpeed.2
  rw [stepAgent_velocity found free, idle, steeringForce_nil]
  exact shortened.trans pushed damped

/-- **An agent that does nothing does not speed up.** A visible agent without a keyframe and without
behaviors, those that stand in for its own included, is left with a velocity no component of which is
larger than before, in absolute value, unless a finite damping greater than one was authored for it.
With any damping no component is larger than that of the damped velocity, if this one is finite. -/
theorem idle_below {scene : Scene} {ctx : FrameContext} {previous : AgentStates} {p : Progress}
    (last : LastTurn scene ctx previous o p) (is : o.agent? = some agent) (visible : p.sees ctx o)
    (found : (startStates scene ctx previous).get? o.id = some s) (free : s.keyframe = none)
    (idle : s.behaviorOverride.getD agent.behaviors = []) (finite : s.velocity.isFinite) :
    ∃ next, (resolve scene ctx previous).states.get? o.id = some next ∧
      ((∀ d ∈ agent.damping, d.isFinite → d ≤ 1) → next.velocity.Below s.velocity) ∧
      ((s.velocity * agent.params.damping).isFinite →
        next.velocity.Below (s.velocity * agent.params.damping)) := by
  refine ⟨_, last.resolve_states_get? is visible, fun authored => ?_,
    stepAgent_below found free idle finite⟩
  obtain ⟨bounded, nonneg⟩ := agent.limit_damping
  have most := Agent.damping_le_one authored
  rw [le_iff rfl bounded, Binary32.value_zero] at nonneg
  rw [le_iff bounded rfl, Binary32.value_one] at most
  have damped := Vec2.below_mul finite bounded nonneg most
  exact (stepAgent_below found free idle finite damped.1).trans damped finite

/-- An agent without behaviors. -/
def sled (damping : Float32) : SceneObject :=
  { id := "sled", kind := .agent { damping := some damping } }

def slope (damping : Float32) : Scene :=
  { objects := [sled damping] }

/-- The sled on its way. -/
def sliding : AgentState :=
  { position := Vec2.zero, velocity := ⟨1, -0.5⟩ }

def underway : AgentStates :=
  IdMap.empty.insert "sled" sliding

def dusk : FrameContext :=
  ⟨0, 0, ⟨800, 600⟩, 7⟩

/-- A sled on a slope that slows down. -/
theorem idle_below_sled :
    LastTurn (slope 0.9) dusk underway (sled 0.9) .start ∧
      Progress.start.sees dusk (sled 0.9) ∧
      (startStates (slope 0.9) dusk underway).get? "sled" = some sliding ∧
      sliding.keyframe = none ∧ sliding.behaviorOverride = none ∧ sliding.velocity.isFinite ∧
      ∃ next, (resolve (slope 0.9) dusk underway).states.get? "sled" = some next ∧
        next.velocity.Below sliding.velocity := by
  have last : LastTurn (slope 0.9) dusk underway (sled 0.9) .start :=
    lastTurn_turn (by decide) List.mem_cons_self
  have authored : ∀ d ∈ some (0.9 : Float32), d.isFinite → d ≤ 1 := by decide
  obtain ⟨next, left, below, -⟩ := idle_below last rfl rfl (s := sliding) rfl rfl rfl rfl
  exact ⟨last, rfl, rfl, rfl, rfl, rfl, next, left, below authored⟩

/-- A damping of two is accepted, and doubles the velocity. -/
theorem idle_speeds_up :
    let pushed : AgentState := { position := ⟨2, -1⟩, velocity := ⟨2, -1⟩ }
    (sled 2).agent? = some { damping := some 2 } ∧
      LastTurn (slope 2) dusk underway (sled 2) .start ∧ Progress.start.sees dusk (sled 2) ∧
      (startStates (slope 2) dusk underway).get? "sled" = some sliding ∧
      sliding.keyframe = none ∧ sliding.behaviorOverride = none ∧
      sliding.position.isFinite ∧ sliding.velocity.isFinite ∧
      (resolve (slope 2) dusk underway).states.get? "sled" = some pushed ∧
      ¬pushed.velocity.Below sliding.velocity := by
  intro pushed
  have last : LastTurn (slope 2) dusk underway (sled 2) .start :=
    lastTurn_turn (by decide) List.mem_cons_self
  refine ⟨rfl, last, rfl, rfl, rfl, rfl, rfl, rfl, by decide +kernel, fun below => ?_⟩
  exact absurd below.2.1 (by decide)

end Frame

end Playfield
