import Playfield.Proofs.Binary32.Arithmetic
import Playfield.Session

/-!
The rate of a session's frames and the size of its canvas.

The settings stand in for what a scene leaves open or gives wrongly, and nothing stands in for the
settings: the rate, the width and the height of a session are positive finite numbers if the scene's
own are, or else those of the settings (`positive_positiveOr_iff`). With such a rate time is a number
and the clock of the session goes by the same rate (`timed_iff`).
-/

namespace Playfield

/-- A positive finite number. -/
def Positive (x : Float32) : Prop :=
  x.isFinite ∧ 0 < x

namespace Scene

/-- A number with a fallback is positive iff the one that is given is, or the fallback. -/
theorem positive_positiveOr_iff {given : Option Float32} {fallback : Float32} :
    Positive (positiveOr given fallback) ↔ (∃ v ∈ given, Positive v) ∨ Positive fallback := by
  have choice := @Binary32.sanitize_iff given fallback fun v => 0 < v
  simp only [decide_eq_true_eq] at choice
  exact choice

end Scene

namespace Clock

/-- A clock of a positive rate has its reciprocal as the interval. -/
theorem interval_ofRate {rate : Float32} (positive : Positive rate) :
    (ofRate rate).interval = 1 / rate := by
  obtain ⟨finite, above⟩ := positive
  simp [ofRate, Binary32.sanitize, finite, above]

/-- For a rate that makes no sense a clock has an interval of its own. -/
theorem interval_ofRate_of_not {rate : Float32} (senseless : ¬Positive rate) :
    (ofRate rate).interval = 1 / defaultRate := by
  have refused : ¬(rate.isFinite && decide (0 < rate)) := by simpa [Positive] using senseless
  simp only [ofRate, Binary32.sanitize, if_neg refused]

end Clock

namespace Session

/-- **Time goes on if the settings are sound.** The rate by which a session divides the number of a
frame is a positive finite number if that of the scene is or else that of the settings, and likewise
the two sides of the canvas. By such a rate the clock of the session makes its frames, and the time
of every frame is a number that is not negative; by any other rate the clock goes on with an interval
of its own. -/
theorem timed_iff (s : Session) :
    let rate := s.scene.frameRate s.settings
    (Positive rate ↔ (∃ r ∈ s.scene.fps, Positive r) ∨ Positive s.settings.fps) ∧
      (Positive s.context.canvas.x ↔
        (∃ w ∈ s.scene.width, Positive w) ∨ Positive s.settings.width) ∧
      (Positive s.context.canvas.y ↔
        (∃ h ∈ s.scene.height, Positive h) ∨ Positive s.settings.height) ∧
      s.context.t = Binary32.ofNat s.frame / rate ∧
      (Positive rate →
        s.clock.interval = 1 / rate ∧ 0 ≤ s.context.t ∧ s.context.t.isNaN = false) ∧
      (¬Positive rate → s.clock.interval = 1 / Clock.defaultRate) := by
  intro rate
  refine ⟨Scene.positive_positiveOr_iff, Scene.positive_positiveOr_iff,
    Scene.positive_positiveOr_iff, rfl, ?_, Clock.interval_ofRate_of_not⟩
  intro positive
  have time : 0 ≤ s.context.t :=
    Binary32.zero_le_div ((Binary32.rounds_ofNat s.frame).zero_le (Nat.cast_nonneg _))
      positive.1 positive.2
  exact ⟨Clock.interval_ofRate positive, time, Binary32.isNaN_eq_false_of_le time⟩

/-- A session at its third frame, at the rate of its settings. -/
def matinee : Session :=
  { scene := { fps := some 0 }, settings := { fps := 25 }, frame := 2 }

theorem timed_iff_matinee :
    Positive matinee.settings.fps ∧ Positive (matinee.scene.frameRate matinee.settings) ∧
      matinee.clock.interval = 1 / matinee.scene.frameRate matinee.settings ∧
      0 ≤ matinee.context.t ∧ matinee.context.t.isNaN = false := by
  have settings : Positive matinee.settings.fps := ⟨rfl, by decide⟩
  obtain ⟨rate, -, -, -, timed, -⟩ := timed_iff matinee
  have positive := rate.mpr (.inr settings)
  exact ⟨settings, positive, timed positive⟩

/-- A new session whose settings stop the frames. -/
def intermission : Session :=
  .ofScene {} { fps := 0 }

/-- The session divides by zero, and its first frame has no time, while its clock goes on. -/
theorem intermission_untimed :
    ¬Positive (intermission.scene.frameRate intermission.settings) ∧
      intermission.context.t.isNaN = true ∧ intermission.clock.interval = 1 / 60 := by
  refine ⟨fun positive => ?_, ?_, ?_⟩
  · exact absurd positive.2 (by decide)
  · decide
  · decide

end Session

end Playfield
