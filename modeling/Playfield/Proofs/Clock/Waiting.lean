import Playfield.Proofs.Binary32.Remainder
import Playfield.Proofs.Clock

/-!
The time that waits on a clock.

Between two calls less than one interval waits. A lapse of time ends either with less than that left,
or at the limit of frames, and then only the remainder of whole intervals is kept, which is exact
(`kept_bounds`). The sum that a lapse begins with stays finite, since it is below that of one interval
and the longest lapse. So the bound holds after any calls, and the running time goes on until it is
reset (`waiting_lt_interval`).
-/

namespace Playfield

open Binary32 (value rounds_sub rounds_div rounds_add le_iff lt_iff)

namespace Clock

/-! ### Taking intervals out -/

section Interval

variable {interval waiting : Float32}

/-- An interval that fits into the time that waits is taken out of it. -/
theorem sub_interval (finite : interval.isFinite) (pos : 0 < value interval)
    (finite' : waiting.isFinite) (fits : interval ≤ waiting) :
    (waiting - interval).isFinite ∧ 0 ≤ value (waiting - interval) := by
  have fits := (le_iff finite finite').mp fits
  have rounds := rounds_sub finite' finite
  have most := (abs_le.mp (Binary32.abs_value_le finite')).2
  have bounded : (waiting - interval).isFinite := by
    refine rounds.isFinite ?_
    rw [abs_of_nonneg (sub_nonneg.mpr fits)]
    linarith
  exact ⟨bounded, (rounds.near bounded).nonneg (sub_nonneg.mpr fits)⟩

/-- Taking intervals out leaves a finite time that is not negative. -/
theorem drain_nonneg (finite : interval.isFinite) (pos : 0 < value interval) (most taken : ℕ)
    (waits : waiting.isFinite ∧ 0 ≤ value waiting) :
    (drain interval most taken waiting).2.isFinite ∧
      0 ≤ value (drain interval most taken waiting).2 := by
  induction most generalizing taken waiting with
  | zero => exact waits
  | succ most ih =>
    unfold drain
    split
    · rename_i fits
      exact ih (taken + 1) (sub_interval finite pos waits.1 fits)
    · exact waits

/-- What is kept of the time that is left when no more frames fire: less than an interval. -/
theorem kept_bounds {left : Float32} (finite : interval.isFinite) (pos : 0 < value interval)
    (waits : left.isFinite ∧ 0 ≤ value left) :
    let kept := if interval ≤ left then Binary32.rem left interval else left
    kept.isFinite ∧ 0 ≤ value kept ∧ value kept < value interval := by
  intro kept
  by_cases backlog : interval ≤ left
  · have dropped : kept = Binary32.rem left interval := if_pos backlog
    have above := (le_iff finite waits.1).mp backlog
    obtain ⟨bounded, remainder⟩ := Binary32.rem_exact waits.1 finite pos.ne'
    have less := remainder.less
    rw [abs_of_pos pos] at less
    rw [dropped]
    exact ⟨bounded, nonneg_of_mul_nonneg_right remainder.side (pos.trans_le above),
      (le_abs_self _).trans_lt less⟩
  · have whole : kept = left := if_neg backlog
    rw [whole]
    exact ⟨waits.1, waits.2, not_le.mp fun le => backlog ((le_iff finite waits.1).mpr le)⟩

end Interval

/-! ### Intervals and lapses -/

/-- The interval of a rate is not lost in rounding. -/
theorem interval_pos {rate : Float32} (finite : rate.isFinite) (pos : 0 < rate)
    (finite' : (1 / rate).isFinite) : 0 < value (1 / rate) := by
  have positive := (Binary32.pos_iff finite).mp pos
  have rounds : Binary32.Rounds (1 / value rate) (1 / rate) := by
    rw [← Binary32.value_one]
    exact rounds_div rfl finite positive.ne'
  have close := (abs_le.mp (rounds.near finite').error).1
  have least : 1 / Binary32.largest ≤ 1 / value rate :=
    one_div_le_one_div_of_le positive (abs_le.mp (Binary32.abs_value_le finite)).2
  rw [abs_of_pos (one_div_pos.mpr positive), Binary32.roundoff, Binary32.underflow] at close
  rw [Binary32.largest] at least
  generalize 1 / value rate = r at close least
  norm_num at close least
  linarith

/-- A lapse of time counts as long as it is, or as the longest one that counts. -/
theorem lapse_bounds {delta most : Float32} (finite : delta.isFinite) (pos : 0 < delta)
    (finite' : most.isFinite) (pos' : 0 < value most) :
    (Binary32.min delta most).isFinite ∧ 0 < value (Binary32.min delta most) ∧
      value (Binary32.min delta most) ≤ value most := by
  unfold Binary32.min
  split
  · rename_i shorter
    have number : most.isNaN = false := by
      refine Binary32.isNaN_eq_false_of_le (x := 0) ?_
      rw [le_iff rfl finite', Binary32.value_zero]
      exact pos'.le
    have shorter : delta < most :=
      of_decide_eq_true ((Bool.or_eq_true_iff.mp shorter).resolve_left (by rw [number]; simp))
    exact ⟨finite, (Binary32.pos_iff finite).mp pos, ((lt_iff finite finite').mp shorter).le⟩
  · exact ⟨finite', pos', le_rfl⟩

/-! ### Any number of calls -/

/-- The clock after a call. -/
def after (c : Clock) : Call → Clock
  | .start => c.start
  | .stop => c.stop
  | .reset => c.reset
  | .advance delta => (c.advance delta).2

/-- What every call keeps of a clock whose interval and longest lapse have a finite sum. -/
structure Sound (c : Clock) : Prop where
  interval : c.interval.isFinite ∧ 0 < value c.interval
  lapse : c.maxDelta.isFinite ∧ 0 < value c.maxDelta
  sum : (c.interval + c.maxDelta).isFinite
  waiting : c.waiting.isFinite ∧ 0 ≤ value c.waiting ∧ value c.waiting < value c.interval
  elapsed : 0 ≤ c.elapsed

/-- A clock is made sound if its interval, and its sum with the longest lapse, are finite. -/
theorem Made.sound {c : Clock} (made : c.Made) (finite : c.interval.isFinite)
    (sum : (c.interval + c.maxDelta).isFinite) : c.Sound := by
  have rate (fps : Float32) :
      (Clock.ofRate fps).interval.isFinite → 0 < value (Clock.ofRate fps).interval := by
    obtain ⟨bounded, pos⟩ :=
      @Binary32.sanitize_sound (some fps) defaultRate (0 < ·) _ ⟨rfl, by decide⟩
    exact interval_pos bounded pos
  have usual : (0.25 : Float32).isFinite ∧ (0 : Float32) < 0.25 := ⟨rfl, by decide⟩
  have start (pos : 0 < value c.interval) (lapse : c.maxDelta.isFinite ∧ 0 < c.maxDelta)
      (waiting : c.waiting = 0) (elapsed : c.elapsed = 0) : c.Sound := by
    refine ⟨⟨finite, pos⟩, ⟨lapse.1, (Binary32.pos_iff lapse.1).mp lapse.2⟩, sum, ?_, ?_⟩
    · rw [waiting, Binary32.value_zero]
      exact ⟨rfl, le_rfl, pos⟩
    · rw [elapsed]
      decide
  cases made with
  | ofRate fps => exact start (rate fps finite) usual rfl rfl
  | ofSettings fps settings =>
    exact start (rate fps finite) (Binary32.sanitize_sound usual) rfl rfl

namespace Sound

variable {c : Clock}

/-- The time that waits when a lapse begins is below an interval and the longest lapse together. -/
theorem waiting_add (sound : c.Sound) {lapse : Float32} (finite : lapse.isFinite)
    (pos : 0 < value lapse) (most : value lapse ≤ value c.maxDelta) :
    (c.waiting + lapse).isFinite ∧ 0 ≤ value (c.waiting + lapse) := by
  obtain ⟨finite', nonneg, less⟩ := sound.waiting
  have rounds := rounds_add finite' finite
  have bounded := rounds.isFinite_of_rounds (rounds_add sound.interval.1 sound.lapse.1) sound.sum
    (add_nonneg nonneg pos.le) (add_lt_add_of_lt_of_le less most)
  exact ⟨bounded, (rounds.near bounded).nonneg (add_nonneg nonneg pos.le)⟩

/-- A lapse of time keeps a clock sound and its running time growing. -/
theorem advance (sound : c.Sound) (delta : Float32) :
    (c.advance delta).2.Sound ∧ c.elapsed ≤ (c.advance delta).2.elapsed := by
  by_cases passes : (c.running && delta.isFinite && decide (0 < delta)) = true
  · simp only [Clock.advance, passes, if_true]
    simp only [Bool.and_eq_true, decide_eq_true_eq] at passes
    obtain ⟨⟨-, finite⟩, pos⟩ := passes
    obtain ⟨finite, pos, most⟩ := lapse_bounds finite pos sound.lapse.1 sound.lapse.2
    have left := drain_nonneg sound.interval.1 sound.interval.2 c.maxCatchUp 0
      (sound.waiting_add finite pos most)
    have nonneg : 0 ≤ Binary32.min delta c.maxDelta := by
      rw [le_iff rfl finite, Binary32.value_zero]
      exact pos.le
    exact ⟨⟨sound.interval, sound.lapse, sound.sum,
      kept_bounds sound.interval.1 sound.interval.2 left,
      Binary32.zero_le_add sound.elapsed nonneg⟩, Binary32.le_add sound.elapsed finite pos⟩
  · have stays : (c.advance delta).2 = c := by rw [Clock.advance, if_neg passes]
    rw [stays]
    exact ⟨sound, Binary32.le_self (Binary32.isNaN_eq_false_of_le sound.elapsed)⟩

/-- A call keeps a clock sound. -/
theorem after (sound : c.Sound) (call : Call) : (c.after call).Sound := by
  cases call with
  | start | stop => exact ⟨sound.interval, sound.lapse, sound.sum, sound.waiting, sound.elapsed⟩
  | reset =>
    have none : (0 : Float32).isFinite ∧ 0 ≤ value 0 ∧ value 0 < value c.interval := by
      rw [Binary32.value_zero]
      exact ⟨rfl, le_rfl, sound.interval.2⟩
    have start : (0 : Float32) ≤ 0 := by decide
    exact ⟨sound.interval, sound.lapse, sound.sum, none, start⟩
  | advance delta => exact (sound.advance delta).1

theorem foldl_after (sound : c.Sound) (calls : List Call) : (calls.foldl Clock.after c).Sound := by
  induction calls generalizing c with
  | nil => exact sound
  | cons call rest ih => exact ih (sound.after call)

/-- Only a reset takes the running time back. -/
theorem elapsed_le (sound : c.Sound) {call : Call} (goes : call ≠ .reset) :
    c.elapsed ≤ (c.after call).elapsed := by
  cases call with
  | start | stop => exact Binary32.le_self (Binary32.isNaN_eq_false_of_le sound.elapsed)
  | reset => exact absurd rfl goes
  | advance delta => exact (sound.advance delta).2

end Sound

theorem interval_after (c : Clock) (call : Call) : (c.after call).interval = c.interval := by
  cases call with
  | start | stop | reset => rfl
  | advance delta =>
    simp only [after, advance]
    split <;> rfl

theorem interval_foldl_after (c : Clock) (calls : List Call) :
    (calls.foldl after c).interval = c.interval := by
  induction calls generalizing c with
  | nil => rfl
  | cons call rest ih => exact (ih (c.after call)).trans (c.interval_after call)

/-- **Less than an interval waits between two calls.** Whatever has been asked of a clock whose
interval and longest lapse have a finite sum, the time that waits is from zero to below the interval
with which the clock was made, also after a lapse that left more frames than the limit lets fire. No
call but a reset takes the running time back, and a reset takes it to zero. -/
theorem waiting_lt_interval {c : Clock} (made : c.Made) (finite : c.interval.isFinite)
    (sum : (c.interval + c.maxDelta).isFinite) (calls : List Call) :
    let d := calls.foldl after c
    d.interval = c.interval ∧ 0 ≤ d.waiting ∧ d.waiting < d.interval ∧
      (∀ call, call ≠ .reset → d.elapsed ≤ (d.after call).elapsed) ∧ d.reset.elapsed = 0 := by
  intro d
  have sound : d.Sound := (made.sound finite sum).foldl_after calls
  obtain ⟨bounded, nonneg, less⟩ := sound.waiting
  refine ⟨c.interval_foldl_after calls, ?_, ?_, fun call goes => sound.elapsed_le goes, rfl⟩
  · rwa [le_iff rfl bounded, Binary32.value_zero]
  · exact (lt_iff bounded sound.interval.1).mpr less

/-- A clock of four frames in a second that fires three of them for one lapse. -/
def shotClock : Clock :=
  ofSettings 4 { maxCatchUpFrames := 3, maxDeltaSeconds := 10 }

/-- Twenty frames are over at the second call, and seventeen of them are dropped. -/
def overtime : List Call :=
  [.start, .advance 5.1, .stop, .advance 3, .start, .advance 0.2]

/-- The shot clock after overtime. -/
theorem waiting_lt_interval_shotClock :
    ((shotClock.after .start).advance 5.1).1 = 3 ∧
      shotClock.interval.isFinite ∧ (shotClock.interval + shotClock.maxDelta).isFinite ∧
      (overtime.foldl after shotClock).waiting < (overtime.foldl after shotClock).interval := by
  have finite : shotClock.interval.isFinite := by decide +kernel
  have sum : (shotClock.interval + shotClock.maxDelta).isFinite := by decide +kernel
  obtain ⟨-, -, less, -⟩ := waiting_lt_interval (.ofSettings 4 _) finite sum overtime
  exact ⟨by decide +kernel, finite, sum, less⟩

end Clock

end Playfield
