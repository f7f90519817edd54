import Playfield.Proofs.Clock
import Playfield.Stage

/-!
Stages that are stepped by a clock.

To let time pass on a clock is to listen to it and to step the stage on every frame that it fires
(`tick_eq_drive`), so a tick is as many steps as there are frames (`tick_eq_steps`). Each of them
brings the session one frame on, as each frame does the clock, and so the two stay as far apart as
they are, over any number of ticks (`frame_ticks`).
-/

namespace Playfield.Stage

/-! ### Several steps -/

/-- A number of steps, and what they draw one after the other. -/
def steps : Nat → Stage → List StepOutput × Stage
  | 0, stage => ([], stage)
  | n + 1, stage =>
    let (outputs, after) := steps n stage.step.2
    (stage.step.1 :: outputs, after)

theorem steps_succ (n : Nat) (stage : Stage) :
    stage.steps (n + 1) =
      (stage.step.1 :: (stage.step.2.steps n).1, (stage.step.2.steps n).2) := rfl

/-- As many frames are shown as there are steps. -/
theorem length_steps (n : Nat) (stage : Stage) : (stage.steps n).1.length = n := by
  induction n generalizing stage with
  | zero => rfl
  | succ n ih => exact congrArg (· + 1) (ih stage.step.2)

theorem frame_steps (n : Nat) (stage : Stage) :
    (stage.steps n).2.session.frame = stage.session.frame + n := by
  induction n generalizing stage with
  | zero => rfl
  | succ n ih =>
    have next : stage.step.2.session.frame = stage.session.frame + 1 := rfl
    rw [steps_succ, ih, next, Nat.add_assoc, Nat.add_comm 1]

/-- The last output of one step more, where another stands in for none. -/
theorem getLast?_steps_succ (n : Nat) (stage : Stage) (last : Option StepOutput) :
    (stage.steps (n + 1)).1.getLast?.or last =
      (stage.step.2.steps n).1.getLast?.or (some stage.step.1) := by
  rw [steps_succ, List.getLast?_cons]
  cases (stage.step.2.steps n).1.getLast? <;> rfl

/-- Of several steps the last output is kept. -/
theorem perform_stepByM (n : Nat) (stage : Stage) (last : Option StepOutput) :
    stage.perform (Session.stepByM n · last) =
      ((stage.steps n).1.getLast?.or last, (stage.steps n).2) := by
  induction n generalizing stage last with
  | zero => rfl
  | succ n ih =>
    have first : stage.perform (Session.stepByM (n + 1) · last) =
        stage.step.2.perform (Session.stepByM n · (some stage.step.1)) := rfl
    rw [first, ih, getLast?_steps_succ]
    rfl

/-! ### Ticks -/

variable (stage : Stage) (clock : Clock) (delta : Float32)

/-- A tick is a step for every frame that fires. -/
theorem tick_eq_steps :
    stage.tick clock delta =
      ((stage.steps (clock.advance delta).1).1.getLast?, (stage.steps (clock.advance delta).1).2,
        (clock.advance delta).2) := by
  have performed := stage.perform_stepByM (clock.advance delta).1 none
  rw [Option.or_none] at performed
  exact congrArg (fun done => (done.1, done.2, (clock.advance delta).2)) performed

/-- Step the stage whatever frame fires, and keep what it draws. -/
def listen (heard : Option StepOutput × Stage) (_frame : Nat) (_elapsed : Float32) :
    Option StepOutput × Stage :=
  (some heard.2.step.1, heard.2.step.2)

/-- Listening to frames is stepping as often, and keeping the last output. -/
theorem foldl_listen (frames : List Nat) (elapsed : Float32) (heard : Option StepOutput × Stage) :
    frames.foldl (fun heard frame => listen heard frame elapsed) heard =
      ((heard.2.steps frames.length).1.getLast?.or heard.1, (heard.2.steps frames.length).2) := by
  induction frames generalizing heard with
  | nil => rfl
  | cons frame rest ih =>
    rw [List.foldl_cons, ih, List.length_cons, getLast?_steps_succ]
    rfl

/-- A tick steps the stage while the clock fires. -/
theorem tick_eq_drive :
    stage.tick clock delta =
      let (heard, _, clock) := clock.drive listen delta (none, stage)
      (heard.1, heard.2, clock) := by
  rw [tick_eq_steps, Clock.drive_eq]
  simp only [foldl_listen, List.length_range', Option.or_none]

/-- A stage and a clock after some lapses of time. -/
def ticks : List Float32 → Stage × Clock → Stage × Clock
  | [], on => on
  | delta :: rest, (stage, clock) => ticks rest (stage.tick clock delta).2

/-- Ticks bring the session and the clock on by the same number of frames. -/
theorem frame_ticks (deltas : List Float32) (stage : Stage) (clock : Clock) :
    ((ticks deltas (stage, clock)).1.session.frame : Int) - (ticks deltas (stage, clock)).2.frame =
      stage.session.frame - clock.frame := by
  induction deltas generalizing stage clock with
  | nil => rfl
  | cons delta rest ih =>
    have stepped : (stage.tick clock delta).2.1.session.frame =
        stage.session.frame + (clock.advance delta).1 := by
      rw [tick_eq_steps]
      exact frame_steps (clock.advance delta).1 stage
    have fired : (stage.tick clock delta).2.2.frame = clock.frame + (clock.advance delta).1 :=
      (clock.advanced delta).frame
    rw [ticks, ih, stepped, fired]
    omega

/-- **The frames of a clock and of the session it drives go in step.** Take a clock as it is made
and call it any number of times. Since the last reset it has fired the frames from zero to the one
before next, in order and each of them once. Over the next lapse of time a listener hears the frames
that follow, as many as the lapse says it fires; these are no more than the limit, which is one at
least, and none where the clock stands or the lapse is no positive finite time, which leaves the
clock as it is. With a stage, the lapse is as many steps as frames fire and gives back what the last
of them draws, or nothing where none fires. So the frame of the session stays as far from that of
the clock as it is. -/
theorem frames_in_step {c : Clock} (made : c.Made) (calls : List Clock.Call) :
    let l := calls.foldl Clock.Log.after ⟨c, []⟩
    l.frames = List.range l.clock.frame ∧ l.clock.maxCatchUp = c.maxCatchUp ∧ 1 ≤ c.maxCatchUp ∧
    (∀ delta : Float32,
      let fired := (l.clock.advance delta).1
      let clock := (l.clock.advance delta).2
      l.clock.Advanced delta fired clock ∧
      (∀ {σ : Type} (listen : σ → Nat → Float32 → σ) (heard : σ),
        l.clock.drive listen delta heard =
          ((List.range' l.clock.frame fired).foldl
            (fun heard frame => listen heard frame clock.elapsed) heard, fired, clock)) ∧
      l.clock.firedFrames delta = (List.range' l.clock.frame fired).map (·, clock.elapsed) ∧
      ∀ stage : Stage,
        (stage.tick l.clock delta =
          let (heard, _, clock) := l.clock.drive listen delta (none, stage)
          (heard.1, heard.2, clock)) ∧
        stage.tick l.clock delta =
          ((stage.steps fired).1.getLast?, (stage.steps fired).2, clock) ∧
        (stage.steps fired).1.length = fired) ∧
    ∀ (stage : Stage) (deltas : List Float32),
      ((ticks deltas (stage, l.clock)).1.session.frame : Int) -
          (ticks deltas (stage, l.clock)).2.frame =
        stage.session.frame - l.clock.frame := by
  intro l
  have start : Clock.Log.Complete c.maxCatchUp ⟨c, []⟩ :=
    ⟨congrArg List.range made.frame.symm, rfl⟩
  have complete : l.Complete c.maxCatchUp := start.foldl_after calls
  refine ⟨complete.frames, complete.limit, made.maxCatchUp_pos, ?_, ?_⟩
  · intro delta fired clock
    refine ⟨l.clock.advanced delta, ?_, l.clock.firedFrames_eq delta, ?_⟩
    · intro σ listen heard
      exact l.clock.drive_eq listen delta heard
    · intro stage
      exact ⟨stage.tick_eq_drive l.clock delta, stage.tick_eq_steps l.clock delta,
        stage.length_steps fired⟩
  · intro stage deltas
    exact frame_ticks deltas stage l.clock

/-- Play that is paused and started over, with lapses that do not count. -/
def whistled : List Clock.Call :=
  [.advance 1, .start, .advance 0.1, .stop, .advance 1, .start, .reset, .advance (0 / 0),
    .advance (-1), .advance 0.04, .advance (1 / 0), .advance 0.02]

/-- The frames of a match that has been whistled off and started over. -/
theorem frames_in_step_whistled :
    let l := whistled.foldl Clock.Log.after ⟨.ofRate 60, []⟩
    let stage : Stage := .ofSettings {}
    Clock.Made (.ofRate 60) ∧ l.frames = [0, 1, 2] ∧
      (l.clock.advance 9).1 ≤ 8 ∧
      ((ticks [0.1, 0.02, 9] (stage, l.clock)).1.session.frame : Int) -
        (ticks [0.1, 0.02, 9] (stage, l.clock)).2.frame = -3 := by
  intro l stage
  obtain ⟨frames, limit, -, lapse, apart⟩ := frames_in_step (.ofRate 60) whistled
  have frame : l.clock.frame = 3 := by decide +kernel
  refine ⟨.ofRate 60, ?_, ?_, ?_⟩
  · rw [frames, frame]
    rfl
  · exact Nat.le_trans (lapse 9).1.bounded (Nat.le_of_eq limit)
  · rw [apart, frame]
    rfl

end Playfield.Stage
