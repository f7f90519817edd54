import Playfield.Proofs.Session.Reachable

/-!
Frames that are drawn and frames that are not.

A step draws its frame and records trails, a run does neither. Both leave the same simulation:
stepping and running go on in lockstep, apart by the trails at most (`stepBy_advanceBy`). A run is
therefore as many steps (`run_eq_steps`), and two runs one after the other are one run.
-/

namespace Playfield.Session

/-! ### Trails aside -/

/-- Two sessions that differ at most in the trails that they have recorded. -/
def SameButTrails (s s' : Session) : Prop :=
  ∃ trails, s' = { s with trails := trails }

namespace SameButTrails

variable {s s' : Session}

theorem refl (s : Session) : SameButTrails s s :=
  ⟨s.trails, rfl⟩

theorem frame (same : SameButTrails s s') : s'.frame = s.frame := by
  obtain ⟨_, rfl⟩ := same
  rfl

theorem states (same : SameButTrails s s') : s'.states = s.states := by
  obtain ⟨_, rfl⟩ := same
  rfl

theorem scene (same : SameButTrails s s') : s'.scene = s.scene := by
  obtain ⟨_, rfl⟩ := same
  rfl

/-- Trails have no part in resolving a frame. -/
theorem preview (same : SameButTrails s s') : s'.preview = s.preview := by
  obtain ⟨_, rfl⟩ := same
  rfl

/-- A step leaves what going on without drawing leaves. -/
theorem step (same : SameButTrails s s') : SameButTrails s.advance.2 s'.step.2 := by
  obtain ⟨_, rfl⟩ := same
  exact ⟨_, rfl⟩

end SameButTrails

theorem step_objects (s : Session) : s.step.1.objects = s.preview.objects := rfl

/-! ### In lockstep -/

/-- As many steps as frames lead to the same simulation, and to the same last objects. -/
theorem stepBy_advanceBy (n : Nat) {s s' : Session} {objects : ResolvedObjects}
    {last : Option StepOutput} (same : SameButTrails s s')
    (shown : last.map (·.objects) = some objects) :
    SameButTrails (advanceBy n s objects).2 (stepBy n s' last).2 ∧
      (stepBy n s' last).1.map (·.objects) = some (advanceBy n s objects).1 := by
  induction n generalizing s s' objects last with
  | zero => exact ⟨same, shown⟩
  | succ n ih =>
    have drawn : (some s'.step.1).map (·.objects) = some s.advance.1.objects :=
      congrArg (fun f : Frame => some f.objects) same.preview
    exact ih same.step drawn

/-- From one frame on it makes no difference which objects were shown last. -/
theorem stepBy_advanceBy_of_pos {n : Nat} (positive : 0 < n) (s : Session)
    (objects : ResolvedObjects) (last : Option StepOutput) :
    SameButTrails (advanceBy n s objects).2 (stepBy n s last).2 ∧
      (stepBy n s last).1.map (·.objects) = some (advanceBy n s objects).1 := by
  cases n with
  | zero => exact absurd positive (Nat.lt_irrefl 0)
  | succ n => exact stepBy_advanceBy n (SameButTrails.refl s).step rfl

theorem advanceBy_succ (n : Nat) (s : Session) (objects : ResolvedObjects) :
    advanceBy (n + 1) s objects = advanceBy n s.advance.2 s.advance.1.objects := rfl

theorem stepBy_succ (n : Nat) (s : Session) (last : Option StepOutput) :
    stepBy (n + 1) s last = stepBy n s.step.2 (some s.step.1) := rfl

/-- Frames in a row can be taken in two parts. -/
theorem advanceBy_add (m n : Nat) (s : Session) (objects : ResolvedObjects) :
    advanceBy (m + n) s objects =
      advanceBy n (advanceBy m s objects).2 (advanceBy m s objects).1 := by
  induction m generalizing s objects with
  | zero => rw [Nat.zero_add]; rfl
  | succ m ih => rw [Nat.succ_add]; exact ih s.advance.2 s.advance.1.objects

/-- So many frames take the count on by as many. -/
theorem advanceBy_frame (n : Nat) (s : Session) (objects : ResolvedObjects) :
    (advanceBy n s objects).2.frame = s.frame + n := by
  induction n generalizing s objects with
  | zero => rfl
  | succ n ih => exact (ih s.advance.2 s.advance.1.objects).trans (Nat.add_right_comm s.frame 1 n)

/-- Frames in a row keep the scene and the settings. -/
theorem advanceBy_keeps (n : Nat) (s : Session) (objects : ResolvedObjects) :
    (advanceBy n s objects).2.scene = s.scene ∧ (advanceBy n s objects).2.settings = s.settings :=
  advanceBy_preserves (fun s' => s'.scene = s.scene ∧ s'.settings = s.settings)
    (fun _ kept => kept) n ⟨rfl, rfl⟩ objects

/-- What a run leaves does not depend on the objects shown before it. -/
theorem advanceBy_session (n : Nat) (s : Session) (objects objects' : ResolvedObjects) :
    (advanceBy n s objects).2 = (advanceBy n s objects').2 := by
  cases n with
  | zero => rfl
  | succ n => rfl

/-! ### Playing -/

/-- Whether an operation only plays the scene on, or looks at what comes next. -/
def Operation.plays : Operation → Bool
  | .step | .run _ | .tick _ _ | .preview => true
  | _ => false

end Playfield.Session

/-! ### Requests for frames -/

namespace Playfield.Settings

/-- Every request for frames is granted at least one. -/
theorem one_le_runFrames (settings : Settings) (requested : Option Nat) :
    1 ≤ settings.runFrames requested := by
  unfold runFrames
  dsimp only
  split
  · omega
  · omega
  · rename_i n notZero
    have : n ≠ 0 := fun zero => notZero zero
    omega

/-- No request is granted more frames than the settings allow, which is at least one. -/
theorem runFrames_le (settings : Settings) (requested : Option Nat) :
    settings.runFrames requested ≤ max 1 settings.maxRunFrames := by
  unfold runFrames
  dsimp only
  split <;> omega

/-- A request within the limits is granted as it is. -/
theorem runFrames_of_le {settings : Settings} {n : Nat} (positive : 1 ≤ n)
    (within : n ≤ max 1 settings.maxRunFrames) : settings.runFrames (some n) = n := by
  unfold runFrames
  dsimp only
  split
  · contradiction
  · simp_all
  · rename_i m _ given
    obtain rfl : n = m := Option.some.inj given
    omega

end Playfield.Settings

namespace Playfield.Session

theorem run_eq_advanceBy {s : Session} {requested : Option Nat} {n : Nat}
    (granted : s.settings.runFrames requested = n) :
    s.run requested =
      (⟨n, (advanceBy n s .empty).2.frame, (advanceBy n s .empty).1⟩,
        (advanceBy n s .empty).2) := by
  subst granted
  rfl

/-- A run within the limits of the settings resolves as many frames as it is asked for. -/
theorem run_of_le {s : Session} {n : Nat} (positive : 1 ≤ n)
    (within : n ≤ max 1 s.settings.maxRunFrames) :
    (s.run (some n)).2 = (advanceBy n s .empty).2 := by
  rw [run_eq_advanceBy (Settings.runFrames_of_le positive within)]

/-- Two runs one after the other are one run, as long as the settings allow it. -/
theorem run_run {s : Session} {a b : Nat} (positive : 1 ≤ a) (positive' : 1 ≤ b)
    (within : a + b ≤ max 1 s.settings.maxRunFrames) :
    ((s.run (some a)).2.run (some b)).2 = (s.run (some (a + b))).2 := by
  have settings : (advanceBy a s .empty).2.settings = s.settings := (advanceBy_keeps a s .empty).2
  rw [run_of_le positive (by omega), run_of_le positive' (by rw [settings]; omega),
    run_of_le (by omega) within, advanceBy_add]
  exact advanceBy_session b _ _ _

/-- **Drawing does not change the simulation.** A run and as many steps, always between one and the
most that the settings allow, leave the same frame, states and scene and end with the same objects;
so two runs come to the same as one. -/
theorem run_eq_steps (s : Session) (requested : Option Nat) :
    let n := s.settings.runFrames requested
    let ran := s.run requested
    let stepped := stepBy n s none
    1 ≤ n ∧ n ≤ max 1 s.settings.maxRunFrames ∧
      ran.2.frame = s.frame + n ∧ stepped.2.frame = s.frame + n ∧
      ran.2.states = stepped.2.states ∧ ran.2.scene = s.scene ∧ stepped.2.scene = s.scene ∧
      stepped.1.map (·.objects) = some ran.1.objects ∧
      ∀ a b, 1 ≤ a → 1 ≤ b → a + b ≤ max 1 s.settings.maxRunFrames →
        ((s.run (some a)).2.run (some b)).2 = (s.run (some (a + b))).2 := by
  have positive := s.settings.one_le_runFrames requested
  obtain ⟨same, shown⟩ := stepBy_advanceBy_of_pos positive s .empty none
  have kept := (advanceBy_keeps (s.settings.runFrames requested) s .empty).1
  exact ⟨positive, s.settings.runFrames_le requested, advanceBy_frame _ s _,
    same.frame.trans (advanceBy_frame _ s _), same.states.symm, kept, same.scene.trans kept, shown,
    fun _ _ => run_run⟩

/-- A session in the middle of a game: a wanderer that leaves a trail, and at most five frames a
run. -/
def rally : Session where
  scene :=
    { objects :=
        [{ player with trail := some ⟨4, "#ffffff", 1, 2⟩ },
          { id := "net", visible := some (.formula "frame > 8"), kind := .rect {} }]
      events := [⟨8, .timeout⟩] }
  settings := { maxRunFrames := 5 }
  frame := 7
  states := IdMap.empty.insert "player" { position := ⟨100, 50⟩, velocity := ⟨1, 0⟩ }
  trails := ⟨IdMap.empty.insert "player" [⟨99, 50⟩]⟩

/-- A rally of five frames, in one run, in two runs and step by step. -/
theorem run_eq_steps_rally :
    rally.settings.runFrames (some 900) = 5 ∧
      (rally.run (some 900)).2.states = (stepBy 5 rally none).2.states ∧
      1 ≤ 2 ∧ 1 ≤ 3 ∧ 2 + 3 ≤ max 1 rally.settings.maxRunFrames ∧
      ((rally.run (some 2)).2.run (some 3)).2 = (rally.run (some 5)).2 := by
  have most : rally.settings.runFrames (some 900) = 5 := rfl
  have within : 2 + 3 ≤ max 1 rally.settings.maxRunFrames := by decide
  obtain ⟨-, -, -, -, states, -, -, -, runs⟩ := run_eq_steps rally (some 900)
  rw [most] at states
  exact ⟨most, states, by decide, by decide, within, runs 2 3 (by decide) (by decide) within⟩

end Playfield.Session
