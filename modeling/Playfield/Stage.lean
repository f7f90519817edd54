import Playfield.Session

/-!
Stages: a session and the evaluator that reads its formulas.

All frames of the session, those that are only looked at included, are resolved through the one
evaluator, which keeps what it has read until the session starts anew.
-/

namespace Playfield

open Formula (Evaluating Evaluator)

/-- A session and its evaluator. -/
structure Stage where
  session : Session
  evaluator : Evaluator := .fresh

namespace Stage

def ofScene (scene : Scene) (settings : Settings) : Stage :=
  { session := .ofScene scene settings }

def ofSettings (settings : Settings) : Stage :=
  { session := .ofSettings settings }

/-- Edit the session. The programs of formulas that are gone stay in the evaluator. -/
def edit (stage : Stage) (session : Session) : Stage :=
  { stage with session := session }

/-- Go on with a computation of the session. -/
def perform (stage : Stage) (computation : Session → Evaluating (α × Session)) : α × Stage :=
  let ((result, session), evaluator) := (computation stage.session).run stage.evaluator
  (result, ⟨session, evaluator⟩)

/-- The next frame as it would be resolved now. Only the evaluator takes note of it. -/
def preview (stage : Stage) : Frame × Stage :=
  stage.perform fun s => do
    let f ← s.previewM
    return (f, s)

def step (stage : Stage) : StepOutput × Stage :=
  stage.perform Session.stepM

def run (stage : Stage) (requested : Option Nat) : RunSummary × Stage :=
  stage.perform fun s => s.runM requested

/-- Let time pass on a clock and step once for every frame that it fires. -/
def tick (stage : Stage) (clock : Clock) (delta : Float32) : Option StepOutput × Stage × Clock :=
  let (fired, clock) := clock.advance delta
  let (output, stage) := stage.perform fun s => Session.stepByM fired s none
  (output, stage, clock)

def reset (stage : Stage) : Stage :=
  ⟨stage.session.reset, stage.evaluator.clear⟩

def replaceScene (stage : Stage) (scene : Scene) : Stage :=
  ⟨stage.session.replaceScene scene, stage.evaluator.clear⟩

end Stage

end Playfield
