import Playfield.Proofs.Frame.Evaluating
import Playfield.Proofs.Session.Reachable
import Playfield.Stage

/-!
A stage goes on like its session.

Through a faithful evaluator every computation of a session comes to what the session itself comes
to (`yields_stepM`, `yields_runM`). An operation on a stage therefore does to the session what it
does without a stage and leaves the evaluator faithful (`Stage.after_of_faithful`), so the evaluator
of a stage that operations lead to can be left out of account (`Stage.Reachable.faithful`).
-/

namespace Playfield

open Formula (Evaluating Evaluator Yields)

/-! ### Computations of a session -/

namespace Session

/-- A look comes out the same through every faithful evaluator. -/
theorem yields_previewM (s : Session) : Yields s.previewM s.preview :=
  .bind (Cue.yields_applyAllM s.scene s.context s.states)
    (Frame.yields_resolveM s.scene s.context (Cue.applyAll s.scene s.context s.states))

/-- A step comes out the same through every faithful evaluator. -/
theorem yields_stepM (s : Session) : Yields s.stepM s.step :=
  .bind s.yields_previewM (.pure s.step)

theorem yields_advanceByM (n : Nat) (s : Session) (objects : ResolvedObjects) :
    Yields (advanceByM n s objects) (advanceBy n s objects) := by
  induction n generalizing s objects with
  | zero => exact .pure (objects, s)
  | succ n ih => exact .bind s.yields_previewM (ih s.advance.2 s.advance.1.objects)

/-- A run comes out the same through every faithful evaluator. -/
theorem yields_runM (s : Session) (requested : Option Nat) :
    Yields (s.runM requested) (s.run requested) :=
  .bind (yields_advanceByM (s.settings.runFrames requested) s .empty) (.pure (s.run requested))

theorem yields_stepByM (n : Nat) (s : Session) (last : Option StepOutput) :
    Yields (stepByM n s last) (stepBy n s last) := by
  induction n generalizing s last with
  | zero => exact .pure (last, s)
  | succ n ih => exact .bind s.yields_stepM (ih s.step.2 (some s.step.1))

end Session

/-! ### Operations on a stage -/

namespace Stage

/-- The stage after an operation; one that fails leaves it as it is. -/
def after (stage : Stage) : Session.Operation → Stage
  | .replaceScene scene => stage.replaceScene scene
  | .step => stage.step.2
  | .run requested => (stage.run requested).2
  | .tick clock delta => (stage.tick clock delta).2.1
  | .preview => stage.preview.2
  | .reset => stage.reset
  | edit => stage.edit (stage.session.after edit)

variable {stage : Stage}

/-- A computation goes on from a faithful evaluator as the session does. -/
theorem perform_of_yields {α : Type} (computation : Session → Evaluating (α × Session))
    {outcome : α × Session} (faithful : stage.evaluator.Faithful)
    (yields : Yields (computation stage.session) outcome) :
    (stage.perform computation).1 = outcome.1 ∧
      (stage.perform computation).2.session = outcome.2 ∧
      (stage.perform computation).2.evaluator.Faithful := by
  obtain ⟨same, still⟩ := yields stage.evaluator faithful
  exact ⟨congrArg Prod.fst same, congrArg Prod.snd same, still⟩

/-- Through a faithful evaluator a stage shows what its session shows. -/
theorem preview_of_faithful (faithful : stage.evaluator.Faithful) :
    stage.preview.1 = stage.session.preview ∧ stage.preview.2.session = stage.session ∧
      stage.preview.2.evaluator.Faithful :=
  perform_of_yields (fun s => do let f ← s.previewM; return (f, s)) faithful
    (.bind stage.session.yields_previewM (.pure (stage.session.preview, stage.session)))

theorem step_of_faithful (faithful : stage.evaluator.Faithful) :
    stage.step.1 = stage.session.step.1 ∧ stage.step.2.session = stage.session.step.2 ∧
      stage.step.2.evaluator.Faithful :=
  perform_of_yields Session.stepM faithful stage.session.yields_stepM

theorem run_of_faithful (faithful : stage.evaluator.Faithful) (requested : Option Nat) :
    (stage.run requested).1 = (stage.session.run requested).1 ∧
      (stage.run requested).2.session = (stage.session.run requested).2 ∧
      (stage.run requested).2.evaluator.Faithful :=
  perform_of_yields (·.runM requested) faithful (stage.session.yields_runM requested)

theorem tick_of_faithful (faithful : stage.evaluator.Faithful) (clock : Clock) (delta : Float32) :
    (stage.tick clock delta).1 = (stage.session.tick clock delta).1 ∧
      (stage.tick clock delta).2.1.session = (stage.session.tick clock delta).2.1 ∧
      (stage.tick clock delta).2.1.evaluator.Faithful :=
  perform_of_yields (Session.stepByM (clock.advance delta).1 · none) faithful
    (stage.session.yields_stepByM (clock.advance delta).1 none)

/-- Every operation does to the session what it does without a stage. -/
theorem after_of_faithful (faithful : stage.evaluator.Faithful) (operation : Session.Operation) :
    (stage.after operation).session = stage.session.after operation ∧
      (stage.after operation).evaluator.Faithful := by
  cases operation with
  | replaceScene scene => exact ⟨rfl, .fresh⟩
  | reset => exact ⟨rfl, .fresh⟩
  | step => exact (step_of_faithful faithful).2
  | run requested => exact (run_of_faithful faithful requested).2
  | tick clock delta => exact (tick_of_faithful faithful clock delta).2
  | preview => exact (preview_of_faithful faithful).2
  | _ => exact ⟨rfl, faithful⟩

/-- Through a faithful evaluator operations take a stage where they take its session. -/
theorem foldl_after_of_faithful (faithful : stage.evaluator.Faithful)
    (operations : List Session.Operation) :
    (operations.foldl after stage).session = operations.foldl Session.after stage.session ∧
      (operations.foldl after stage).evaluator.Faithful := by
  induction operations generalizing stage with
  | nil => exact ⟨rfl, faithful⟩
  | cons operation rest ih =>
    obtain ⟨same, still⟩ := after_of_faithful faithful operation
    obtain ⟨session, evaluator⟩ := ih still
    exact ⟨session.trans (congrArg (rest.foldl Session.after) same), evaluator⟩

/-! ### The stages that operations lead to -/

inductive Reachable : Stage → Prop where
  | ofSettings (settings : Settings) : Reachable (ofSettings settings)
  | ofScene (scene : Scene) (settings : Settings) : Reachable (ofScene scene settings)
  | after {stage : Stage} (operation : Session.Operation) :
      Reachable stage → Reachable (stage.after operation)

namespace Reachable

/-- Operations leave the evaluator of a stage faithful. -/
theorem faithful (reachable : Reachable stage) : stage.evaluator.Faithful := by
  induction reachable with
  | ofSettings settings => exact .fresh
  | ofScene scene settings => exact .fresh
  | after operation _ ih => exact (after_of_faithful ih operation).2

/-- The session on a stage is one that the same operations lead to without a stage. -/
theorem session (reachable : Reachable stage) : stage.session.Reachable := by
  induction reachable with
  | ofSettings settings => exact .ofSettings settings
  | ofScene scene settings => exact .ofScene scene settings
  | after operation before ih =>
    rw [(after_of_faithful before.faithful operation).1]
    exact ih.after operation

end Reachable

end Stage

end Playfield
