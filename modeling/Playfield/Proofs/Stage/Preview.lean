import Playfield.Proofs.Session.Stepping
import Playfield.Proofs.Session.Trails
import Playfield.Proofs.Stage.Reachable

/-!
The preview is exact.

A step sorts the trails in among the commands of its frame. These were in order before, so they are
what is left of the step when the trails are taken out again (`Session.step_commands`). A preview
leaves the session as it is and the evaluator faithful, so it changes nothing that the next preview
or step shows (`Stage.reachable_preview`).
-/

namespace Playfield

/-! ### Looking before stepping -/

namespace Stage

variable {stage : Stage}

/-- The stage after a number of previews. -/
def look (stage : Stage) : Nat → Stage
  | 0 => stage
  | n + 1 => (stage.look n).preview.2

/-- Looking changes nothing but the evaluator, which stays faithful. -/
theorem look_of_faithful (faithful : stage.evaluator.Faithful) (n : Nat) :
    (stage.look n).session = stage.session ∧ (stage.look n).evaluator.Faithful := by
  induction n with
  | zero => exact ⟨rfl, faithful⟩
  | succ n ih =>
    obtain ⟨-, same, still⟩ := preview_of_faithful ih.2
    exact ⟨same.trans ih.1, still⟩

/-- **The preview is exact.** However often a stage that operations lead to is looked at before it
steps, each look shows the same frame. The step shows the objects of that frame and leaves its
states, its commands without the trails are those of the frame in the same order, and it is the step
that would have been taken without looking. -/
theorem reachable_preview (reachable : Reachable stage) (n : Nat) :
    let seen := stage.preview.1
    let stepped := (stage.look n).step
    (stage.look n).preview.1 = seen ∧
      stepped.1.objects = seen.objects ∧ stepped.2.session.states = seen.states ∧
      stepped.1.commands.filter (fun c => !c.figure.isTrail) = seen.commands ∧
      stepped.1 = stage.step.1 ∧ stepped.2.session = stage.step.2.session := by
  intro seen stepped
  obtain ⟨same, still⟩ := look_of_faithful reachable.faithful n
  have shown : seen = stage.session.preview := (preview_of_faithful reachable.faithful).1
  obtain ⟨output, session, -⟩ := step_of_faithful still
  obtain ⟨output', session', -⟩ := step_of_faithful reachable.faithful
  rw [same] at output session
  refine ⟨?_, ?_, ?_, ?_, ?_, ?_⟩
  · rw [(preview_of_faithful still).1, same, shown]
  · rw [output, shown, Session.step_objects]
  · rw [session, shown, Session.step_states]
  · rw [output, shown, Session.step_commands]
  · rw [output, output']
  · rw [session, session']

/-- A stage one step into a game in which the player leaves a trail. -/
def rallied : Stage :=
  (ofScene Session.rally.scene Session.rally.settings).after .step

theorem reachable_preview_rallied :
    Reachable rallied ∧
      (rallied.look 3).step.1.objects = rallied.preview.1.objects ∧
      (rallied.look 3).step.2.session.states = rallied.preview.1.states ∧
      (rallied.look 3).step.1.commands.filter (fun c => !c.figure.isTrail) =
        rallied.preview.1.commands ∧
      (rallied.look 3).step.1 = rallied.step.1 := by
  have reachable : Reachable rallied := .after .step (.ofScene _ _)
  obtain ⟨-, objects, states, commands, output, -⟩ := reachable_preview reachable 3
  exact ⟨reachable, objects, states, commands, output⟩

end Stage

end Playfield
