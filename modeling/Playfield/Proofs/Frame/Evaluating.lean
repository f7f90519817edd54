import Playfield.Proofs.Formula.Faithful
import Playfield.Proofs.Resolving

/-!
A frame resolved through an evaluator is the frame.

Settling a property through a faithful evaluator comes to what it comes to afresh, so `Evaluating` is
a sound monad, and in it the cues of a frame and its objects come to what they come to in `Id`.
-/

namespace Playfield

open Formula (Evaluating Yields)

/-- Nothing but settling properties looks at the evaluator. -/
instance : Resolving.Sound Evaluating where
  ComesTo := Yields
  value := .pure
  next first rest := first.bind rest
  settle read value fallback scope := fun _ faithful => faithful.settle read value fallback scope
  waypoint _ _ _ _ := .pure _
  successor _ := .pure _
  framesBetween _ := .pure _
  partOf _ _ _ := .pure _

variable (scene : Scene) (ctx : FrameContext)

/-- The cues of a frame come out the same through every faithful evaluator. -/
theorem Cue.yields_applyAllM (states : AgentStates) :
    Yields (applyAllM scene ctx states) (applyAll scene ctx states) :=
  comesTo_applyAllM (m := Evaluating) scene ctx states

/-- A frame comes out the same through every faithful evaluator. -/
theorem Frame.yields_resolveM (previous : AgentStates) :
    Yields (resolveM scene ctx previous) (resolve scene ctx previous) :=
  comesTo_resolveOrderedM (m := Evaluating) ctx (Order.dependencyOrder scene.objects) previous

end Playfield
