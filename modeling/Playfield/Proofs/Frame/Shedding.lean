import Playfield.Proofs.Frame.Evaluating
import Playfield.Proofs.Frame.Plain
import Playfield.Proofs.Scene.Shedding

/-!
Frames of scenes with broken formulas.

Every property is settled with the fallback that it has where it is absent, so an object that sheds
broken properties is drawn as the same figure (`figure?_sheds`), moves in the same way and comes to
the same in its turn (`Progress.resolve_sheds`). A frame is therefore the same before and after
(`broken_as_absent`).
-/

namespace Playfield.Frame

open Formula (Color Evaluator)

/-! ### Figures -/

section Figures

variable (scope : Formula.Scope)

/-- A brush is the same without the colors that cannot be parsed. -/
theorem brush_sheds {p p' : Paint} (sheds : p.Sheds p') (fill stroke : Color) :
    (brushM p' fill stroke scope : Id Brush).run = (brushM p fill stroke scope : Id Brush).run := by
  have width : p'.strokeWidth = p.strokeWidth := by rw [sheds.rest]
  rw [run_brushM, run_brushM, sheds.fill.color, sheds.stroke.color, width]

theorem anchor_sheds {o o' : SceneObject} (sheds : o.Sheds o') :
    anchor o' scope = anchor o scope := by
  rw [anchor_eq, anchor_eq, sheds.x.number, sheds.y.number]

/-- Every kind of object is drawn as the same figure. -/
theorem figure?_sheds {o o' : SceneObject} (sheds : o.Sheds o') (position : Vec2) :
    figure? o' position scope = figure? o position scope := by
  have kinds := sheds.kind
  unfold figure? figureM?
  generalize o.kind = kind at kinds
  generalize o'.kind = kind' at kinds
  cases kinds with
  | ellipse sheds =>
    simp only [Id.run_bind, run_sizeM, sheds.width.number, sheds.height.number,
      brush_sheds scope sheds.paint]
  | rect sheds =>
    have radius := congrArg Rect.borderRadius sheds.rest
    simp only [Id.run_bind, run_sizeM, sheds.width.number, sheds.height.number,
      brush_sheds scope sheds.paint, radius]
  | line sheds =>
    have width := congrArg Line.strokeWidth sheds.rest
    simp only [Id.run_bind, run_settleNumberM, run_settleColorM, sheds.x2.number, sheds.y2.number,
      sheds.stroke.color, width]
  | arc sheds =>
    -- The second radius falls back to the first, which is the same by then.
    simp only [Id.run_bind, run_settleNumberM, sheds.radiusX.number, sheds.radiusY.number,
      sheds.startAngle.number, sheds.endAngle.number, brush_sheds scope sheds.paint,
      sheds.counterclockwise]
  | text sheds =>
    have size := congrArg Label.fontSize sheds.rest
    have family := congrArg Label.fontFamily sheds.rest
    have align := congrArg Label.align sheds.rest
    simp only [Id.run_bind, run_settleTextM, run_settleColorM, sheds.text.text, sheds.fill.color,
      size, family, align]
  | group => rfl
  | agent sheds =>
    simp only [Id.run_bind, run_sizeM, sheds.width.number, sheds.height.number,
      brush_sheds scope sheds.paint]
  | unknown => rfl

end Figures

/-! ### Objects -/

section Resolve

variable (ctx : FrameContext) (snap : AgentStates) (p : Progress) {o o' : SceneObject}

/-- An agent takes the same step. -/
theorem stepAgent_sheds {agent agent' : Agent} (sheds : agent.Sheds agent') (id : o'.id = o.id)
    (published : Formula.Published) :
    stepAgent o' agent' snap published ctx = stepAgent o agent snap published ctx := by
  have params : agent'.params = agent.params := by
    rw [sheds.rest]
    rfl
  have edges := congrArg Agent.edges sheds.rest
  have behaviors := congrArg Agent.behaviors sheds.rest
  rw [stepAgent_eq, stepAgent_eq]
  simp only [integrate_eq, move, id, params, edges, behaviors]

/-- An object enters alike without the formulas that cannot be parsed. -/
theorem Progress.enter_sheds (sheds : o.Sheds o') (position : Vec2) (velocity : Option Vec2)
    (scope : Formula.Scope) :
    p.enter o' position velocity scope = p.enter o position velocity scope := by
  rw [enter_eq, enter_eq, withFigure, withFigure, figure?_sheds scope sheds, sheds.opacity.number,
    sheds.id, sheds.layer, sheds.kind.name]

/-- An object comes to the same in its turn. -/
theorem Progress.resolve_sheds (sheds : o.Sheds o') :
    p.resolve ctx snap o' = p.resolve ctx snap o := by
  have scope : p.scope ctx o' = p.scope ctx o := by
    rw [Progress.scope, Progress.scope, sheds.parent]
  rw [resolve_eq, resolve_eq, scope, sheds.visible.truth, sheds.id]
  split
  · have kinds := sheds.kind
    simp only [p.enter_sheds sheds, anchor_sheds _ sheds]
    generalize o.kind = kind at kinds
    generalize o'.kind = kind' at kinds
    cases kinds with
    | agent agents => simp only [stepAgent_sheds ctx snap agents sheds.id]
    | _ => rfl
  · rfl

variable {objects objects' : List SceneObject}
  (sheds : List.Forall₂ SceneObject.Sheds objects objects')

include sheds

theorem snapshot_sheds (previous : AgentStates) :
    snapshot objects' previous ctx = snapshot objects previous ctx := by
  rw [snapshot_eq, snapshot_eq]
  refine congrArg IdMap.ofList ?_
  induction sheds with
  | nil => rfl
  | @cons o o' _ _ first _ ih =>
    rw [List.filter_cons, List.filter_cons, first.isAgent]
    split
    · rw [List.map_cons, List.map_cons, first.id, first.spawn, ih]
    · exact ih

/-- Objects are resolved alike without the formulas that cannot be parsed. -/
theorem foldl_resolve_sheds :
    objects'.foldl (Progress.resolve ctx snap) p = objects.foldl (Progress.resolve ctx snap) p := by
  induction sheds generalizing p with
  | nil => rfl
  | cons first _ ih =>
    rw [List.foldl_cons, List.foldl_cons, Progress.resolve_sheds ctx snap p first]
    exact ih _

end Resolve

/-! ### Frames -/

variable {scene scene' : Scene}

/-- A frame is the same without the formulas that cannot be parsed. -/
theorem resolve_sheds (sheds : scene.Sheds scene') (ctx : FrameContext) (previous : AgentStates) :
    resolve scene' ctx previous = resolve scene ctx previous := by
  have ordered : List.Forall₂ SceneObject.Sheds (Order.dependencyOrder scene.objects)
      (Order.dependencyOrder scene'.objects) :=
    Order.dependencyOrder_forall₂ sheds.objects (fun _ _ first => first.id)
      (fun _ _ first => first.parent)
  rw [resolve_eq, resolve_eq]
  dsimp only
  rw [snapshot_sheds ctx ordered, foldl_resolve_sheds ctx _ _ ordered]

/-- **A broken formula is as good as none.** Take any properties whose formulas do not parse from
any objects of a scene. Whatever the frame and the states before it, what a frame of the scene comes
to stays the same: its commands, its entries and the states that it leaves. Through evaluators that
know other programs by then, it is the same again. -/
theorem broken_as_absent (sheds : scene.Sheds scene') (ctx : FrameContext)
    (previous : AgentStates) :
    resolve scene' ctx previous = resolve scene ctx previous ∧
      ∀ ev ev' : Evaluator, ev.Faithful → ev'.Faithful →
        ((resolveM scene' ctx previous).run ev').1 = ((resolveM scene ctx previous).run ev).1 := by
  have same := resolve_sheds sheds ctx previous
  refine ⟨same, fun ev ev' faithful faithful' => ?_⟩
  rw [(yields_resolveM scene' ctx previous ev' faithful').1, same,
    (yields_resolveM scene ctx previous ev faithful).1]

/-- A hall where nobody has finished a formula. -/
def rehearsal : Scene where
  objects :=
    [{ id := "board", x := some (.formula "10 +"), opacity := some (.formula "frame / 10"),
        kind := .rect
          { width := some (.formula "("), height := some (.literal 5)
            paint := { fill := some (.formula "if("), stroke := some (.formula "1 +") } } },
      { id := "dial", parent := some "board", visible := some (.formula ")"),
        kind := .arc
          { radiusX := some (.formula "objects.board.width"), radiusY := some (.formula "2 *") } },
      { id := "runner", y := some (.formula "t +"),
        kind := .agent { width := some (.formula "") } },
      { id := "caption", kind := .text { text := some (.formula "(1") } }]

/-- The hall after some have given up. -/
def premiere : Scene where
  objects :=
    [{ id := "board", opacity := some (.formula "frame / 10"),
        kind := .rect
          { height := some (.literal 5), paint := { stroke := some (.formula "1 +") } } },
      { id := "dial", parent := some "board",
        kind := .arc { radiusX := some (.formula "objects.board.width") } },
      { id := "runner", kind := .agent {} },
      { id := "caption", kind := .text {} }]

/-- The premiere looks as the rehearsal did. -/
theorem broken_as_absent_premiere :
    rehearsal.Sheds premiere ∧
      resolve premiere ⟨30, 0.5, ⟨800, 600⟩, 7⟩ .empty =
        resolve rehearsal ⟨30, 0.5, ⟨800, 600⟩, 7⟩ .empty ∧
      ((resolveM premiere ⟨30, 0.5, ⟨800, 600⟩, 7⟩ .empty).run .fresh).1 =
        ((resolveM rehearsal ⟨30, 0.5, ⟨800, 600⟩, 7⟩ .empty).run .fresh).1 := by
  have sheds : rehearsal.Sheds premiere := by
    refine ⟨.cons ?_ (.cons ?_ (.cons ?_ (.cons ?_ .nil))), rfl⟩
    · refine ⟨.dropped rfl, .kept _, .kept _, .kept _, .rect ?_, rfl⟩
      exact ⟨.dropped rfl, .kept _, ⟨.dropped rfl, .kept _, rfl⟩, rfl⟩
    · refine ⟨.kept _, .kept _, .kept _, .dropped rfl, .arc ?_, rfl⟩
      exact ⟨.kept _, .dropped rfl, .kept _, .kept _, ⟨.kept _, .kept _, rfl⟩, rfl⟩
    · refine ⟨.kept _, .dropped rfl, .kept _, .kept _, .agent ?_, rfl⟩
      exact ⟨.dropped rfl, .kept _, ⟨.kept _, .kept _, rfl⟩, rfl⟩
    · refine ⟨.kept _, .kept _, .kept _, .kept _, .text ?_, rfl⟩
      exact ⟨.dropped rfl, .kept _, rfl⟩
  obtain ⟨same, evaluated⟩ := broken_as_absent sheds ⟨30, 0.5, ⟨800, 600⟩, 7⟩ .empty
  exact ⟨sheds, same, evaluated .fresh .fresh .fresh .fresh⟩

end Playfield.Frame
