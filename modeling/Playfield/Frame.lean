import Playfield.Agent.Cue
import Playfield.Draw.Command
import Playfield.Formula.Evaluating
import Playfield.Order

/-!
One frame of a scene: from the objects and the states of the agents to draw commands and the next
states.

Objects are resolved parents first. Each visible one publishes its numeric fields, which the
formulas of later ones can read, and its position, which its children can read. Agents are moved by
what was there when the frame began, so none sees another one move.
-/

namespace Playfield

open Formula (Animated Color Fields Published settleNumberM settleTextM settleColorM settleTruthM)

/-- What a frame comes to. -/
structure Frame where
  /-- By layer. -/
  commands : List DrawCommand
  /-- The objects that were visible. -/
  objects : ResolvedObjects
  /-- The states that the next frame starts from. -/
  states : AgentStates

namespace Frame

variable {m : Type → Type} [Monad m] [Resolving m]

/-! ### Moving agents -/

/-- The states of all agents when the frame begins; an agent without one starts now. -/
def snapshotM (objects : List SceneObject) (previous : AgentStates) (ctx : FrameContext) :
    m AgentStates := do
  let pairs ← (objects.filter (·.isAgent)).mapM fun o => do
    let s ← AgentState.orSpawnM (previous.get? o.id) o ctx
    return (o.id, s)
  return IdMap.ofList pairs

@[inherit_doc snapshotM]
def snapshot (objects : List SceneObject) (previous : AgentStates) (ctx : FrameContext) :
    AgentStates :=
  Id.run (snapshotM objects previous ctx)

/-- The place of an agent after a step, on the canvas if it wraps around its edges. -/
def place (edges : Edges) (canvas position : Vec2) : Vec2 :=
  match edges with
  | .unbounded => position
  | .wrap => ⟨wrapCoordinate position.x canvas.x, wrapCoordinate position.y canvas.y⟩

/-- The state of an agent after a force has worked on it. -/
def move (agent : Agent) (params : AgentParams) (canvas force : Vec2) (s : AgentState) :
    AgentState :=
  let velocity := ((s.velocity + force / params.mass) * params.damping).clampLength params.maxSpeed
  { s with position := place agent.edges canvas (s.position + velocity), velocity := velocity }

/-- Move an agent by the force of its behaviors. -/
def integrateM (agent : Agent) (context : SteeringContext) (ctx : FrameContext) (s : AgentState) :
    m AgentState := do
  let behaviors := s.behaviorOverride.getD agent.behaviors
  let (force, steered) ←
    steeringForceM behaviors context ⟨s, frameRandom ctx.seed ctx.frame context.id⟩
  return move agent context.params ctx.canvas force steered.state

@[inherit_doc integrateM]
def integrate (agent : Agent) (context : SteeringContext) (ctx : FrameContext) (s : AgentState) :
    AgentState :=
  Id.run (integrateM agent context ctx s)

/-- The next state of an agent: where a keyframe puts it, at rest, or moved by one step. The
keyframe is used up. -/
def stepAgentM (o : SceneObject) (agent : Agent) (snapshot : AgentStates) (published : Published)
    (ctx : FrameContext) : m AgentState :=
  let s := (snapshot.get? o.id).getD { position := Vec2.zero }
  match s.keyframe with
  | some position =>
    return { s with position := position, velocity := Vec2.zero, keyframe := none }
  | none => integrateM agent ⟨o.id, agent.params, snapshot, published⟩ ctx s

@[inherit_doc stepAgentM]
def stepAgent (o : SceneObject) (agent : Agent) (snapshot : AgentStates) (published : Published)
    (ctx : FrameContext) : AgentState :=
  Id.run (stepAgentM o agent snapshot published ctx)

/-! ### Figures -/

def white : Color := some "#ffffff"
def defaultSize : Float32 := 20
def defaultArcRadius : Float32 := 20
def defaultAgentSize : Float32 := 16
def defaultFontSize : Float32 := 16
def defaultFontFamily : String := "sans-serif"

/-- The position that an object's own properties give it. -/
def anchorM (o : SceneObject) (scope : Formula.Scope) : m Vec2 := do
  let x ← settleNumberM o.x 0 scope
  let y ← settleNumberM o.y 0 scope
  return ⟨x, y⟩

@[inherit_doc anchorM]
def anchor (o : SceneObject) (scope : Formula.Scope) : Vec2 :=
  Id.run (anchorM o scope)

def brushM (p : Paint) (fill stroke : Color) (scope : Formula.Scope) : m Brush := do
  let fill ← settleColorM p.fill fill scope
  let stroke ← settleColorM p.stroke stroke scope
  return ⟨fill, stroke, p.strokeWidth.getD 1⟩

def sizeM (width height : Option (Animated Float32)) (fallback : Float32)
    (scope : Formula.Scope) : m Vec2 := do
  let width ← settleNumberM width fallback scope
  let height ← settleNumberM height fallback scope
  return ⟨width, height⟩

/-- The figure of an object, none for one that is not drawn, and its position. Where that comes from
is a part of the computation, since an arc looks at its radius first. -/
def figureM? (o : SceneObject) (place : m Vec2) (scope : Formula.Scope) :
    m (Vec2 × Option Figure) :=
  match o.kind with
  | .ellipse e => do
    let position ← place
    let size ← sizeM e.width e.height defaultSize scope
    let brush ← brushM e.paint white none scope
    return (position, some (.ellipse position size brush))
  | .rect r => do
    let position ← place
    let size ← sizeM r.width r.height defaultSize scope
    let brush ← brushM r.paint white none scope
    return (position, some (.rect position size brush (r.borderRadius.getD 0)))
  | .line l => do
    let position ← place
    let x2 ← settleNumberM l.x2 0 scope
    let y2 ← settleNumberM l.y2 0 scope
    let stroke ← settleColorM l.stroke white scope
    return (position, some (.line position ⟨x2, y2⟩ stroke (l.strokeWidth.getD 1)))
  | .text t => do
    let position ← place
    let content ← settleTextM t.text "" scope
    let fill ← settleColorM t.fill white scope
    return (position, some (.text position content (t.fontSize.getD defaultFontSize)
      (t.fontFamily.getD defaultFontFamily) fill t.align))
  | .arc a => do
    let radiusX ← settleNumberM a.radiusX defaultArcRadius scope
    let position ← place
    let radiusY ← settleNumberM a.radiusY radiusX scope
    let startAngle ← settleNumberM a.startAngle 0 scope
    let endAngle ← settleNumberM a.endAngle Binary32.tau scope
    let brush ← brushM a.paint none white scope
    return (position, some (.arc position ⟨radiusX, radiusY⟩ startAngle endAngle
      a.counterclockwise brush))
  | .agent agent => do
    let position ← place
    let size ← sizeM agent.width agent.height defaultAgentSize scope
    let brush ← brushM agent.paint white none scope
    return (position, some (.ellipse position size brush))
  | .group | .unknown => do
    let position ← place
    return (position, none)

/-- The figure of an object at a position; none for an object that is not drawn. -/
def figure? (o : SceneObject) (position : Vec2) (scope : Formula.Scope) : Option Figure :=
  (Id.run (figureM? o (pure position) scope)).2

/-- The fields that a figure shows to later formulas, besides its position and opacity. -/
def figureFields : Option Figure → List (String × Float32)
  | some (.ellipse _ size _) | some (.rect _ size _ _) => [("width", size.x), ("height", size.y)]
  | some (.line _ final _ _) => [("x2", final.x), ("y2", final.y)]
  | some (.arc _ radii _ _ _ _) => [("radiusX", radii.x), ("radiusY", radii.y)]
  | _ => []

/-- The fields that an object shows to later formulas. An agent shows its velocity, but not its
opacity. -/
def fields (position : Vec2) (figure : Option Figure) (velocity : Option Vec2)
    (opacity : Float32) : Fields :=
  let motion :=
    match velocity with
    | some v => [("vx", v.x), ("vy", v.y)]
    | none => [("opacity", opacity)]
  IdMap.ofList (("x", position.x) :: ("y", position.y) :: motion ++ figureFields figure)

/-! ### Resolving objects -/

/-- A frame on the way: what the objects so far have come to. -/
structure Progress where
  published : Published
  commands : List DrawCommand
  objects : ResolvedObjects
  states : AgentStates

def Progress.start : Progress :=
  ⟨.empty, [], .empty, .empty⟩

/-- What the formulas of an object can see. -/
def Progress.scope (p : Progress) (ctx : FrameContext) (o : SceneObject) : Formula.Scope where
  frame := ctx.frame
  t := ctx.t
  width := ctx.canvas.x
  height := ctx.canvas.y
  objects := p.published
  parent := (o.parent.bind p.objects.get?).map (·.position)

/-- Enter a visible object that is drawn as a figure; an agent has a velocity besides. -/
def Progress.withFigure (p : Progress) (o : SceneObject) (position : Vec2) (velocity : Option Vec2)
    (figure : Option Figure) (opacity : Float32) : Progress :=
  { p with
    published := p.published.insert o.id (fields position figure velocity opacity)
    commands := p.commands ++ (figure.map fun f => ⟨o.id, f, opacity, o.layer⟩).toList
    objects := p.objects.insert o.id ⟨o.id, o.kind.name, position, opacity, o.layer⟩ }

def Progress.enterM (p : Progress) (o : SceneObject) (place : m Vec2) (velocity : Option Vec2)
    (scope : Formula.Scope) : m Progress := do
  let (position, figure) ← figureM? o place scope
  let opacity ← settleNumberM o.opacity 1 scope
  return p.withFigure o position velocity figure opacity

/-- Enter a visible object at a position; an agent has a velocity besides. -/
def Progress.enter (p : Progress) (o : SceneObject) (position : Vec2) (velocity : Option Vec2)
    (scope : Formula.Scope) : Progress :=
  Id.run (p.enterM o (pure position) velocity scope)

/-- Keep the state of a hidden agent for when it reappears. A keyframe of this frame is used up. -/
def Progress.carry (p : Progress) (snapshot : AgentStates) (id : String) : Progress :=
  match snapshot.get? id with
  | some s => { p with states := p.states.insert id { s with keyframe := none } }
  | none => p

/-- Resolve one object. -/
def Progress.resolveM (ctx : FrameContext) (snapshot : AgentStates) (p : Progress)
    (o : SceneObject) : m Progress := do
  let scope := p.scope ctx o
  let visible ← settleTruthM o.visible true scope
  if visible then
    match o.kind with
    | .unknown => return p
    | .agent agent =>
      let next ← stepAgentM o agent snapshot p.published ctx
      let entered ← p.enterM o (pure next.position) (some next.velocity) scope
      return { entered with states := p.states.insert o.id next }
    | _ => p.enterM o (anchorM o scope) none scope
  else return p.carry snapshot o.id

@[inherit_doc Progress.resolveM]
def Progress.resolve (ctx : FrameContext) (snapshot : AgentStates) (p : Progress)
    (o : SceneObject) : Progress :=
  Id.run (p.resolveM ctx snapshot o)

/-- Resolve a frame of objects in the order in which they are given. -/
def resolveOrderedM (objects : List SceneObject) (ctx : FrameContext) (previous : AgentStates) :
    m Frame := do
  let snap ← snapshotM objects previous ctx
  let final ← objects.foldlM (Progress.resolveM ctx snap) Progress.start
  return ⟨DrawCommand.sortByLayer final.commands, final.objects, final.states⟩

/-- Resolve a frame of a scene from the states of its agents. -/
def resolve (scene : Scene) (ctx : FrameContext) (previous : AgentStates) : Frame :=
  Id.run (resolveOrderedM (Order.dependencyOrder scene.objects) ctx previous)

/-- Resolve a frame of a scene through an evaluator. -/
def resolveM (scene : Scene) (ctx : FrameContext) (previous : AgentStates) :
    Formula.Evaluating Frame :=
  resolveOrderedM (Order.dependencyOrder scene.objects) ctx previous

end Frame

end Playfield
