import Playfield.Agent.Steering

/-!
Cues: what the script of a scene does to its agents before a frame is resolved.

Events give agents behaviors that stay; keyframes give them a place for this frame only. An agent
that has no state yet gets the one that it starts with. Nothing else in the states changes.
-/

namespace Playfield

/-- The way from the coordinates of a scene's script to the canvas. -/
def Scene.transform (scene : Scene) (canvas : Vec2) : Transform :=
  match scene.court with
  | some court => court.transform canvas
  | none => Transform.identity

namespace Cue

variable {m : Type → Type} [Monad m] [Resolving m]

def dropOverride (s : AgentState) : AgentState :=
  { s with behaviorOverride := none }

/-- The ball of an event that names none. -/
def defaultBall : String := "ball"

/-! ### Events -/

/-- Change the state of an agent of the scene, which starts now if it has none. An id whose first
object is no agent is passed over. -/
def changeM (scene : Scene) (ctx : FrameContext) (states : AgentStates) (id : String)
    (f : AgentState → AgentState) : m AgentStates :=
  match (scene.find? id).filter (·.isAgent) with
  | none => return states
  | some o => do
    let s ← AgentState.orSpawnM (states.get? id) o ctx
    return states.insert id (f s)

@[inherit_doc changeM]
def change (scene : Scene) (ctx : FrameContext) (states : AgentStates) (id : String)
    (f : AgentState → AgentState) : AgentStates :=
  Id.run (changeM scene ctx states id f)

/-- Give an agent behaviors that stand in for its own. -/
def setOverrideM (scene : Scene) (ctx : FrameContext) (states : AgentStates) (id : String)
    (behaviors : List WeightedBehavior) : m AgentStates :=
  changeM scene ctx states id fun s => { s with behaviorOverride := some behaviors }

@[inherit_doc setOverrideM]
def setOverride (scene : Scene) (ctx : FrameContext) (states : AgentStates) (id : String)
    (behaviors : List WeightedBehavior) : AgentStates :=
  Id.run (setOverrideM scene ctx states id behaviors)

/-- What an event does to the states. -/
def applyM (scene : Scene) (ctx : FrameContext) (states : AgentStates) (kind : EventKind) :
    m AgentStates :=
  match kind with
  | .possession agent ball =>
    setOverrideM scene ctx states (ball.getD defaultBall)
      [(Behavior.arrive (.object agent) (some possessionSlowRadius)).plain]
  | .pass _ receiver ball =>
    setOverrideM scene ctx states (ball.getD defaultBall)
      [(Behavior.fastBreak (.object receiver)).plain]
  | .shot _ (some x) (some y) ball =>
    let place := (scene.transform ctx.canvas).apply ⟨x, y⟩
    setOverrideM scene ctx states (ball.getD defaultBall)
      [(Behavior.fastBreak (.point place)).plain]
  | .shot _ _ _ _ => return states
  | .timeout => scene.agents.foldlM (fun states o => setOverrideM scene ctx states o.id []) states
  | .behavior agent behaviors => setOverrideM scene ctx states agent behaviors
  | .release (some agent) => return states.update agent dropOverride
  | .release none => return states.mapValues fun _ s => dropOverride s
  | .other => return states

@[inherit_doc applyM]
def apply (scene : Scene) (ctx : FrameContext) (states : AgentStates) (kind : EventKind) :
    AgentStates :=
  Id.run (applyM scene ctx states kind)

/-- Apply the events of the frame in the order of their list. -/
def applyEventsM (scene : Scene) (ctx : FrameContext) (states : AgentStates) : m AgentStates :=
  (scene.events.filter fun e => e.frame == ctx.frame).foldlM
    (fun states e => applyM scene ctx states e.kind) states

@[inherit_doc applyEventsM]
def applyEvents (scene : Scene) (ctx : FrameContext) (states : AgentStates) : AgentStates :=
  Id.run (applyEventsM scene ctx states)

/-! ### Keyframes -/

/-- The keyframes of each agent in the order of their frames; those of one frame stay in the order
of the list. -/
def group (keyframes : List Keyframe) : IdMap (List Keyframe) :=
  let collected := keyframes.foldl
    (fun groups k => groups.insert k.agent ((groups.get? k.agent).getD [] ++ [k])) IdMap.empty
  collected.mapValues fun _ ks => ks.mergeSort fun a b => a.frame ≤ b.frame

/-- The position at a frame between two keyframes, on a straight line from the first to the second.
-/
def betweenM (frame : Nat) (a b : Keyframe) : m Vec2 :=
  if a.frame = b.frame then return a.position
  else do
    let done ← Resolving.framesBetween a.frame frame
    let whole ← Resolving.framesBetween a.frame b.frame
    let part ← Resolving.partOf done whole
    return a.position.lerp b.position part

@[inherit_doc betweenM]
def between (frame : Nat) (a b : Keyframe) : Vec2 :=
  Id.run (betweenM frame a b)

/-- The position at a frame by the keyframes of one agent in order: the first one's until then, on
the way from each to the next, and none after the last. -/
def interpolateM (keyframes : List Keyframe) (frame : Nat) : m (Option Vec2) :=
  match keyframes with
  | [] => return none
  | first :: later =>
    if frame ≤ first.frame then return some first.position
    else if (later.getLastD first).frame < frame then return none
    else
      match ((first :: later).zip later).find? fun (a, b) =>
          a.frame ≤ frame && frame ≤ b.frame with
      | none => return none
      | some (a, b) => do
        let place ← betweenM frame a b
        return some place

@[inherit_doc interpolateM]
def interpolate (keyframes : List Keyframe) (frame : Nat) : Option Vec2 :=
  Id.run (interpolateM keyframes frame)

/-- Give every agent the place where its keyframes put it on this frame. -/
def applyKeyframesM (scene : Scene) (ctx : FrameContext) (states : AgentStates) :
    m AgentStates :=
  (group scene.keyframes).entries.foldlM (fun states entry => do
    match ← interpolateM entry.2 ctx.frame with
    | none => return states
    | some place =>
      changeM scene ctx states entry.1 fun s =>
        { s with keyframe := some ((scene.transform ctx.canvas).apply place) }) states

@[inherit_doc applyKeyframesM]
def applyKeyframes (scene : Scene) (ctx : FrameContext) (states : AgentStates) : AgentStates :=
  Id.run (applyKeyframesM scene ctx states)

/-- All cues of the frame: events first. -/
def applyAllM (scene : Scene) (ctx : FrameContext) (states : AgentStates) : m AgentStates := do
  let armed ← applyEventsM scene ctx states
  applyKeyframesM scene ctx armed

@[inherit_doc applyAllM]
def applyAll (scene : Scene) (ctx : FrameContext) (states : AgentStates) : AgentStates :=
  Id.run (applyAllM scene ctx states)

end Cue

end Playfield
