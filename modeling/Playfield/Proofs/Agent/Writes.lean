import Playfield.Proofs.Agent.Plain

/-!
Cues as writes to the states of agents.

The cues of a frame come to a list of writes, made one after the other (`applyAll_eq_foldl`). The
script, the agents of the scene, the canvas and the frame decide which writes these are; the states
that are there and the seed have no part in it. What each write keeps is therefore kept by all
cues, and two scenes with the same writes, made alike, have the same cues (`applyAll_congr`).
-/

namespace Playfield

namespace Cue

/-- A change to the states of agents. -/
inductive Write where
  /-- Give an agent other behaviors. -/
  | assign (id : String) (behaviors : List WeightedBehavior)
  /-- Give an agent its own behaviors back. -/
  | drop (id : String)
  | dropAll
  /-- Put an agent at a place for this frame. -/
  | put (id : String) (place : Vec2)

def Write.perform (scene : Scene) (ctx : FrameContext) (states : AgentStates) :
    Write → AgentStates
  | .assign id behaviors => setOverride scene ctx states id behaviors
  | .drop id => states.update id dropOverride
  | .dropAll => states.mapValues fun _ s => dropOverride s
  | .put id place => change scene ctx states id fun s => { s with keyframe := some place }

/-- What all states have, agents start with and the change keeps, all states have after it. -/
theorem all_change {scene : Scene} {ctx : FrameContext} {states : AgentStates}
    {P : AgentState → Prop} (all : states.All P) (started : ∀ o, P (AgentState.spawn o ctx))
    (id : String) {f : AgentState → AgentState} (kept : ∀ s, P s → P (f s)) :
    (change scene ctx states id f).All P := by
  rw [change_eq]
  split
  · exact all
  · rename_i o _
    exact all.insert id (kept _ (all.getD id (started o)))

/-! ### The writes of a frame -/

/-- What an event writes. A time-out writes to one agent after the other. -/
def eventWrites (scene : Scene) (canvas : Vec2) : EventKind → List Write
  | .possession agent ball =>
    [.assign (ball.getD defaultBall)
      [(Behavior.arrive (.object agent) (some possessionSlowRadius)).plain]]
  | .pass _ receiver ball =>
    [.assign (ball.getD defaultBall) [(Behavior.fastBreak (.object receiver)).plain]]
  | .shot _ (some x) (some y) ball =>
    [.assign (ball.getD defaultBall)
      [(Behavior.fastBreak (.point ((scene.transform canvas).apply ⟨x, y⟩))).plain]]
  | .timeout => scene.agents.map fun o => .assign o.id []
  | .behavior agent behaviors => [.assign agent behaviors]
  | .release (some agent) => [.drop agent]
  | .release none => [.dropAll]
  | .shot _ _ _ _ | .other => []

/-- What the keyframes write: the place of each agent that they have one for. -/
def keyframeWrites (scene : Scene) (canvas : Vec2) (frame : Nat) : List Write :=
  (group scene.keyframes).entries.filterMap fun entry =>
    (interpolate entry.2 frame).map fun place =>
      .put entry.1 ((scene.transform canvas).apply place)

/-- What all cues of a frame write: the events first. -/
def writes (scene : Scene) (canvas : Vec2) (frame : Nat) : List Write :=
  ((scene.events.filter fun e => e.frame == frame).flatMap fun e => eventWrites scene canvas e.kind)
    ++ keyframeWrites scene canvas frame

variable (scene : Scene) (ctx : FrameContext) (states : AgentStates)

/-- Applying an event is performing its writes. -/
theorem apply_eq_foldl (kind : EventKind) :
    apply scene ctx states kind =
      (eventWrites scene ctx.canvas kind).foldl (Write.perform scene ctx) states := by
  cases kind with
  | timeout =>
    rw [apply_timeout, eventWrites, List.foldl_map]
    rfl
  | shot shooter x y ball =>
    cases x with
    | none => rfl
    | some x => cases y <;> rfl
  | release agent => cases agent <;> rfl
  | _ => rfl

/-- Applying the keyframes of a frame is performing their writes. -/
theorem applyKeyframes_eq_foldl_writes :
    applyKeyframes scene ctx states =
      (keyframeWrites scene ctx.canvas ctx.frame).foldl (Write.perform scene ctx) states := by
  rw [keyframeWrites, List.foldl_filterMap]
  rw [applyKeyframes_eq]
  congr 1
  funext states entry
  cases interpolate entry.2 ctx.frame with
  | none => rfl
  | some place => rfl

/-- Applying the events of a frame is performing their writes, event after event. -/
theorem applyEvents_eq_foldl_writes :
    applyEvents scene ctx states =
      ((scene.events.filter fun e => e.frame == ctx.frame).flatMap fun e =>
        eventWrites scene ctx.canvas e.kind).foldl (Write.perform scene ctx) states := by
  rw [List.foldl_flatMap]
  simp only [applyEvents_eq, apply_eq_foldl]

/-- The cues of a frame are its writes, one after the other. -/
theorem applyAll_eq_foldl :
    applyAll scene ctx states =
      (writes scene ctx.canvas ctx.frame).foldl (Write.perform scene ctx) states := by
  rw [applyAll_eq, applyKeyframes_eq_foldl_writes, applyEvents_eq_foldl_writes, writes,
    List.foldl_append]

/-! ### Scenes with the same cues -/

/-- Two scenes with the same script for agents of the same ids. -/
structure SameScript (scene scene' : Scene) : Prop where
  events : scene'.events = scene.events
  keyframes : scene'.keyframes = scene.keyframes
  court : scene'.court = scene.court
  agents : scene'.agents.map (·.id) = scene.agents.map (·.id)

variable {scene ctx} {scene' : Scene}

/-- Scenes with the same script have the same writes. -/
theorem writes_congr (same : SameScript scene scene') (canvas : Vec2) (frame : Nat) :
    writes scene' canvas frame = writes scene canvas frame := by
  have transform : scene'.transform = scene.transform := by
    unfold Scene.transform
    rw [same.court]
  have timeout : scene'.agents.map (fun o => Write.assign o.id []) =
      scene.agents.map (fun o => Write.assign o.id []) := by
    simpa [Function.comp_def] using congrArg (List.map fun id => Write.assign id []) same.agents
  have each (kind : EventKind) :
      eventWrites scene' canvas kind = eventWrites scene canvas kind := by
    unfold eventWrites
    rw [transform, timeout]
  simp only [writes, keyframeWrites, same.events, same.keyframes, transform, each]

/-- Scenes with the same script, in which the same agents are found and start in the same states,
have the same cues. -/
theorem applyAll_congr (same : SameScript scene scene')
    (changes : ∀ states id f, change scene' ctx states id f = change scene ctx states id f)
    (states : AgentStates) : applyAll scene' ctx states = applyAll scene ctx states := by
  have alike : Write.perform scene' ctx = Write.perform scene ctx := by
    funext states write
    cases write with
    | assign id behaviors =>
      exact changes states id fun s => { s with behaviorOverride := some behaviors }
    | put id place => exact changes states id fun s => { s with keyframe := some place }
    | _ => rfl
  rw [applyAll_eq_foldl, applyAll_eq_foldl, alike, writes_congr same]

end Cue

end Playfield
