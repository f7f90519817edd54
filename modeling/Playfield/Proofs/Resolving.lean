import Playfield.Frame
import Playfield.Proofs.Agent.Plain

/-!
Frames come to the same in every sound monad.

`Resolving.Sound` asks of a monad in which frames can be resolved for a relation between its
computations and the values that they come to, kept by the operations of `Resolving` where these are
used as they are meant to be. Then the cues of a frame, its agents and its objects come to what they
come to in `Id` (`Cue.comesTo_applyAllM`, `Frame.comesTo_resolveOrderedM`): one lemma for every
function in a monad, whose proof has the shape of that function. What is partial is only done where
nothing can go wrong: an index is cut down to the path before it is looked up, and frames are counted
between keyframes with the frame between them.
-/

namespace Playfield

open Formula (Animated Color Scope Value settleNumberM settleTruthM settleTextM settleColorM)

/-- What frames come to in a monad is what they come to in `Id`. -/
class Resolving.Sound (m : Type → Type) [Monad m] [Resolving m] extends LawfulMonad m where
  /-- A computation comes to a value. -/
  ComesTo {α : Type} : m α → α → Prop
  value {α : Type} (a : α) : ComesTo (pure a) a
  next {α β : Type} {c : m α} {a : α} {f : α → m β} {b : β} :
    ComesTo c a → ComesTo (f a) b → ComesTo (c >>= f) b
  settle {α : Type} (read : Value → Option α) (value : Option (Animated α)) (fallback : α)
    (scope : Scope) :
    ComesTo (Resolving.settle read value fallback scope) (Formula.settle read value fallback scope)
  /-- A place on the path is looked up. -/
  waypoint (first : Vec2) {rest : List Vec2} {i : Nat} : i ≤ rest.length →
    ComesTo (Resolving.waypoint first rest i) ((first :: rest).getD i first)
  successor {length i : Nat} : i < length → ComesTo (Resolving.successor length i) (i + 1)
  framesBetween {first last : Nat} : first ≤ last →
    ComesTo (Resolving.framesBetween first last) (last - first)
  partOf (done : Nat) {whole : Nat} : 0 < whole →
    ComesTo (Resolving.partOf done whole) (Binary32.ofNat done / Binary32.ofNat whole)

open Resolving Resolving.Sound

variable {m : Type → Type} [Monad m] [Resolving m] [Sound m]

namespace Resolving.Sound.ComesTo

variable {α β : Type}

theorem pure (a : α) : ComesTo (Pure.pure a : m α) (Pure.pure a : Id α).run :=
  value a

/-- Two computations one after the other come to what they come to in `Id`. -/
theorem bind {c : m α} {c' : Id α} {f : α → m β} {g : α → Id β} (first : ComesTo c c'.run)
    (rest : ComesTo (f c'.run) (g c'.run).run) : ComesTo (c >>= f) (c' >>= g).run :=
  next first rest

/-- Steps over a list come to what they come to in `Id`. -/
theorem foldlM {f : β → α → m β} {g : β → α → Id β}
    (each : ∀ b a, ComesTo (f b a) (g b a).run) (list : List α) (b : β) :
    ComesTo (list.foldlM f b) (list.foldlM g b).run := by
  induction list generalizing b with
  | nil => exact .pure b
  | cons a rest ih =>
    rw [List.foldlM_cons, List.foldlM_cons]
    exact .bind (each b a) (ih _)

/-- Computations for the elements of a list come to what they come to in `Id`. -/
theorem mapM {f : α → m β} {g : α → Id β} (each : ∀ a, ComesTo (f a) (g a).run) (list : List α) :
    ComesTo (list.mapM f) (list.mapM g).run := by
  induction list with
  | nil => exact .pure []
  | cons a rest ih =>
    rw [List.mapM_cons, List.mapM_cons]
    exact .bind (each a) (.bind ih (.pure _))

end Resolving.Sound.ComesTo

/-! ### Agents that start -/

namespace AgentState

variable (ctx : FrameContext)

theorem comesTo_spawnM (o : SceneObject) : ComesTo (spawnM o ctx : m AgentState) (spawn o ctx) :=
  .bind (settle _ o.x 0 (spawnScope ctx)) (.bind (settle _ o.y 0 (spawnScope ctx)) (.pure _))

/-- A missing state is made up for alike. -/
theorem comesTo_orSpawnM (state : Option AgentState) (o : SceneObject) :
    ComesTo (orSpawnM state o ctx : m AgentState) (Id.run (orSpawnM state o ctx)) := by
  cases state with
  | none => exact comesTo_spawnM ctx o
  | some s => exact .pure s

end AgentState

/-! ### Paths and forces -/

namespace Steering

/-- The next waypoint of one on the path is on the path. -/
theorem nextWaypoint_le (s : AgentState) (first : Vec2) (rest : List Vec2) (looped : Bool) {i : Nat}
    (bound : i ≤ rest.length) : nextWaypoint s first rest looped i ≤ rest.length := by
  rw [nextWaypoint_eq]
  split
  · split
    · assumption
    · split
      · exact Nat.zero_le _
      · exact Nat.le_refl _
  · exact bound

/-- The next waypoint of one on the path is the same. -/
theorem comesTo_nextWaypointM (s : AgentState) (first : Vec2) (rest : List Vec2) (looped : Bool)
    {i : Nat} (bound : i ≤ rest.length) :
    ComesTo (nextWaypointM s first rest looped i : m Nat)
      (nextWaypoint s first rest looped i) := by
  refine .bind (waypoint first bound) ?_
  split
  · exact .bind (successor (Nat.lt_succ_of_le bound)) (.pure _)
  · exact .pure _

/-- A path is followed alike, from whatever waypoint: it is first cut down to the path. -/
theorem comesTo_followPathM (s : AgentState) (path : List Vec2) (looped : Bool)
    (maxSpeed : Float32) :
    ComesTo (followPathM s path looped maxSpeed : m (Vec2 × AgentState))
      (followPath s path looped maxSpeed) := by
  cases path with
  | nil => exact .pure _
  | cons first rest =>
    have bound : min s.pathIndex rest.length ≤ rest.length := Nat.min_le_right _ _
    exact .bind (comesTo_nextWaypointM s first rest looped bound)
      (.bind (waypoint first (nextWaypoint_le s first rest looped bound)) (.pure _))

/-- A behavior has the same force. -/
theorem comesTo_forceM? (behavior : Behavior) (ctx : SteeringContext) (a : Steered) :
    ComesTo (forceM? behavior ctx a : m (Option Vec2 × Steered)) (force? behavior ctx a) := by
  cases behavior with
  | followPath path looped =>
    exact .bind (comesTo_followPathM a.state path looped ctx.params.maxSpeed) (.pure _)
  | _ => exact .pure _

end Steering

theorem comesTo_addForceM (ctx : SteeringContext) (sum : Vec2 × Steered) (b : WeightedBehavior) :
    ComesTo (addForceM ctx sum b : m (Vec2 × Steered)) (addForce ctx sum b) := by
  refine .bind (Steering.comesTo_forceM? b.behavior ctx sum.2) ?_
  match (Steering.forceM? b.behavior ctx sum.2 : Id (Option Vec2 × Steered)).run with
  | (some force, a) => exact .pure _
  | (none, a) => exact .pure _

theorem comesTo_steeringForceM (behaviors : List WeightedBehavior) (ctx : SteeringContext)
    (a : Steered) :
    ComesTo (steeringForceM behaviors ctx a : m (Vec2 × Steered)) (steeringForce behaviors ctx a) :=
  .bind (.foldlM (comesTo_addForceM ctx) behaviors (Vec2.zero, a)) (.pure _)

/-! ### Cues -/

namespace Cue

variable (scene : Scene) (ctx : FrameContext) (states : AgentStates)

theorem comesTo_changeM (id : String) (f : AgentState → AgentState) :
    ComesTo (changeM scene ctx states id f : m AgentStates) (change scene ctx states id f) := by
  unfold change changeM
  cases (scene.find? id).filter (·.isAgent) with
  | none => exact .pure states
  | some o => exact .bind (AgentState.comesTo_orSpawnM ctx (states.get? id) o) (.pure _)

theorem comesTo_applyM (kind : EventKind) :
    ComesTo (applyM scene ctx states kind : m AgentStates) (apply scene ctx states kind) := by
  cases kind with
  | possession agent ball => exact comesTo_changeM scene ctx states _ _
  | pass sender receiver ball => exact comesTo_changeM scene ctx states _ _
  | shot shooter x y ball =>
    match x, y with
    | some x, some y => exact comesTo_changeM scene ctx states _ _
    | some x, none => exact .pure states
    | none, _ => exact .pure states
  | timeout =>
    exact .foldlM (fun states (o : SceneObject) => comesTo_changeM scene ctx states o.id _) _ states
  | behavior agent behaviors => exact comesTo_changeM scene ctx states agent _
  | release agent =>
    cases agent with
    | none => exact .pure _
    | some agent => exact .pure _
  | other => exact .pure states

/-- The events of a frame are applied alike. -/
theorem comesTo_applyEventsM :
    ComesTo (applyEventsM scene ctx states : m AgentStates) (applyEvents scene ctx states) :=
  .foldlM (fun states (e : Event) => comesTo_applyM scene ctx states e.kind) _ states

/-- Between two keyframes nothing is taken from a smaller frame, and nothing divided by zero. -/
theorem comesTo_betweenM {frame : Nat} {a b : Keyframe} (begun : a.frame ≤ frame)
    (ends : frame ≤ b.frame) : ComesTo (betweenM frame a b : m Vec2) (between frame a b) := by
  unfold between betweenM
  split
  · exact .pure _
  · have apart : 0 < b.frame - a.frame := by omega
    exact .bind (framesBetween begun) (.bind (framesBetween (Nat.le_trans begun ends))
      (.bind (partOf _ apart) (.pure _)))

/-- The keyframes of an agent come to the same place, as the frame lies between those that count. -/
theorem comesTo_interpolateM (keyframes : List Keyframe) (frame : Nat) :
    ComesTo (interpolateM keyframes frame : m (Option Vec2)) (interpolate keyframes frame) := by
  unfold interpolate interpolateM
  cases keyframes with
  | nil => exact .pure none
  | cons first later =>
    dsimp only
    split
    · exact .pure _
    split
    · exact .pure none
    split
    · exact .pure none
    · -- The pair was found because the frame lies between its two.
      rename_i a b found
      have between := List.find?_some found
      simp only [Bool.and_eq_true, decide_eq_true_eq] at between
      exact .bind (comesTo_betweenM between.1 between.2) (.pure _)

theorem comesTo_applyKeyframesM :
    ComesTo (applyKeyframesM scene ctx states : m AgentStates)
      (applyKeyframes scene ctx states) := by
  refine .foldlM (fun states entry => ?_) _ states
  refine .bind (comesTo_interpolateM entry.2 ctx.frame) ?_
  match (interpolateM entry.2 ctx.frame : Id (Option Vec2)).run with
  | none => exact .pure states
  | some place => exact comesTo_changeM scene ctx states entry.1 _

/-- The cues of a frame are applied alike. -/
theorem comesTo_applyAllM :
    ComesTo (applyAllM scene ctx states : m AgentStates) (applyAll scene ctx states) :=
  .bind (comesTo_applyEventsM scene ctx states) (comesTo_applyKeyframesM scene ctx _)

end Cue

/-! ### Objects -/

namespace Frame

variable (ctx : FrameContext)

theorem comesTo_snapshotM (objects : List SceneObject) (previous : AgentStates) :
    ComesTo (snapshotM objects previous ctx : m AgentStates) (snapshot objects previous ctx) := by
  refine .bind (.mapM (fun o => ?_) (objects.filter (·.isAgent))) (.pure _)
  exact .bind (AgentState.comesTo_orSpawnM ctx (previous.get? o.id) o) (.pure (o.id, _))

/-- An agent steps alike. -/
theorem comesTo_stepAgentM (o : SceneObject) (agent : Agent) (snapshot : AgentStates)
    (published : Formula.Published) :
    ComesTo (stepAgentM o agent snapshot published ctx : m AgentState)
      (stepAgent o agent snapshot published ctx) := by
  unfold stepAgent stepAgentM
  generalize (snapshot.get? o.id).getD { position := Vec2.zero } = s
  dsimp only
  cases s.keyframe with
  | some position => exact .pure _
  | none => exact .bind (comesTo_steeringForceM _ _ _) (.pure _)

section Figures

variable (o : SceneObject) (scope : Formula.Scope)

theorem comesTo_anchorM : ComesTo (anchorM o scope : m Vec2) (anchor o scope) :=
  .bind (settle _ o.x 0 scope) (.bind (settle _ o.y 0 scope) (.pure _))

theorem comesTo_brushM (p : Paint) (fill stroke : Color) :
    ComesTo (brushM p fill stroke scope : m Brush) (brushM p fill stroke scope : Id Brush).run :=
  .bind (settle _ p.fill fill scope) (.bind (settle _ p.stroke stroke scope) (.pure _))

theorem comesTo_sizeM (width height : Option (Animated Float32)) (fallback : Float32) :
    ComesTo (sizeM width height fallback scope : m Vec2)
      (sizeM width height fallback scope : Id Vec2).run :=
  .bind (settle _ width fallback scope) (.bind (settle _ height fallback scope) (.pure _))

variable {place : m Vec2} {place' : Id Vec2} (placed : ComesTo place place'.run)

include placed

/-- An object has the same figure at the same place. -/
theorem comesTo_figureM? :
    ComesTo (figureM? o place scope) (figureM? o place' scope).run := by
  unfold figureM?
  cases o.kind with
  | ellipse e =>
    exact .bind placed (.bind (comesTo_sizeM scope e.width e.height defaultSize)
      (.bind (comesTo_brushM scope e.paint white none) (.pure _)))
  | rect r =>
    exact .bind placed (.bind (comesTo_sizeM scope r.width r.height defaultSize)
      (.bind (comesTo_brushM scope r.paint white none) (.pure _)))
  | line l =>
    exact .bind placed (.bind (settle _ l.x2 0 scope) (.bind (settle _ l.y2 0 scope)
      (.bind (settle _ l.stroke white scope) (.pure _))))
  | text t =>
    exact .bind placed (.bind (settle _ t.text "" scope)
      (.bind (settle _ t.fill white scope) (.pure _)))
  | arc a =>
    exact .bind (settle _ a.radiusX defaultArcRadius scope)
      (.bind placed (.bind (settle _ a.radiusY _ scope) (.bind (settle _ a.startAngle 0 scope)
        (.bind (settle _ a.endAngle Binary32.tau scope)
          (.bind (comesTo_brushM scope a.paint none white) (.pure _))))))
  | agent agent =>
    exact .bind placed (.bind (comesTo_sizeM scope agent.width agent.height defaultAgentSize)
      (.bind (comesTo_brushM scope agent.paint white none) (.pure _)))
  | group => exact .bind placed (.pure _)
  | unknown => exact .bind placed (.pure _)

/-- An object enters alike at the same place. -/
theorem comesTo_enterM (p : Progress) (velocity : Option Vec2) :
    ComesTo (p.enterM o place velocity scope) (p.enterM o place' velocity scope).run :=
  .bind (comesTo_figureM? o scope placed) (.bind (settle _ o.opacity 1 scope) (.pure _))

end Figures

/-- An object has the same turn. -/
theorem Progress.comesTo_resolveM (snap : AgentStates) (p : Progress) (o : SceneObject) :
    ComesTo (p.resolveM ctx snap o : m Progress) (p.resolve ctx snap o) := by
  refine .bind (settle _ o.visible true (p.scope ctx o)) ?_
  split
  · cases o.kind with
    | unknown => exact .pure p
    | agent agent =>
      exact .bind (comesTo_stepAgentM ctx o agent snap p.published)
        (.bind (comesTo_enterM o (p.scope ctx o) (.pure _) p _) (.pure _))
    | _ => exact comesTo_enterM o (p.scope ctx o) (comesTo_anchorM o (p.scope ctx o)) p none
  · exact .pure _

/-- Objects in their order are resolved to the same frame. -/
theorem comesTo_resolveOrderedM (objects : List SceneObject) (previous : AgentStates) :
    ComesTo (resolveOrderedM objects ctx previous : m Frame)
      (resolveOrderedM objects ctx previous : Id Frame).run :=
  .bind (comesTo_snapshotM ctx objects previous)
    (.bind (.foldlM (Progress.comesTo_resolveM ctx _) objects Progress.start) (.pure _))

end Frame

end Playfield
