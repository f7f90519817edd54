import Playfield.Proofs.Binary32.Arithmetic
import Playfield.Proofs.Guarded.Formula
import Playfield.Proofs.Guarded.Order
import Playfield.Proofs.Resolving

/-!
A frame with every access guarded.

Whatever is partial on a frame stops with a fault in `Guarded` where it would go wrong. As it is used
it never does: whatever index an agent has kept from a path that was longer, it is cut down to the
path that it follows now before it is used, and it stays on that path (`followPath_pathIndex_lt`);
two keyframes are looked at only where the frame lies between them, and where they lie on one frame
there is nothing to divide. So `Guarded` is a sound monad to resolve frames in, and a frame meets no
fault and comes to what it comes to without guards, whatever the scene, the frame and the states
before it (`Frame.frame_faultless`).
-/

namespace Playfield

/-- Every formula is evaluated with guards, and what is partial may be a fault. -/
instance : Resolving Guarded where
  settle := Formula.settleG
  waypoint first rest i := guardedAt .waypoint (first :: rest) i
  successor length i := if i + 1 ≤ length then .ok (i + 1) else .error (.waypointOverflow i)
  framesBetween first last :=
    if first ≤ last then .ok (last - first) else .error (.frameUnderflow first last)
  partOf done whole :=
    let divisor := Binary32.ofNat whole
    if divisor == 0 then .error .noDistance else .ok (Binary32.ofNat done / divisor)

/-- A place on a path is that of a waypoint. -/
theorem getElem?_waypoint (first : Vec2) {rest : List Vec2} {i : Nat} (bound : i ≤ rest.length) :
    (first :: rest)[i]? = some ((first :: rest).getD i first) := by
  have inside : i < (first :: rest).length := Nat.lt_succ_of_le bound
  rw [List.getElem?_eq_getElem inside, List.getD_eq_getElem _ _ inside]

instance : Resolving.Sound Guarded where
  ComesTo := Passes
  value := .pure
  next first rest := first.bind rest
  settle := Formula.passes_settleG
  waypoint first _ _ bound := .guardedAt (getElem?_waypoint first bound)
  successor inside := if_pos inside
  framesBetween le := if_pos le
  partOf _ _ pos := if_neg (Binary32.not_beq_zero (Binary32.ofNat_pos pos))

/-! ### Paths -/

namespace Steering

/-- Having followed a path, an agent heads for one of its waypoints. -/
theorem followPath_pathIndex_lt (s : AgentState) {path : List Vec2} (some : path ≠ [])
    (looped : Bool) (maxSpeed : Float32) :
    (followPath s path looped maxSpeed).2.pathIndex < path.length := by
  cases path with
  | nil => contradiction
  | cons first rest =>
    exact Nat.lt_succ_of_le (nextWaypoint_le s first rest looped (Nat.min_le_right _ _))

end Steering

/-- In whatever order an agent follows its paths, and whatever else it does in between, it heads for
a waypoint of the path that it has just followed. -/
theorem foldl_addForce_pathIndex_lt (ctx : SteeringContext) (start : Vec2 × Steered)
    (earlier : List WeightedBehavior) {b : WeightedBehavior} {path : List Vec2} {looped : Bool}
    (follows : b.behavior = .followPath path looped) (some : path ≠ []) :
    ((earlier ++ [b]).foldl (addForce ctx) start).2.state.pathIndex < path.length := by
  rw [List.foldl_append, List.foldl_cons, List.foldl_nil, addForce_eq, follows]
  exact Steering.followPath_pathIndex_lt _ some looped _

/-! ### Frames -/

def Cue.applyAllG (scene : Scene) (ctx : FrameContext) (states : AgentStates) :
    Guarded AgentStates :=
  applyAllM scene ctx states

namespace Frame

/-- Resolve a frame with guards, from sorting the objects on. -/
def resolveG (scene : Scene) (ctx : FrameContext) (previous : AgentStates) : Guarded Frame := do
  let objects ← Order.dependencyOrderG scene.objects
  resolveOrderedM objects ctx previous

/-- Resolving a frame with guards meets no fault and comes to the frame. -/
theorem passes_resolveG (scene : Scene) (ctx : FrameContext) (previous : AgentStates) :
    Passes (resolveG scene ctx previous) (resolve scene ctx previous) :=
  .bind (Order.passes_dependencyOrderG scene.objects)
    (comesTo_resolveOrderedM (m := Guarded) ctx _ previous)

/-! ### No faults -/

/-- **No frame can go wrong.** With every access guarded, the cues of a frame and its objects come to
what they come to without guards, whatever the scene, the frame and the states before it: no place
is looked up beyond a path, the arguments of a call or the objects, no frame is taken from an
earlier one, nothing is divided by a distance of no frames, and no index of a waypoint grows too
large. In particular an agent that has just followed a path heads for one of its waypoints, whatever
index it had before and whichever paths it has followed on the same frame. -/
theorem frame_faultless (scene : Scene) (ctx : FrameContext) (previous : AgentStates) :
    Cue.applyAllG scene ctx previous = .ok (Cue.applyAll scene ctx previous) ∧
      resolveG scene ctx previous = .ok (resolve scene ctx previous) ∧
      ∀ (context : SteeringContext) (start : Vec2 × Steered) (earlier : List WeightedBehavior)
        (b : WeightedBehavior) (path : List Vec2) (looped : Bool),
        b.behavior = .followPath path looped → path ≠ [] →
          ((earlier ++ [b]).foldl (addForce context) start).2.state.pathIndex < path.length := by
  refine ⟨Cue.comesTo_applyAllM (m := Guarded) scene ctx previous,
    passes_resolveG scene ctx previous, ?_⟩
  intro context start earlier b path looped follows some
  exact foldl_addForce_pathIndex_lt context start earlier follows some

/-- A long way, and a short one that shares its index. -/
def outward : WeightedBehavior :=
  (Behavior.followPath [⟨0, 0⟩, ⟨400, 0⟩, ⟨400, 300⟩, ⟨0, 300⟩] true).plain

def inward : WeightedBehavior :=
  (Behavior.followPath [⟨200, 150⟩, ⟨210, 150⟩] false).plain

/-- A runner on both ways, which starts where a formula puts it and is moved by keyframes. -/
def relay : Scene where
  objects :=
    [{ id := "runner", parent := some "track", x := some (.formula "clamp(frame, 0, min(40, width))"),
       kind := .agent { behaviors := [outward, inward] } },
      { id := "track", parent := some "runner", kind := .group }]
  keyframes := [⟨2, "runner", ⟨0, 0⟩⟩, ⟨4, "runner", ⟨40, 0⟩⟩]

/-- The state of a runner whose index is from a path that no longer exists. -/
def strayed : AgentState where
  position := ⟨0, 0⟩
  pathIndex := 9

/-- A relay resolved with guards. -/
theorem frame_faultless_relay :
    let ctx : FrameContext := ⟨3, 0.1, ⟨800, 600⟩, 7⟩
    let previous : AgentStates := IdMap.empty.insert "runner" strayed
    (inward.behavior = .followPath [⟨200, 150⟩, ⟨210, 150⟩] false ∧
        ([⟨200, 150⟩, ⟨210, 150⟩] : List Vec2) ≠ []) ∧
      Cue.applyAllG relay ctx previous = .ok (Cue.applyAll relay ctx previous) ∧
      resolveG relay ctx previous = .ok (resolve relay ctx previous) ∧
      ∀ (context : SteeringContext) (random : Random),
        (([outward] ++ [inward]).foldl (addForce context)
          (Vec2.zero, ⟨strayed, random⟩)).2.state.pathIndex < 2 := by
  intro ctx previous
  have some : ([⟨200, 150⟩, ⟨210, 150⟩] : List Vec2) ≠ [] := by simp
  obtain ⟨cues, objects, paths⟩ := frame_faultless relay ctx previous
  refine ⟨⟨rfl, some⟩, cues, objects, ?_⟩
  intro context random
  exact paths context (Vec2.zero, ⟨strayed, random⟩) [outward] inward _ false rfl some

end Frame

end Playfield
