import Playfield.Proofs.Binary32.Remainder
import Playfield.Proofs.Frame.Bounds
import Playfield.Proofs.Frame.Roster
import Playfield.Proofs.Session.Stepping
import Playfield.Proofs.Session.Timing

/-!
Agents that wrap around the edges of the canvas.

A remainder is exact, so a coordinate comes back onto the canvas from any distance at once; the only
rounding is in the sum that turns a negative remainder up, and it crosses neither edge
(`wrapped_wrapCoordinate`). A step therefore ends on the canvas whenever it comes to finite
coordinates, and an agent that is there stays there over any run of such frames
(`wrapping_stays_on_canvas`).
-/

namespace Playfield

open Binary32 (value le_iff lt_iff)

/-! ### One coordinate -/

/-- What becomes of a coordinate `v` where a side of the canvas is `extent` long. -/
structure Wrapped (v extent w : Float32) : Prop where
  inside : 0 ≤ w ∧ w ≤ extent
  kept : 0 ≤ v → v ≤ extent → w = v
  again : wrapCoordinate w extent = w
  /-- Some whole sides away, but for the rounding. -/
  back : ∃ n : ℤ, Binary32.Nearest (value w) (value v - n * value extent)

section Coordinate

variable {v extent : Float32}

/-- A coordinate on the canvas stays. -/
theorem wrapCoordinate_of_inside (inside : 0 ≤ v ∧ v ≤ extent) : wrapCoordinate v extent = v := by
  simp [wrapCoordinate, inside]

/-- A coordinate off the canvas comes back as its remainder. -/
theorem wrapCoordinate_of_outside (positive : Positive extent)
    (outside : ¬(0 ≤ v ∧ v ≤ extent)) :
    wrapCoordinate v extent = Binary32.remEuclid v extent := by
  have some : ¬extent ≤ 0 := by
    rw [le_iff positive.1 rfl, Binary32.value_zero]
    exact not_le_of_gt ((Binary32.pos_iff positive.1).mp positive.2)
  simp [wrapCoordinate, outside, some]

/-- A remainder below zero is turned up into the side, also where rounding makes it the whole side.
-/
theorem turned_up {r : Float32} (finite : r.isFinite) (positive : Positive extent)
    (negative : value r < 0) (less : |value r| < value extent) :
    (r + extent.abs).isFinite ∧ 0 ≤ value (r + extent.abs) ∧
      value (r + extent.abs) ≤ value extent ∧
      Binary32.Nearest (value (r + extent.abs)) (value r + value extent) := by
  have pos := (Binary32.pos_iff positive.1).mp positive.2
  have rounds := Binary32.rounds_add finite (Binary32.isFinite_abs positive.1)
  rw [Binary32.value_abs, abs_of_pos pos] at rounds
  have above : 0 ≤ value r + value extent := by
    linarith [(abs_lt.mp less).1]
  have below : value r + value extent ≤ value extent := by linarith
  have bounded : (r + extent.abs).isFinite := by
    refine rounds.isFinite ?_
    rw [abs_of_nonneg above]
    exact below.trans (abs_le.mp (Binary32.abs_value_le positive.1)).2
  have near := rounds.near bounded
  exact ⟨bounded, near.nonneg above,
    near.le_of_le_number (Binary32.value_whole positive.1) below, near⟩

/-- What the remainder of a division makes of a coordinate. -/
theorem remEuclid_bounds (finite : v.isFinite) (positive : Positive extent) :
    let w := Binary32.remEuclid v extent
    w.isFinite ∧ 0 ≤ value w ∧ value w ≤ value extent ∧
      ∃ n : ℤ, Binary32.Nearest (value w) (value v - n * value extent) := by
  have pos := (Binary32.pos_iff positive.1).mp positive.2
  obtain ⟨bounded, ⟨n, whole⟩, less, -⟩ := Binary32.rem_exact finite positive.1 pos.ne'
  rw [abs_of_pos pos] at less
  unfold Binary32.remEuclid
  dsimp only
  split
  · rename_i negative
    rw [lt_iff bounded rfl, Binary32.value_zero] at negative
    obtain ⟨bounded', above, below, near⟩ := turned_up bounded positive negative less
    refine ⟨bounded', above, below, n - 1, ?_⟩
    have next : value v - (n - 1 : ℤ) * value extent =
        value (Binary32.rem v extent) + value extent := by
      rw [whole]
      push_cast
      ring
    rwa [next]
  · rename_i above
    rw [lt_iff bounded rfl, Binary32.value_zero, not_lt] at above
    refine ⟨bounded, above, (abs_lt.mp less).2.le, n, ?_⟩
    rw [← whole]
    exact .refl (Binary32.value_whole bounded)

/-- A finite coordinate comes onto the canvas. -/
theorem wrapped_wrapCoordinate (finite : v.isFinite) (positive : Positive extent) :
    Wrapped v extent (wrapCoordinate v extent) := by
  by_cases inside : 0 ≤ v ∧ v ≤ extent
  · rw [wrapCoordinate_of_inside inside]
    exact ⟨inside, fun _ _ => rfl, wrapCoordinate_of_inside inside, 0,
      by simpa using .refl (Binary32.value_whole finite)⟩
  · obtain ⟨bounded, above, below, back⟩ := remEuclid_bounds finite positive
    rw [wrapCoordinate_of_outside positive inside]
    have inside' : 0 ≤ Binary32.remEuclid v extent ∧ Binary32.remEuclid v extent ≤ extent := by
      rw [le_iff rfl bounded, le_iff bounded positive.1, Binary32.value_zero]
      exact ⟨above, below⟩
    exact ⟨inside', fun above below => absurd ⟨above, below⟩ inside,
      wrapCoordinate_of_inside inside', back⟩

end Coordinate

/-! ### One frame -/

/-- A place on a canvas, its edges included. -/
def OnCanvas (canvas position : Vec2) : Prop :=
  (0 ≤ position.x ∧ position.x ≤ canvas.x) ∧ 0 ≤ position.y ∧ position.y ≤ canvas.y

namespace Frame

variable {scene : Scene} {ctx : FrameContext} {previous : AgentStates} {o : SceneObject}
  {agent : Agent} {s : AgentState}

/-- A wrapping agent that takes a step to a finite place ends on the canvas, where that place is if
it is on the canvas itself. -/
theorem stepAgent_wrapped {snap : AgentStates} {published : Formula.Published}
    (wraps : agent.edges = .wrap) (found : snap.get? o.id = some s) (free : s.keyframe = none)
    (canvas : Positive ctx.canvas.x ∧ Positive ctx.canvas.y) :
    let next := stepAgent o agent snap published ctx
    let reached := s.position + next.velocity
    reached.isFinite → Wrapped reached.x ctx.canvas.x next.position.x ∧
      Wrapped reached.y ctx.canvas.y next.position.y := by
  intro next reached finite
  have placed : next.position = place .wrap ctx.canvas reached := by
    rw [← wraps]
    exact stepAgent_position found free
  obtain ⟨finiteX, finiteY⟩ := reached.isFinite_iff.mp finite
  rw [placed]
  exact ⟨wrapped_wrapCoordinate finiteX canvas.1, wrapped_wrapCoordinate finiteY canvas.2⟩

end Frame

/-! ### Any run -/

namespace Session

open AgentState (current)

/-- On the next frame of a session an agent is hidden, or takes a step to a finite place. -/
def Roams (s : Session) (o : SceneObject) : Prop :=
  (Frame.turn s.scene s.context s.cued o).sees s.context o →
    (current s.cued s.context o).keyframe = none ∧
      ∀ next ∈ s.preview.states.get? o.id,
        ((current s.cued s.context o).position + next.velocity).isFinite

/-- Where an agent is when the next frame of a session begins, before its cues. -/
def placeOf (s : Session) (o : SceneObject) : Vec2 :=
  (current s.states s.context o).position

variable {s : Session} {o : SceneObject} {agent : Agent}

/-- Cues do not move an agent before its step. -/
theorem position_current_cued (distinct : s.scene.DistinctIds) (member : o ∈ s.scene.objects)
    (is : o.isAgent) : (current s.cued s.context o).position = s.placeOf o := by
  rw [cued, Cue.current_applyAll distinct member is, Cue.keyed]
  split <;> rfl

/-- A frame on which a wrapping agent roams leaves it on the canvas. -/
theorem onCanvas_advance (distinct : s.scene.DistinctIds) (member : o ∈ s.scene.objects)
    (is : o.agent? = some agent) (wraps : agent.edges = .wrap)
    (canvas : Positive s.context.canvas.x ∧ Positive s.context.canvas.y) (roams : s.Roams o)
    (inside : OnCanvas s.context.canvas (s.placeOf o)) :
    OnCanvas s.context.canvas (s.advance.2.placeOf o) := by
  have isAgent := SceneObject.isAgent_of_agent? is
  have left : ∀ next, s.preview.states.get? o.id = some next →
      s.advance.2.placeOf o = next.position := by
    intro next left
    rw [placeOf, current, advance_states, left]
    rfl
  cases visible : (Frame.turn s.scene s.context s.cued o).sees s.context o with
  | true =>
    obtain ⟨free, finite⟩ := roams visible
    have stored := (Frame.lastTurn_turn distinct member).resolve_states_get? is visible
    obtain ⟨wrappedX, wrappedY⟩ := Frame.stepAgent_wrapped wraps
      (Frame.startStates_get?_agent distinct member isAgent) free canvas (finite _ stored)
    rw [left _ stored]
    exact ⟨wrappedX.inside, wrappedY.inside⟩
  | false =>
    have stored := Frame.resolve_states_get?_hidden distinct member isAgent
      (Bool.eq_false_iff.mp visible)
    rw [left _ stored]
    change OnCanvas _ (current s.cued s.context o).position
    rwa [position_current_cued distinct member isAgent]

/-- An agent that wraps stays on the canvas over any frames on which it is hidden or takes a finite
step. -/
theorem onCanvas_advanceBy (is : o.agent? = some agent) (wraps : agent.edges = .wrap) (n : ℕ)
    {s : Session} (objects : ResolvedObjects) (distinct : s.scene.DistinctIds)
    (member : o ∈ s.scene.objects)
    (canvas : Positive s.context.canvas.x ∧ Positive s.context.canvas.y)
    (roams : ∀ i < n, (advanceBy i s objects).2.Roams o)
    (inside : OnCanvas s.context.canvas (s.placeOf o)) :
    OnCanvas s.context.canvas ((advanceBy n s objects).2.placeOf o) := by
  induction n generalizing s objects with
  | zero => exact inside
  | succ n ih =>
    have first := onCanvas_advance distinct member is wraps canvas (roams 0 n.succ_pos) inside
    exact ih s.advance.1.objects distinct member canvas
      (fun i less => roams (i + 1) (Nat.succ_lt_succ less)) first

/-- **A wrapping agent stays on the canvas.** Where such an agent takes a step on a canvas with
positive finite sides, it is left on the canvas whenever its position and its new velocity have a
finite sum: a coordinate of the sum that is on the canvas stays as it is, one that is not comes back
by whole sides, and wrapping once more changes nothing. So an agent that is on the canvas is there
after any run of frames on each of which it is hidden or takes such a step. -/
theorem wrapping_stays_on_canvas (is : o.agent? = some agent) (wraps : agent.edges = .wrap) :
    (∀ scene ctx previous p s, Frame.LastTurn scene ctx previous o p → p.sees ctx o →
      (Frame.startStates scene ctx previous).get? o.id = some s → s.keyframe = none →
      Positive ctx.canvas.x → Positive ctx.canvas.y →
      ∃ next, (Frame.resolve scene ctx previous).states.get? o.id = some next ∧
        let reached := s.position + next.velocity
        (reached.isFinite → OnCanvas ctx.canvas next.position ∧
          Wrapped reached.x ctx.canvas.x next.position.x ∧
          Wrapped reached.y ctx.canvas.y next.position.y ∧
          Frame.place .wrap ctx.canvas next.position = next.position)) ∧
    (∀ (s : Session) (n : ℕ) (objects : ResolvedObjects), s.scene.DistinctIds →
      o ∈ s.scene.objects → Positive s.context.canvas.x → Positive s.context.canvas.y →
      (∀ i < n, (advanceBy i s objects).2.Roams o) →
      OnCanvas s.context.canvas (s.placeOf o) →
      OnCanvas s.context.canvas ((advanceBy n s objects).2.placeOf o)) := by
  constructor
  · intro scene ctx previous p s last visible found free width height
    refine ⟨_, last.resolve_states_get? is visible, fun finite => ?_⟩
    obtain ⟨wrappedX, wrappedY⟩ := Frame.stepAgent_wrapped wraps found free ⟨width, height⟩ finite
    refine ⟨⟨wrappedX.inside, wrappedY.inside⟩, wrappedX, wrappedY, ?_⟩
    rw [Frame.place, wrappedX.again, wrappedY.again]
  · intro s n objects distinct member width height roams inside
    exact onCanvas_advanceBy is wraps n objects distinct member ⟨width, height⟩ roams inside

def puck : SceneObject :=
  { id := "puck", kind := .agent { edges := .wrap, maxSpeed := some 2000 } }

/-- A session in which the puck leaves the canvas to the left by almost nothing, and downwards by two
canvases. -/
def rink : Session where
  scene := { objects := [puck] }
  settings := { width := 800, height := 600 }
  states := IdMap.empty.insert "puck" { position := ⟨0, 300⟩, velocity := ⟨-1e-9, 1500⟩ }

/-- The puck comes to two edges, and is on the canvas after three frames. -/
theorem wrapping_stays_on_canvas_rink :
    let turn := Frame.turn rink.scene rink.context rink.cued puck
    let glided : AgentState := { position := ⟨800, 0⟩, velocity := ⟨-1e-9, 1500⟩ }
    Positive rink.context.canvas.x ∧ Positive rink.context.canvas.y ∧
      Frame.LastTurn rink.scene rink.context rink.cued puck turn ∧ turn.sees rink.context puck ∧
      rink.preview.states.get? "puck" = some glided ∧
      OnCanvas rink.context.canvas glided.position ∧
      (∀ i < 3, (advanceBy i rink .empty).2.Roams puck) ∧
      OnCanvas rink.context.canvas (rink.placeOf puck) ∧
      OnCanvas rink.context.canvas ((advanceBy 3 rink .empty).2.placeOf puck) := by
  intro turn glided
  have width : Positive rink.context.canvas.x := ⟨by decide +kernel, by decide +kernel⟩
  have height : Positive rink.context.canvas.y := ⟨by decide +kernel, by decide +kernel⟩
  have distinct : rink.scene.DistinctIds := by decide
  have member : puck ∈ rink.scene.objects := List.mem_singleton_self puck
  have last : Frame.LastTurn rink.scene rink.context rink.cued puck turn :=
    Frame.lastTurn_turn distinct member
  have stored : rink.preview.states.get? "puck" = some glided := by decide +kernel
  have roams : ∀ i < 3, (advanceBy i rink .empty).2.Roams puck := by
    unfold Roams
    decide +kernel
  have start : OnCanvas rink.context.canvas (rink.placeOf puck) := by
    unfold OnCanvas
    decide +kernel
  obtain ⟨frame, run⟩ := wrapping_stays_on_canvas (o := puck) rfl rfl
  obtain ⟨next, left, wrapped⟩ :=
    frame rink.scene rink.context rink.cued turn _ last rfl rfl rfl width height
  obtain rfl := Option.some.inj (left.symm.trans stored)
  exact ⟨width, height, last, rfl, stored, (wrapped (by decide +kernel)).1, roams, start,
    run rink 3 .empty distinct member width height roams start⟩

end Session

end Playfield
