import Playfield.Proofs.Frame.Keyframes
import Playfield.Session

/-!
The sessions that operations lead to.

`Reachable` is every session that starts from settings or from a scene and goes through operations
in any order, those that fail included. An invariant of all of them has to hold of the two starts
and be kept by each operation; one about the states alone has to be kept by deleting an object,
since every frame that is stepped over leaves new ones (`Reachable.consumed`).
-/

namespace Playfield.Session

/-! ### Operations -/

/-- What a session can be asked to do. -/
inductive Operation where
  | add (o : SceneObject)
  | set (id : String) (o : SceneObject)
  | delete (id : String)
  | replaceScene (scene : Scene)
  | setEvents (events : List Event)
  | setKeyframes (keyframes : List Keyframe)
  | step
  | run (requested : Option Nat)
  | tick (clock : Clock) (delta : Float32)
  | preview
  | reset

/-- The session after an operation, whether or not it is refused. -/
def after (s : Session) : Operation → Session
  | .add o => ((add o).perform s).2
  | .set id o => ((set id o).perform s).2
  | .delete id => ((delete id).perform s).2
  | .replaceScene scene => s.replaceScene scene
  | .setEvents events => s.setEvents events
  | .setKeyframes keyframes => s.setKeyframes keyframes
  | .step => s.step.2
  | .run requested => (s.run requested).2
  | .tick clock delta => (s.tick clock delta).2.1
  | .preview => s
  | .reset => s.reset

/-- The sessions that operations lead to. -/
inductive Reachable : Session → Prop where
  | ofSettings (settings : Settings) : Reachable (ofSettings settings)
  | ofScene (scene : Scene) (settings : Settings) : Reachable (ofScene scene settings)
  | after {s : Session} (operation : Operation) : Reachable s → Reachable (s.after operation)

/-! ### Edits -/

namespace Edits

variable {α β : Type} (s : Session)

@[simp]
theorem perform_pure (a : α) : (pure a : Edits α).perform s = (.ok a, s) := rfl

@[simp]
theorem perform_throw (error : SessionError) :
    (throw error : Edits α).perform s = (.error error, s) := rfl

@[simp]
theorem perform_get : (get : Edits Session).perform s = (.ok s, s) := rfl

@[simp]
theorem perform_modify (change : Session → Session) :
    (modify change : Edits PUnit).perform s = (.ok ⟨⟩, change s) := rfl

/-- Of two changes the second is made of what the first leaves, unless the first is refused. -/
@[simp]
theorem perform_bind (edit : Edits α) (next : α → Edits β) :
    (edit >>= next).perform s =
      match edit.perform s with
      | (.ok a, s') => (next a).perform s'
      | (.error error, s') => (.error error, s') := by
  change (match edit.perform s with | (outcome, s') => ExceptT.bindCont next outcome s') = _
  rcases edit.perform s with ⟨_ | _, _⟩ <;> rfl

@[simp]
theorem perform_map (f : α → β) (edit : Edits α) :
    (f <$> edit).perform s = ((edit.perform s).1.map f, (edit.perform s).2) := by
  rw [map_eq_pure_bind, perform_bind]
  rcases edit.perform s with ⟨_ | _, _⟩ <;> rfl

end Edits

/-- Adding an object checks its id and then that no other object has it. -/
theorem perform_add (s : Session) (o : SceneObject) :
    (add o).perform s =
      if o.id.isEmpty then (.error (.invalidSpec .missingId), s)
      else if s.scene.contains o.id then (.error (.duplicateId o.id), s)
      else (.ok (s.scene.objects.length + 1),
        { s with scene := { s.scene with objects := s.scene.objects ++ [o] } }) := by
  unfold add
  split
  · simp
  · cases taken : s.scene.contains o.id <;> simp [taken, Except.map]

/-- Replacing an object is refused, without effect, if its id is not in the scene. -/
theorem perform_set (s : Session) (id : String) (o : SceneObject) :
    (set id o).perform s =
      if s.scene.contains id then
        (.ok (), { s with scene := { s.scene with objects := replaceFirst id o s.scene.objects } })
      else (.error (.objectNotFound id), s) := by
  unfold set
  cases present : s.scene.contains id <;> simp [present]

/-- An object that is deleted takes its state with it, and what is no longer in the scene has no
trail. -/
theorem perform_delete (s : Session) (id : String) :
    (delete id).perform s =
      match s.scene.find? id with
      | some o =>
        let scene := { s.scene with objects := s.scene.objects.eraseP fun p => p.id == id }
        (.ok o, { s with
          scene := scene
          states := s.states.erase id
          trails := s.trails.retain scene })
      | none => (.error (.objectNotFound id), s) := by
  unfold delete
  cases found : s.scene.find? id <;> simp [found, Except.map]

/-! ### Frames without a monad -/

/-- A session shows the frame that its cues lead to. -/
theorem preview_eq (s : Session) :
    s.preview = Frame.resolve s.scene s.context (Cue.applyAll s.scene s.context s.states) := rfl

theorem run_eq (s : Session) (requested : Option Nat) :
    s.run requested =
      let n := s.settings.runFrames requested
      let played := advanceBy n s .empty
      (⟨n, played.2.frame, played.1⟩, played.2) := rfl

/-! ### Several frames at once -/

/-- What every frame keeps, a run of frames keeps. -/
theorem advanceBy_preserves (P : Session → Prop) (kept : ∀ s, P s → P s.advance.2) (n : Nat)
    {s : Session} (holds : P s) (objects : ResolvedObjects) : P (advanceBy n s objects).2 := by
  induction n generalizing s objects with
  | zero => exact holds
  | succ n ih => exact ih (kept s holds) s.advance.1.objects

/-- What every step keeps, several steps keep. -/
theorem stepBy_preserves (P : Session → Prop) (kept : ∀ s, P s → P s.step.2) (n : Nat)
    {s : Session} (holds : P s) (last : Option StepOutput) : P (stepBy n s last).2 := by
  induction n generalizing s last with
  | zero => exact holds
  | succ n ih => exact ih (kept s holds) (some s.step.1)

/-! ### Keyframes -/

variable {s : Session}

/-- A frame that is stepped over leaves the states that its preview shows. -/
theorem advance_states : s.advance.2.states = s.preview.states := rfl

theorem step_states : s.step.2.states = s.preview.states := rfl

/-- A frame uses up the places that were set for it. -/
theorem consumed_advance : Consumed s.advance.2.states := by
  rw [advance_states]
  exact Frame.resolve_consumed

theorem consumed_step : Consumed s.step.2.states := by
  rw [step_states]
  exact Frame.resolve_consumed

/-- No operation leaves a state with a place set. -/
theorem consumed_after (consumed : Consumed s.states) (operation : Operation) :
    Consumed (s.after operation).states := by
  cases operation with
  | add o =>
    simp only [after, perform_add]
    split_ifs <;> exact consumed
  | set id o =>
    simp only [after, perform_set]
    split_ifs <;> exact consumed
  | delete id =>
    simp only [after, perform_delete]
    split
    · exact consumed.erase id
    · exact consumed
  | replaceScene scene => exact .empty
  | setEvents events => exact consumed
  | setKeyframes keyframes => exact consumed
  | step => exact consumed_step
  | run requested =>
    exact advanceBy_preserves (fun s => Consumed s.states) (fun _ _ => consumed_advance) _
      consumed .empty
  | tick clock delta =>
    exact stepBy_preserves (fun s => Consumed s.states) (fun _ _ => consumed_step) _
      consumed none
  | preview => exact consumed
  | reset => exact .empty

/-- Between two operations no place is set. -/
theorem Reachable.consumed (reachable : Reachable s) : Consumed s.states := by
  induction reachable with
  | ofSettings settings => exact .empty
  | ofScene scene settings => exact .empty
  | after operation _ ih => exact consumed_after ih operation

/-- The states from which the next frame is resolved: those of the session after the cues. -/
def cued (s : Session) : AgentStates :=
  Cue.applyAll s.scene s.context s.states

/-- **Keyframes never leak.** In a session that operations lead to, no agent has a place set from a
frame before. So when the next frame is resolved, a visible agent ends at rest where its keyframes
put it on this frame, with its heading and its waypoint as they were and with the behaviors that the
events of the frame leave to it; one without a position for this frame takes a step by these
behaviors from where it was. -/
theorem reachable_keyframes (reachable : Reachable s) :
    Consumed s.states ∧
      (s.scene.DistinctIds → ∀ o ∈ s.scene.objects, ∀ agent, o.agent? = some agent →
        (Frame.turn s.scene s.context s.cued o).sees s.context o →
        let armed := Cue.armed s.scene s.context s.states o
        s.preview.states.get? o.id = some
          (match Cue.interpolate (Cue.keyframesOf s.scene.keyframes o.id) s.frame with
          | some place => { armed with
              position := (s.scene.transform s.context.canvas).apply place
              velocity := Vec2.zero }
          | none =>
            let sight := Frame.sight s.scene s.context s.cued o agent
            Frame.integrate agent sight s.context armed)) :=
  ⟨reachable.consumed, fun distinct _ member _ is visible =>
    Frame.resolve_cued reachable.consumed distinct member is visible⟩

def player : SceneObject :=
  { id := "player", kind := .agent { behaviors := [(Behavior.wander none none).plain] } }

/-- A session whose second frame is next: there a time-out and a keyframe await the player. -/
def kickoff : Session :=
  after (.ofScene
    { objects := [player, { id := "goal", kind := .rect {} }]
      events := [⟨1, .timeout⟩]
      keyframes := [⟨1, "player", ⟨30, 40⟩⟩] } {}) .step

/-- A kick-off, with a keyframe for the player. -/
theorem reachable_keyframes_kickoff :
    Reachable kickoff ∧ kickoff.scene.DistinctIds ∧ player ∈ kickoff.scene.objects ∧
      player.agent? = some { behaviors := [(Behavior.wander none none).plain] } ∧
      (Frame.turn kickoff.scene kickoff.context kickoff.cued player).sees kickoff.context player ∧
      kickoff.preview.states.get? player.id =
        some { Cue.armed kickoff.scene kickoff.context kickoff.states player with
          position := (kickoff.scene.transform kickoff.context.canvas).apply ⟨30, 40⟩
          velocity := Vec2.zero } := by
  have reachable : Reachable kickoff := .after .step (.ofScene _ _)
  have distinct : kickoff.scene.DistinctIds := by decide
  have member : player ∈ kickoff.scene.objects := List.mem_cons_self
  have only : Cue.keyframesOf kickoff.scene.keyframes player.id = [⟨1, "player", ⟨30, 40⟩⟩] :=
    List.mergeSort_singleton _
  have placed : Cue.interpolate (Cue.keyframesOf kickoff.scene.keyframes player.id) kickoff.frame =
      some ⟨30, 40⟩ := by
    rw [only]
    rfl
  have resolved := (reachable_keyframes reachable).2 distinct player member _ rfl rfl
  rw [placed] at resolved
  exact ⟨reachable, distinct, member, rfl, rfl, resolved⟩

end Playfield.Session
