import Playfield.Proofs.Frame.Looks
import Playfield.Proofs.Session.Stepping
import Playfield.Proofs.Stage.Reachable

/-!
Looks have no part in the simulation.

A session without the looks of its objects goes on as the session does (`advance_bare`), so playing
a session comes to resolving a number of frames without looks (`exists_advanceBy_bare`). Two
sessions that differ in looks at most and are played to the same frame, in whatever way each of
them, therefore have the same states, and show the same objects apart from their layers
(`looks_irrelevant`).
-/

namespace Playfield

open ResolvedObjects (SameButLayers)

namespace Session

/-- A session without the looks of its objects, and without the trails that they have left. -/
def bare (s : Session) : Session :=
  { s with scene := s.scene.bare, trails := .fresh }

variable {s s' : Session}

/-! ### Frames without looks -/

/-- A look at a session shows the same without looks, up to layers. -/
theorem preview_bare (s : Session) : Frame.SameButLooks s.preview s.bare.preview := by
  have cued : Cue.applyAll s.bare.scene s.bare.context s.bare.states =
      Cue.applyAll s.scene s.context s.states :=
    Cue.applyAll_bare s.scene s.context s.states
  rw [preview_eq, preview_eq, cued]
  exact Frame.sameButLooks_resolve s.scene s.context (Cue.applyAll s.scene s.context s.states)

/-- A frame leaves a session the same without looks. -/
theorem advance_bare (s : Session) : s.bare.advance.2 = s.advance.2.bare := by
  unfold advance past
  dsimp only
  rw [s.preview_bare.states]
  rfl

theorem advanceBy_bare (n : Nat) (s : Session) (objects objects' : ResolvedObjects) :
    (advanceBy n s.bare objects').2 = (advanceBy n s objects).2.bare := by
  induction n generalizing s objects objects' with
  | zero => rfl
  | succ n ih =>
    have next := ih s.advance.2 s.advance.1.objects s.bare.advance.1.objects
    rw [← advance_bare] at next
    exact next

/-- Trails are looks. -/
theorem SameButTrails.bare (same : SameButTrails s s') : s'.bare = s.bare := by
  obtain ⟨_, rfl⟩ := same
  rfl

/-- Steps leave a session, looks aside, as as many frames would. -/
theorem stepBy_bare (n : Nat) (s : Session) (last : Option StepOutput) :
    (stepBy n s last).2.bare = (advanceBy n s.bare .empty).2 := by
  rw [advanceBy_bare n s .empty]
  cases n with
  | zero => rfl
  | succ n =>
    obtain ⟨same, -⟩ := stepBy_advanceBy_of_pos n.succ_pos s .empty last
    exact same.bare

/-! ### Playing without looks -/

/-- However a session is played, it comes to resolving a number of frames without looks. -/
theorem exists_advanceBy_bare {operations : List Operation}
    (playing : ∀ operation ∈ operations, operation.plays) (s : Session) :
    ∃ n, (operations.foldl after s).bare = (advanceBy n s.bare .empty).2 := by
  induction operations generalizing s with
  | nil => exact ⟨0, rfl⟩
  | cons operation rest ih =>
    have one : ∃ n, (s.after operation).bare = (advanceBy n s.bare .empty).2 := by
      cases operation with
      | step => exact ⟨1, stepBy_bare 1 s none⟩
      | run requested => exact ⟨_, (advanceBy_bare _ s .empty .empty).symm⟩
      | tick clock delta => exact ⟨_, stepBy_bare _ s none⟩
      | preview => exact ⟨0, rfl⟩
      | _ => exact absurd (playing _ List.mem_cons_self) Bool.false_ne_true
    obtain ⟨m, first⟩ := one
    obtain ⟨n, others⟩ := ih (fun op inside => playing op (List.mem_cons_of_mem _ inside))
      (s.after operation)
    refine ⟨m + n, ?_⟩
    rw [List.foldl_cons, others, first, advanceBy_add]
    exact advanceBy_session n _ _ _

/-- Two sessions that are the same without looks stay the same without looks when they are played to
the same frame. -/
theorem bare_of_played {operations operations' : List Operation} (alike : s'.bare = s.bare)
    (playing : ∀ operation ∈ operations, operation.plays)
    (playing' : ∀ operation ∈ operations', operation.plays)
    (frames : (operations'.foldl after s').frame = (operations.foldl after s).frame) :
    (operations'.foldl after s').bare = (operations.foldl after s).bare := by
  obtain ⟨n, played⟩ := exists_advanceBy_bare playing s
  obtain ⟨n', played'⟩ := exists_advanceBy_bare playing' s'
  rw [alike] at played'
  have before : (operations.foldl after s).frame = s.frame + n :=
    (congrArg frame played).trans (advanceBy_frame n s.bare .empty)
  have before' : (operations'.foldl after s').frame = s.frame + n' :=
    (congrArg frame played').trans (advanceBy_frame n' s.bare .empty)
  have : n' = n := by omega
  rw [played', played, this]

/-! ### What two sessions show that are the same without looks -/

section Alike

variable (alike : s'.bare = s.bare)

include alike

theorem states_of_bare : s'.states = s.states :=
  (congrArg states alike :)

theorem preview_objects_of_bare : SameButLayers s.preview.objects s'.preview.objects := by
  intro id
  have here := s.preview_bare.objects id
  have there := s'.preview_bare.objects id
  rw [alike] at there
  exact there.symm.trans here

theorem advanceBy_objects_of_bare (n : Nat) {objects objects' : ResolvedObjects}
    (same : SameButLayers objects objects') :
    SameButLayers (advanceBy n s objects).1 (advanceBy n s' objects').1 := by
  induction n generalizing s s' objects objects' with
  | zero => exact same
  | succ n ih =>
    have next : s'.advance.2.bare = s.advance.2.bare := by
      rw [← advance_bare, ← advance_bare, alike]
    exact ih next (preview_objects_of_bare alike)

/-- A run shows the same entries without looks, up to layers. -/
theorem run_objects_of_bare (requested : Option Nat) :
    SameButLayers (s.run requested).1.objects (s'.run requested).1.objects := by
  have granted : s'.settings.runFrames requested = s.settings.runFrames requested :=
    (congrArg (fun s : Session => s.settings.runFrames requested) alike :)
  rw [run_eq_advanceBy granted, run_eq_advanceBy rfl]
  exact advanceBy_objects_of_bare alike (s.settings.runFrames requested) (.refl .empty)

end Alike

end Session

/-! ### Stages -/

namespace Stage

open Session (Operation)

variable {stage stage' : Stage}

/-- **Looks have no part in the simulation.** Take two stages whose sessions differ at most in the
looks of their objects, and play each of them, by any operations that play a scene, to the same
frame. Their agents then have the same states; and what they show, looking ahead, stepping or
running on, are the same visible objects of the same kinds, at the same positions and with the same
opacities. -/
theorem looks_irrelevant {operations operations' : List Operation}
    (reachable : stage.Reachable) (reachable' : stage'.Reachable)
    (alike : stage'.session.bare = stage.session.bare)
    (playing : ∀ operation ∈ operations, operation.plays)
    (playing' : ∀ operation ∈ operations', operation.plays)
    (frames : (operations'.foldl Stage.after stage').session.frame =
      (operations.foldl Stage.after stage).session.frame) :
    let played := operations.foldl Stage.after stage
    let played' := operations'.foldl Stage.after stage'
    played'.session.states = played.session.states ∧
      SameButLayers played.preview.1.objects played'.preview.1.objects ∧
      SameButLayers played.step.1.objects played'.step.1.objects ∧
      ∀ requested,
        SameButLayers (played.run requested).1.objects (played'.run requested).1.objects := by
  intro played played'
  obtain ⟨session, faithful⟩ := foldl_after_of_faithful reachable.faithful operations
  obtain ⟨session', faithful'⟩ := foldl_after_of_faithful reachable'.faithful operations'
  have still : played'.session.bare = played.session.bare := by
    rw [session, session'] at frames
    rw [session, session']
    exact Session.bare_of_played alike playing playing' frames
  have ahead := Session.preview_objects_of_bare still
  refine ⟨Session.states_of_bare still, ?_, ?_, fun requested => ?_⟩
  · rw [(preview_of_faithful faithful).1, (preview_of_faithful faithful').1]
    exact ahead
  · rw [(step_of_faithful faithful).1, (step_of_faithful faithful').1]
    exact ahead
  · rw [(run_of_faithful faithful requested).1, (run_of_faithful faithful' requested).1]
    exact Session.run_objects_of_bare still requested

/-- A match whose score is drawn at the edge of the field, in the looks that are given. -/
def televised (kit : Paint) (trail : Option TrailStyle) (score : Label) (layer : Float32) : Stage :=
  ofScene
    { objects :=
        [{ id := "player", trail := trail, layer := layer,
           kind := .agent { paint := kit, behaviors := [(Behavior.wander none none).plain] } },
          { id := "score", x := some (.formula "player.x + 20"), kind := .text score }] }
    {}

def printed : Stage :=
  televised {} none {} 0

def coloured : Stage :=
  televised { fill := some (.formula "frame > 1 ? 'red' : 'blue'") } (some ⟨4, "#ffffff", 1, 2⟩)
    { text := some (.formula "player.vx"), fontSize := some 30 } 7

/-- The match in print is stepped and looked at, the one in colour is run. -/
theorem looks_irrelevant_televised :
    let stepped := [Operation.step, .preview, .step].foldl Stage.after printed
    let ran := [Operation.run (some 2)].foldl Stage.after coloured
    printed.Reachable ∧ coloured.Reachable ∧ coloured.session.bare = printed.session.bare ∧
      (∀ operation ∈ [Operation.step, .preview, .step], operation.plays) ∧
      (∀ operation ∈ [Operation.run (some 2)], operation.plays) ∧
      ran.session.frame = stepped.session.frame ∧ ran.session.states = stepped.session.states ∧
      SameButLayers stepped.step.1.objects ran.step.1.objects := by
  have reachable : printed.Reachable := .ofScene _ _
  have reachable' : coloured.Reachable := .ofScene _ _
  have alike : coloured.session.bare = printed.session.bare := rfl
  have playing : ∀ operation ∈ [Operation.step, .preview, .step], operation.plays := by decide
  have playing' : ∀ operation ∈ [Operation.run (some 2)], operation.plays := by decide
  have frames : ([Operation.run (some 2)].foldl Stage.after coloured).session.frame =
      ([Operation.step, .preview, .step].foldl Stage.after printed).session.frame := by
    rw [(foldl_after_of_faithful reachable'.faithful _).1,
      (foldl_after_of_faithful reachable.faithful _).1]
    exact Session.advanceBy_frame 2 coloured.session .empty
  obtain ⟨states, -, shown, -⟩ :=
    looks_irrelevant reachable reachable' alike playing playing' frames
  exact ⟨reachable, reachable', alike, playing, playing', frames, states, shown⟩

end Stage

end Playfield
