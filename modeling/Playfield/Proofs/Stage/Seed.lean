import Playfield.Proofs.Frame.Heading
import Playfield.Proofs.Session.Stepping
import Playfield.Proofs.Stage.Reachable

/-!
The seed matters to nobody but those who wander.

Where nobody wanders, two sessions that differ in their seeds and in the headings of their agents
draw the same frame and go on differing in no more than that (`SameButSeed.step`), however long they
are played (`SameButSeed.foldl_after`). Games of one scene with two seeds are therefore the same to
look at from the first frame to the last (`seed_irrelevant`).
-/

namespace Playfield

namespace Session

/-! ### Sessions in which nobody wanders -/

structure Steady (s : Session) : Prop where
  scene : s.scene.Steady
  states : s.states.All AgentState.Steady

namespace Steady

variable {s : Session} (steady : s.Steady)

include steady

theorem preview : s.preview.states.All AgentState.Steady :=
  Frame.steady_resolve (Cue.steady_applyAll steady.scene steady.states)

/-- A frame leaves a steady session steady. -/
theorem advance : s.advance.2.Steady :=
  ⟨steady.scene, steady.preview⟩

theorem step : s.step.2.Steady :=
  ⟨steady.scene, steady.preview⟩

end Steady

/-! ### Seeds aside -/

/-- A session without its seed and without the headings of its agents. -/
def unseeded (s : Session) : Session :=
  { s with
    settings := { s.settings with seed := 0 }
    states := AgentStates.unheaded s.states }

theorem context_unseeded (s : Session) : s.unseeded.context = s.context.unseeded := rfl

/-- Neither the seed nor headings have a part in how a frame is drawn. -/
theorem render_unseeded (s : Session) (f : Frame) :
    s.unseeded.render f.unheaded = ((s.render f).1, (s.render f).2.unseeded) := rfl

theorem past_unseeded (s : Session) (f : Frame) :
    s.unseeded.past f.unheaded = (s.past f).unseeded := rfl

/-- Two sessions of one scene in which nobody wanders, which differ at most in their seeds and in
the headings of their agents. -/
structure SameButSeed (s s' : Session) : Prop where
  alike : s'.unseeded = s.unseeded
  steady : s.Steady
  steady' : s'.Steady

namespace SameButSeed

section

variable {s s' : Session} (same : SameButSeed s s')

include same

/-- The next frames are the same, headings aside. -/
theorem preview : s'.preview.unheaded = s.preview.unheaded := by
  have scene : s'.scene = s.scene := (congrArg Session.scene same.alike :)
  have context : s'.context.unseeded = s.context.unseeded := by
    rw [← context_unseeded, ← context_unseeded, same.alike]
  have headings : AgentStates.unheaded s'.states = AgentStates.unheaded s.states :=
    (congrArg Session.states same.alike :)
  rw [Session.preview_eq, Session.preview_eq, scene]
  exact Frame.unheaded_resolve same.steady.scene
    (Cue.steady_applyAll same.steady.scene same.steady.states)
    (Cue.steady_applyAll same.steady.scene same.steady'.states) context
    (Cue.unheaded_applyAll context headings)

/-- Sessions that differ in the seed only show the same objects. -/
theorem objects : s'.preview.objects = s.preview.objects :=
  (congrArg Frame.objects same.preview :)

/-- Going on leaves sessions that are the same, seeds aside. -/
theorem advance : SameButSeed s.advance.2 s'.advance.2 := by
  refine ⟨?_, same.steady.advance, same.steady'.advance⟩
  calc (s'.past s'.preview).unseeded
    _ = s'.unseeded.past s'.preview.unheaded := (past_unseeded s' s'.preview).symm
    _ = s.unseeded.past s.preview.unheaded := by rw [same.alike, same.preview]
    _ = (s.past s.preview).unseeded := past_unseeded s s.preview

/-- A step draws the same, trails included, and leaves sessions that are the same, seeds aside. -/
theorem step : s'.step.1 = s.step.1 ∧ SameButSeed s.step.2 s'.step.2 := by
  have drawn : ((s'.render s'.preview).1, (s'.render s'.preview).2.unseeded) =
      ((s.render s.preview).1, (s.render s.preview).2.unseeded) := by
    rw [← render_unseeded, ← render_unseeded, same.alike, same.preview]
  exact ⟨(congrArg Prod.fst drawn :), (congrArg Prod.snd drawn :), same.steady.step,
    same.steady'.step⟩

end

/-! ### Many frames -/

/-- Frames in a row show the same for every seed. -/
theorem advanceBy (n : Nat) {s s' : Session} (same : SameButSeed s s')
    (objects : ResolvedObjects) :
    (Session.advanceBy n s' objects).1 = (Session.advanceBy n s objects).1 ∧
      SameButSeed (Session.advanceBy n s objects).2 (Session.advanceBy n s' objects).2 := by
  induction n generalizing s s' objects with
  | zero => exact ⟨rfl, same⟩
  | succ n ih =>
    have shown : s'.advance.1.objects = s.advance.1.objects := same.objects
    rw [advanceBy_succ, advanceBy_succ, shown]
    exact ih same.advance s.advance.1.objects

theorem stepBy (n : Nat) {s s' : Session} (same : SameButSeed s s') (last : Option StepOutput) :
    (Session.stepBy n s' last).1 = (Session.stepBy n s last).1 ∧
      SameButSeed (Session.stepBy n s last).2 (Session.stepBy n s' last).2 := by
  induction n generalizing s s' last with
  | zero => exact ⟨rfl, same⟩
  | succ n ih =>
    obtain ⟨drawn, next⟩ := same.step
    rw [stepBy_succ, stepBy_succ, drawn]
    exact ih next (some s.step.1)

/-! ### Playing -/

variable {s s' : Session}

/-- A run shows the same for every seed. -/
theorem run (same : SameButSeed s s') (requested : Option Nat) :
    (s'.run requested).1 = (s.run requested).1 ∧
      SameButSeed (s.run requested).2 (s'.run requested).2 := by
  have frames : s'.settings.runFrames requested = s.settings.runFrames requested :=
    (congrArg (fun s : Session => s.settings.runFrames requested) same.alike :)
  obtain ⟨shown, next⟩ := same.advanceBy (s.settings.runFrames requested) .empty
  have ended : (Session.advanceBy (s.settings.runFrames requested) s' .empty).2.frame =
      (Session.advanceBy (s.settings.runFrames requested) s .empty).2.frame :=
    (congrArg Session.frame next.alike :)
  rw [run_eq_advanceBy frames, run_eq_advanceBy rfl, shown, ended]
  exact ⟨rfl, next⟩

theorem tick (same : SameButSeed s s') (clock : Clock) (delta : Float32) :
    (s'.tick clock delta).1 = (s.tick clock delta).1 ∧
      SameButSeed (s.tick clock delta).2.1 (s'.tick clock delta).2.1 :=
  same.stepBy (clock.advance delta).1 none

/-- Playing on keeps two sessions the same, seeds aside. -/
theorem after (same : SameButSeed s s') {operation : Operation} (playing : operation.plays) :
    SameButSeed (s.after operation) (s'.after operation) := by
  cases operation with
  | step => exact same.step.2
  | run requested => exact (same.run requested).2
  | tick clock delta => exact (same.tick clock delta).2
  | preview => exact same
  | _ => exact absurd playing Bool.false_ne_true

/-- Playing keeps sessions the same but for the seed. -/
theorem foldl_after {operations : List Operation} (same : SameButSeed s s')
    (playing : ∀ operation ∈ operations, operation.plays) :
    SameButSeed (operations.foldl Session.after s) (operations.foldl Session.after s') := by
  induction operations generalizing s s' with
  | nil => exact same
  | cons operation rest ih =>
    exact ih (same.after (playing operation List.mem_cons_self)) fun op inside =>
      playing op (List.mem_cons_of_mem operation inside)

end SameButSeed

/-- Two new sessions of a scene in which nobody wanders are the same, seeds aside. -/
theorem sameButSeed_ofScene {scene : Scene} (steady : scene.Steady) (settings : Settings)
    (seed : UInt64) :
    SameButSeed (ofScene scene settings) (ofScene scene { settings with seed := seed }) :=
  ⟨rfl, ⟨steady, .empty⟩, ⟨steady, .empty⟩⟩

end Session

/-! ### Stages -/

namespace Stage

open Session (Operation)

/-- **The seed matters to nobody but those who wander.** Play a scene with two seeds, by the same
operations. If no agent of the scene is authored to wander and no event tells one to, whatever the
stages draw, show and tell next is the same: the whole of a step, of a run and of what a lapse of
time fires, and the frame that comes next. The agents have the same states but for the headings of
their wandering. -/
theorem seed_irrelevant {scene : Scene} (steady : scene.Steady) (settings : Settings)
    (seed : UInt64) {operations : List Operation}
    (playing : ∀ operation ∈ operations, operation.plays) :
    let played := operations.foldl Stage.after (.ofScene scene settings)
    let played' := operations.foldl Stage.after (.ofScene scene { settings with seed := seed })
    played'.step.1 = played.step.1 ∧
      (∀ requested, (played'.run requested).1 = (played.run requested).1) ∧
      (∀ clock delta, (played'.tick clock delta).1 = (played.tick clock delta).1) ∧
      played'.preview.1.commands = played.preview.1.commands ∧
      played'.preview.1.objects = played.preview.1.objects ∧
      AgentStates.unheaded played'.session.states = AgentStates.unheaded played.session.states := by
  intro played played'
  have fresh : (ofScene scene settings).evaluator.Faithful := .fresh
  have fresh' : (ofScene scene { settings with seed := seed }).evaluator.Faithful := .fresh
  -- What a stage shows is what its session shows, where the evaluator plays no part.
  obtain ⟨session, faithful⟩ := foldl_after_of_faithful fresh operations
  obtain ⟨session', faithful'⟩ := foldl_after_of_faithful fresh' operations
  have same : Session.SameButSeed played.session played'.session := by
    rw [session, session']
    exact (Session.sameButSeed_ofScene steady settings seed).foldl_after playing
  have ahead : played'.preview.1.unheaded = played.preview.1.unheaded := by
    rw [(preview_of_faithful faithful).1, (preview_of_faithful faithful').1]
    exact same.preview
  refine ⟨?_, fun requested => ?_, fun clock delta => ?_, ?_, ?_, ?_⟩
  · rw [(step_of_faithful faithful).1, (step_of_faithful faithful').1]
    exact same.step.1
  · rw [(run_of_faithful faithful requested).1, (run_of_faithful faithful' requested).1]
    exact (same.run requested).1
  · rw [(tick_of_faithful faithful clock delta).1, (tick_of_faithful faithful' clock delta).1]
    exact (same.tick clock delta).1
  · exact (congrArg Frame.commands ahead :)
  · exact (congrArg Frame.objects ahead :)
  · exact (congrArg Session.states same.alike :)

/-- A drill: the striker is after the keeper, who begins to dodge on the second frame. -/
def drill : Scene where
  objects :=
    [{ id := "striker", trail := some ⟨4, "#ffffff", 1, 2⟩,
       kind := .agent { behaviors := [(Behavior.pursue "keeper").plain] } },
      { id := "keeper", x := some (.literal 30), kind := .agent {} }]
  events := [⟨1, .behavior "keeper" [(Behavior.evade "striker" none).plain]⟩, ⟨3, .timeout⟩]

/-- A drill with two seeds. -/
theorem seed_irrelevant_drill :
    let operations := [Operation.step, .run (some 2), .preview, .step]
    let played := operations.foldl Stage.after (.ofScene drill {})
    let played' := operations.foldl Stage.after (.ofScene drill { seed := 7 })
    drill.Steady ∧ (∀ operation ∈ operations, operation.plays) ∧
      played'.step.1 = played.step.1 ∧
      AgentStates.unheaded played'.session.states = AgentStates.unheaded played.session.states := by
  have steady : drill.Steady := by
    constructor
    · intro o inside agent is
      rcases List.mem_cons.mp inside with rfl | inside
      · cases is
        decide
      · cases List.mem_singleton.mp inside
        cases is
        exact steady_nil
    · intro e inside agent behaviors brings
      rcases List.mem_cons.mp inside with rfl | inside
      · cases brings
        decide
      · cases List.mem_singleton.mp inside
        cases brings
  have playing : ∀ operation ∈ [Operation.step, .run (some 2), .preview, .step],
      operation.plays := by decide
  obtain ⟨drawn, -, -, -, -, headings⟩ := seed_irrelevant steady {} 7 playing
  exact ⟨steady, playing, drawn, headings⟩

end Stage

end Playfield
