import Playfield.Proofs.Frame.Carry
import Playfield.Proofs.Frame.Roster
import Playfield.Proofs.Session.Stepping
import Playfield.Proofs.StableSort

/-!
The last event has the word on what an agent does.

A session that is only played, by steps, runs or a clock, goes through the events of its scene in
the order of their frames and, within one frame, in that of the list (`Cue.due_succ`). After any
number of frames the behaviors that stand in for those of an agent are the ones that the last event
so far to touch the agent has assigned to it (`played_override`).
-/

namespace Playfield

namespace Cue

/-- The events of the frames before one, by frame; those of one frame stay in the order of the
list. -/
def due (events : List Event) (n : Nat) : List Event :=
  (events.filter fun e => e.frame < n).mergeSort fun a b => a.frame ≤ b.frame

/-- No event is due before the first frame. -/
theorem due_zero (events : List Event) : due events 0 = [] := by
  simp [due]

/-- The events that are due are those of earlier frames. -/
theorem mem_due {events : List Event} {n : Nat} {e : Event} :
    e ∈ due events n ↔ e ∈ events ∧ e.frame < n := by
  rw [due, List.mem_mergeSort, List.mem_filter, decide_eq_true_iff]

/-- From one frame to the next the events of that frame come in, after all those before it. -/
theorem due_succ (events : List Event) (n : Nat) :
    due events (n + 1) = due events n ++ events.filter fun e => e.frame == n := by
  have sorted : (due events n ++ events.filter fun e => e.frame == n).Pairwise
      fun a b => a.frame ≤ b.frame := by
    refine List.pairwise_append.mpr ⟨StableSort.pairwise_mergeSort Event.frame _, ?_, ?_⟩
    · refine List.pairwise_of_forall_mem_list fun a inside b inside' => ?_
      simp only [List.mem_filter, beq_iff_eq] at inside inside'
      omega
    · intro a before b now
      simp only [List.mem_filter, beq_iff_eq] at now
      have := (mem_due.mp before).2
      omega
  refine (StableSort.eq_mergeSort sorted fun k => ?_).symm
  rw [List.filter_append, due, StableSort.filter_key_mergeSort Event.frame]
  -- The events of one frame stand all in the second part if that is frame `n`, else in the first.
  by_cases now : k = n
  · have before : ∀ e : Event, e.frame = k → decide (e.frame < n) = false := by
      simp +contextual [now]
    have within : ∀ e : Event, e.frame = k → (e.frame == n) = decide (e.frame < n + 1) := by
      simp +contextual [now]
    rw [StableSort.filter_key_congr events before, StableSort.filter_key_congr events within,
      List.filter_false, List.filter_nil, List.nil_append]
  · have elsewhere : ∀ e : Event, e.frame = k → (e.frame == n) = false := by
      simp +contextual [now]
    have before : ∀ e : Event, e.frame = k →
        decide (e.frame < n) = decide (e.frame < n + 1) := by
      intro e at_k
      rw [decide_eq_decide]
      omega
    rw [StableSort.filter_key_congr events elsewhere, StableSort.filter_key_congr events before,
      List.filter_false, List.filter_nil, List.append_nil]

end Cue

namespace Session

/-! ### Playing -/

/-- The sessions that playing a scene from the start leads to, the scene staying as it is. -/
inductive Played (scene : Scene) (settings : Settings) : Session → Prop where
  | start : Played scene settings (ofScene scene settings)
  | step {s : Session} : Played scene settings s → Played scene settings s.step.2
  | run {s : Session} (requested : Option Nat) :
      Played scene settings s → Played scene settings (s.run requested).2
  | tick {s : Session} (clock : Clock) (delta : Float32) :
      Played scene settings s → Played scene settings (s.tick clock delta).2.1

/-- What playing a scene keeps: the scene and the settings, and that every agent does what the last
event so far says. From the first frame on every agent has a state, and nobody else ever has one. -/
structure Scripted (scene : Scene) (settings : Settings) (s : Session) : Prop where
  sameScene : s.scene = scene
  sameSettings : s.settings = settings
  override : ∀ o ∈ scene.objects, o.isAgent →
    (s.states.get? o.id).bind (·.behaviorOverride) =
      Cue.latest scene (scene.canvas settings) o.id (Cue.due scene.events s.frame) none
  present : 0 < s.frame → ∀ o ∈ scene.objects, o.isAgent → (s.states.get? o.id).isSome
  others : ∀ id, (∀ o ∈ scene.objects, o.isAgent → o.id ≠ id) → s.states.get? id = none

namespace Scripted

variable {scene : Scene} {settings : Settings} {s : Session}

/-- A fresh session follows the script of its scene. -/
theorem start : Scripted scene settings (ofScene scene settings) where
  sameScene := rfl
  sameSettings := rfl
  override o _ _ := by
    have first : (ofScene scene settings).frame = 0 := rfl
    rw [first, Cue.due_zero]
    rfl
  present positive := absurd positive (Nat.lt_irrefl 0)
  others _ _ := rfl

/-- A frame keeps a session to its script. -/
theorem advance (distinct : scene.DistinctIds) (scripted : Scripted scene settings s) :
    Scripted scene settings s.advance.2 := by
  obtain ⟨rfl, rfl, override, -, -⟩ := scripted
  have resolved : ∀ o ∈ s.scene.objects, o.isAgent →
      ∃ s', s.advance.2.states.get? o.id = some s' ∧
        s'.behaviorOverride = Cue.latest s.scene (s.scene.canvas s.settings) o.id
          (s.scene.events.filter fun e => e.frame == s.frame)
          ((s.states.get? o.id).bind (·.behaviorOverride)) :=
    fun o member agent => Frame.resolve_applyAll_override distinct member agent s.states
  refine ⟨rfl, rfl, fun o member agent => ?_, fun _ o member agent => ?_, fun id absent => ?_⟩
  · obtain ⟨s', left, last⟩ := resolved o member agent
    rw [left, Option.bind_some, last, override o member agent, ← Cue.latest_append]
    exact congrArg (Cue.latest _ _ _ · _) (Cue.due_succ s.scene.events s.frame).symm
  · obtain ⟨s', left, -⟩ := resolved o member agent
    rw [left, Option.isSome_some]
  · exact Frame.resolve_states_get?_of_no_agent absent

theorem of_sameButTrails {s' : Session} (same : SameButTrails s s')
    (scripted : Scripted scene settings s) : Scripted scene settings s' := by
  obtain ⟨_, rfl⟩ := same
  obtain ⟨scene, settings, override, present, others⟩ := scripted
  exact ⟨scene, settings, override, present, others⟩

/-- A step keeps a session to its script. -/
theorem step (distinct : scene.DistinctIds) (scripted : Scripted scene settings s) :
    Scripted scene settings s.step.2 :=
  (scripted.advance distinct).of_sameButTrails (SameButTrails.refl s).step

end Scripted

namespace Played

variable {scene : Scene} {settings : Settings} {s : Session}

/-- A session that has only been played follows its script. -/
theorem scripted (distinct : scene.DistinctIds) (played : Played scene settings s) :
    Scripted scene settings s := by
  induction played with
  | start => exact .start
  | step _ ih => exact ih.step distinct
  | run requested _ ih =>
    exact advanceBy_preserves (Scripted scene settings) (fun _ => .advance distinct) _ ih .empty
  | tick clock delta _ ih =>
    exact stepBy_preserves (Scripted scene settings) (fun _ => .step distinct) _ ih none

/-- A scene can be played for any number of frames. -/
theorem exists_frame (scene : Scene) (settings : Settings) (n : Nat) :
    ∃ s, Played scene settings s ∧ s.frame = n := by
  induction n with
  | zero => exact ⟨_, .start, rfl⟩
  | succ n ih =>
    obtain ⟨s, played, rfl⟩ := ih
    exact ⟨_, .step played, rfl⟩

end Played

/-- **The last event has the word.** However a scene with distinct ids is played for `n` frames, the
behaviors that then stand in for those of an agent are what the last event before frame `n` to touch
the agent assigns to it, and none if there is no such event, whether the agent was hidden, put at
places or moved on the way. Events that name nobody among the agents leave no state behind. -/
theorem played_override {scene : Scene} (distinct : scene.DistinctIds) (settings : Settings)
    (n : Nat) :
    (∃ s, Played scene settings s ∧ s.frame = n) ∧
      ∀ s, Played scene settings s → s.frame = n →
        (∀ o ∈ scene.objects, o.isAgent →
          (s.states.get? o.id).bind (·.behaviorOverride) =
              Cue.latest scene (scene.canvas settings) o.id (Cue.due scene.events n) none ∧
            (0 < n → (s.states.get? o.id).isSome)) ∧
          ∀ id, (∀ o ∈ scene.objects, o.isAgent → o.id ≠ id) → s.states.get? id = none := by
  refine ⟨Played.exists_frame scene settings n, ?_⟩
  rintro s played rfl
  have scripted := played.scripted distinct
  exact ⟨fun o member agent =>
    ⟨scripted.override o member agent, fun positive => scripted.present positive o member agent⟩,
    scripted.others⟩

def keeper : SceneObject :=
  { id := "keeper", visible := some (.literal false), kind := .agent {} }

/-- A ball and a hidden keeper. The time-out comes first, though it is listed last; then the keeper
gets a task of its own, and a shot without a place is no shot. -/
def exhibition : Scene where
  objects := [{ id := Cue.defaultBall, kind := .agent {} }, keeper, { id := "goal", kind := .rect {} }]
  events :=
    [⟨1, .behavior "keeper" [(Behavior.guard "player").plain]⟩, ⟨1, .shot none (some 5) none none⟩,
      ⟨1, .behavior "goal" []⟩, ⟨0, .timeout⟩, ⟨7, .release none⟩]

/-- The exhibition after a step and a run of one frame. -/
def exhibited : Session :=
  ((ofScene exhibition {}).step.2.run (some 1)).2

/-- An exhibition after two frames. -/
theorem played_override_exhibition :
    exhibition.DistinctIds ∧ Played exhibition {} exhibited ∧ exhibited.frame = 2 ∧
      (exhibited.states.get? keeper.id).bind (·.behaviorOverride) =
        some [(Behavior.guard "player").plain] ∧
      (exhibited.states.get? Cue.defaultBall).bind (·.behaviorOverride) = some [] ∧
      exhibited.states.get? "goal" = none := by
  have distinct : exhibition.DistinctIds := by decide
  have played : Played exhibition {} exhibited := .run (some 1) (.step .start)
  have frame : exhibited.frame = 2 := rfl
  have due : Cue.due exhibition.events 2 =
      [⟨0, .timeout⟩, ⟨1, .behavior "keeper" [(Behavior.guard "player").plain]⟩,
        ⟨1, .shot none (some 5) none none⟩, ⟨1, .behavior "goal" []⟩] := by
    rw [Cue.due_succ, Cue.due_succ, Cue.due_zero]
    rfl
  obtain ⟨agents, others⟩ := (played_override distinct {} 2).2 exhibited played frame
  rw [due] at agents
  have hidden := agents keeper (by decide) rfl
  have ball := agents _ List.mem_cons_self rfl
  exact ⟨distinct, played, frame, hidden.1, ball.1, others "goal" (by decide)⟩

end Session

end Playfield
