import Playfield.Proofs.Session.Editing
import Playfield.Proofs.Stage.Reachable

/-!
Deleted objects.

What a session knows of an object is spread over its scene, the states of its agents and its trails,
and what formulas the object had may still be in the evaluator. Two sessions that differ in one
object, in its state and in its trail (`SameBut`) are one and the same when it has been deleted from
both (`SameBut.remove`). A stage replies what its session replies (`replies_of_faithful`), so no
operation tells the two apart from then on, whatever comes under the id again (`deletion_complete`).
-/

namespace Playfield

/-! ### Two sessions without the object -/

theorem IdMap.AgreeBut.erase {α : Type} {m m' : IdMap α} {id : String}
    (agree : m.AgreeBut id m') : m'.erase id = m.erase id := by
  refine ext_get? fun other => ?_
  rw [get?_erase, get?_erase]
  by_cases same : other = id
  · rw [if_pos same, if_pos same]
  · rw [if_neg same, if_neg same, agree other same]

theorem IdMap.AgreeBut.insert {α : Type} {id : String} (m : IdMap α) (value value' : α) :
    (m.insert id value).AgreeBut id (m.insert id value') := by
  intro other different
  rw [get?_insert, get?_insert, if_neg different, if_neg different]

/-- Histories that agree on every id but one are the same in a scene where it leaves no trail. -/
theorem TrailRecorder.retain_congr {r r' : TrailRecorder} {id : String} {scene : Scene}
    (agree : r.history.AgreeBut id r'.history) (trailless : leavesTrail scene id = false) :
    r'.retain scene = r.retain scene := by
  refine congrArg TrailRecorder.mk (IdMap.ext_get? fun other => ?_)
  rw [IdMap.get?_filter, IdMap.get?_filter]
  by_cases same : other = id
  · rw [same, trailless]
    cases r.history.get? id <;> cases r'.history.get? id <;> rfl
  · rw [agree other same]

namespace Session

/-- Two sessions that differ in one object at most, which has one place in both, and in its state
and its trail. -/
structure SameBut (id : String) (s s' : Session) : Prop where
  objects : ∃ before o o' after, o.id = id ∧ o'.id = id ∧
    s.scene.objects = before ++ o :: after ∧ s'.scene.objects = before ++ o' :: after
  scene : s'.scene = { s.scene with objects := s'.scene.objects }
  settings : s'.settings = s.settings
  frame : s'.frame = s.frame
  states : s.states.AgreeBut id s'.states
  trails : s.trails.history.AgreeBut id s'.trails.history

/-- Where no other object has its id, deleting takes an object out from among the others. -/
theorem eraseP_append_cons {before after : List SceneObject} {o : SceneObject}
    (distinct : ((before ++ o :: after).map (·.id)).Nodup) :
    (before ++ o :: after).eraseP (·.id == o.id) = before ++ after := by
  rw [List.map_append, List.map_cons, List.nodup_append] at distinct
  obtain ⟨-, -, apart⟩ := distinct
  have passed : ∀ q ∈ before, ¬(q.id == o.id) = true := by
    intro q member same
    exact apart q.id (List.mem_map_of_mem member) o.id List.mem_cons_self (beq_iff_eq.mp same)
  rw [List.eraseP_append_right (o :: after) passed]
  exact congrArg (before ++ ·) (List.eraseP_cons_of_pos (beq_self_eq_true o.id))

/-- Deleting an object that is there replies the object. -/
theorem deleted_of_present {s : Session} {id : String} (present : id ∈ s.lineup.ids) :
    ∃ o, o.id = id ∧ s.reply (.delete id) = .removed o ∧ s.after (.delete id) = s.remove id := by
  obtain ⟨o, found⟩ := Option.ne_none_iff_exists'.mp fun none => object?_eq_none_iff.mp none present
  have named : o.id = id := by simpa using List.find?_some found
  refine ⟨o, named, ?_, ?_⟩
  · simp only [reply, delete_eq, found, Reply.ofOutcome]
  · simp only [after, delete_eq, found]

namespace SameBut

variable {id : String} {s s' : Session} (same : SameBut id s s')

include same

/-- The sessions have the same ids, and the one in question among them. -/
theorem lineup_ids : s'.lineup.ids = s.lineup.ids ∧ id ∈ s.lineup.ids := by
  obtain ⟨before, o, o', after, rfl, named, objects, objects'⟩ := same.objects
  simp [lineup, objects, objects', named]

theorem distinct (distinct : s.scene.DistinctIds) : s'.scene.DistinctIds := by
  change s'.lineup.ids.Nodup
  rw [same.lineup_ids.1]
  exact distinct

/-- Without the object, with no state and no trail of its own left, the two are the same. -/
theorem remove (distinct : s.scene.DistinctIds) : s'.remove id = s.remove id := by
  have distinct' := same.distinct distinct
  have scene : (s'.remove id).scene = (s.remove id).scene := by
    obtain ⟨before, o, o', after, rfl, named, objects, objects'⟩ := same.objects
    have left : s.scene.objects.eraseP (·.id == o.id) = before ++ after := by
      rw [objects]
      exact eraseP_append_cons (objects ▸ distinct)
    have left' : s'.scene.objects.eraseP (·.id == o.id) = before ++ after := by
      rw [objects', ← named]
      exact eraseP_append_cons (objects' ▸ distinct')
    simp only [Session.remove, left, left']
    rw [same.scene]
  have trails : (s'.remove id).trails = (s.remove id).trails := by
    have recorded : (s'.remove id).trails = s'.trails.retain (s'.remove id).scene := rfl
    rw [recorded, scene]
    exact TrailRecorder.retain_congr same.trails (leavesTrail_remove distinct id)
  unfold Session.remove at scene trails ⊢
  dsimp only at scene trails ⊢
  rw [Session.mk.injEq]
  exact ⟨scene, same.settings, same.frame, same.states.erase, trails⟩

end SameBut

end Session

/-! ### What a stage replies -/

namespace Stage

/-- What an operation on a stage gives back. -/
def reply (stage : Stage) : Session.Operation → Session.Reply
  | .step => .drawn stage.step.1
  | .run requested => .ran (stage.run requested).1
  | .tick clock delta => .ticked (stage.tick clock delta).1 (stage.tick clock delta).2.2
  | .preview => .shown stage.preview.1
  | edit => stage.session.reply edit

/-- What operations reply one after the other. -/
def replies (stage : Stage) : List Session.Operation → List Session.Reply
  | [] => []
  | operation :: rest => stage.reply operation :: (stage.after operation).replies rest

variable {stage stage' : Stage}

/-- Through a faithful evaluator a stage replies as its session does. -/
theorem reply_of_faithful (faithful : stage.evaluator.Faithful) (operation : Session.Operation) :
    stage.reply operation = stage.session.reply operation := by
  cases operation with
  | step => exact congrArg Session.Reply.drawn (step_of_faithful faithful).1
  | run requested => exact congrArg Session.Reply.ran (run_of_faithful faithful requested).1
  | tick clock delta =>
    exact congrArg (Session.Reply.ticked · (clock.advance delta).2)
      (tick_of_faithful faithful clock delta).1
  | preview => exact congrArg Session.Reply.shown (preview_of_faithful faithful).1
  | _ => rfl

/-- Through a faithful evaluator a stage replies what its session replies. -/
theorem replies_of_faithful (faithful : stage.evaluator.Faithful)
    (operations : List Session.Operation) :
    stage.replies operations = stage.session.replies operations := by
  induction operations generalizing stage with
  | nil => rfl
  | cons operation rest ih =>
    obtain ⟨session, still⟩ := after_of_faithful faithful operation
    rw [replies, Session.replies, reply_of_faithful faithful, ih still, session]

/-! ### No ghost -/

/-- Two stages with one session go on alike where they have one evaluator as well, and also where
both evaluators are faithful. -/
theorem replies_congr (session : stage'.session = stage.session)
    (evaluators : stage'.evaluator = stage.evaluator ∨
      stage.evaluator.Faithful ∧ stage'.evaluator.Faithful)
    (operations : List Session.Operation) :
    stage'.replies operations = stage.replies operations ∧
      (operations.foldl after stage').session = (operations.foldl after stage).session := by
  rcases evaluators with same | ⟨faithful, faithful'⟩
  · have whole : stage' = stage := by
      rw [Stage.mk.injEq]
      exact ⟨session, same⟩
    rw [whole]
    exact ⟨rfl, rfl⟩
  · constructor
    · rw [replies_of_faithful faithful, replies_of_faithful faithful', session]
    · rw [(foldl_after_of_faithful faithful operations).1,
        (foldl_after_of_faithful faithful' operations).1, session]

/-- **Nothing is left of a deleted object.** Take two stages whose sessions differ in one object, in
its state and in its trail, where no id is given twice; whatever their evaluators have read may
differ as well. Deleting the object succeeds on both and leaves one and the same session. Any
operations from there on reply the same on both and lead to the same session again, also where they
bring back an object with the id. -/
theorem deletion_complete {id : String} (same : Session.SameBut id stage.session stage'.session)
    (distinct : stage.session.scene.DistinctIds)
    (evaluators : stage'.evaluator = stage.evaluator ∨
      stage.evaluator.Faithful ∧ stage'.evaluator.Faithful) :
    let cleared := stage.after (.delete id)
    let cleared' := stage'.after (.delete id)
    (∃ o o', o.id = id ∧ o'.id = id ∧
      stage.reply (.delete id) = .removed o ∧ stage'.reply (.delete id) = .removed o') ∧
    cleared'.session = cleared.session ∧
    ∀ operations : List Session.Operation,
      cleared'.replies operations = cleared.replies operations ∧
        (operations.foldl after cleared').session = (operations.foldl after cleared).session := by
  intro cleared cleared'
  obtain ⟨ids, present⟩ := same.lineup_ids
  obtain ⟨o, named, removed, left⟩ := Session.deleted_of_present present
  obtain ⟨o', named', removed', left'⟩ := Session.deleted_of_present (ids ▸ present)
  have session : cleared'.session = cleared.session :=
    left'.trans ((same.remove distinct).trans left.symm)
  exact ⟨⟨o, o', named, named', removed, removed'⟩, session, replies_congr session evaluators⟩

/-- The training session with a player of another build, in another place and with a longer
trail. -/
def substitution : Session where
  scene :=
    { objects :=
        [{ id := "player", x := some (.formula "frame * 2"), trail := some ⟨9, "#000000", 2, 1⟩,
            kind := .agent { mass := some 3 } },
          { id := "net", kind := .rect {} }] }
  settings := {}
  frame := 3
  states := IdMap.empty.insert "player" { position := ⟨7, 7⟩, velocity := ⟨1, 0⟩ }
  trails := ⟨IdMap.empty.insert "player" [⟨5, 7⟩, ⟨6, 7⟩, ⟨7, 7⟩]⟩

/-- After the player has left it, a substituted training goes on like the first one. -/
theorem deletion_complete_substitution :
    let first : Stage := ⟨Session.training, .fresh⟩
    let second : Stage := (Stage.mk substitution .fresh).preview.2
    let comeback : List Session.Operation :=
      [.add { id := "player", trail := some ⟨4, "#ffffff", 1, 2⟩, kind := .agent {} }, .step,
        .run (some 5), .step]
    Session.SameBut "player" first.session second.session ∧ first.session.scene.DistinctIds ∧
      second.evaluator.Faithful ∧
      (second.after (.delete "player")).replies comeback =
        (first.after (.delete "player")).replies comeback := by
  intro first second comeback
  obtain ⟨-, session, faithful⟩ := @preview_of_faithful ⟨substitution, .fresh⟩ .fresh
  have same : Session.SameBut "player" first.session second.session := by
    rw [session]
    exact ⟨⟨[], _, _, _, rfl, rfl, rfl, rfl⟩, rfl, rfl, rfl, .insert .empty _ _, .insert .empty _ _⟩
  have distinct : first.session.scene.DistinctIds := by decide
  obtain ⟨-, -, later⟩ := deletion_complete same distinct (.inr ⟨.fresh, faithful⟩)
  exact ⟨same, distinct, faithful, (later comeback).1⟩

end Stage

end Playfield
