import Mathlib.Logic.Function.Basic
import Playfield.Proofs.Draw.Trail
import Playfield.Proofs.Scene.DistinctIds
import Playfield.Proofs.Session.Appended
import Playfield.Proofs.Session.Replies

/-!
Editing a session.

The objects of a session are a map from ids that remembers in which order they came in (`Lineup`).
Where no id is given twice, adding, replacing and deleting objects does to the session what it does
to that map, and replies the same (`Edited.lineup`, `foldl_lineup`), so ids stay distinct. What an
edit is refused for is read off the ids alone (`Edit.Refused`); a refused one changes nothing, and
one that is carried out leaves everything but the objects alone, apart from the state and the trail
of the object that it deletes (`Spares`).
-/

namespace Playfield.Session

/-! ### Edits -/

/-- A change to the objects of a session. -/
inductive Edit where
  | add (o : SceneObject)
  | set (id : String) (o : SceneObject)
  | delete (id : String)

namespace Edit

def operation : Edit → Operation
  | add o => .add o
  | set id o => .set id o
  | delete id => .delete id

/-- Where some ids are taken, an edit is refused for a reason. -/
inductive Refused (ids : List String) : Edit → SessionError → Prop where
  | missing {o : SceneObject} : o.id = "" → Refused ids (add o) (.invalidSpec .missingId)
  | taken {o : SceneObject} : o.id ≠ "" → o.id ∈ ids → Refused ids (add o) (.duplicateId o.id)
  | set {id : String} {o : SceneObject} : id ∉ ids → Refused ids (set id o) (.objectNotFound id)
  | delete {id : String} : id ∉ ids → Refused ids (delete id) (.objectNotFound id)

end Edit

/-! ### Objects in the order of their ids -/

/-- Objects under their ids, and the ids in the order in which they came in. -/
@[ext]
structure Lineup where
  ids : List String
  object? : String → Option SceneObject

namespace Lineup

/-- An edit of a lineup. A new id comes last, a known one keeps its place. -/
def perform (m : Lineup) : Edit → Except SessionError (Reply × Lineup)
  | .add o =>
    if o.id = "" then .error (.invalidSpec .missingId)
    else if o.id ∈ m.ids then .error (.duplicateId o.id)
    else .ok (.count (m.ids.length + 1),
      ⟨m.ids ++ [o.id], Function.update m.object? o.id (some o)⟩)
  | .set id o =>
    if id ∈ m.ids then
      .ok (.done, ⟨m.ids, Function.update m.object? id (some { o with id := id })⟩)
    else .error (.objectNotFound id)
  | .delete id =>
    match m.object? id with
    | some o => .ok (.removed o, ⟨m.ids.erase id, Function.update m.object? id none⟩)
    | none => .error (.objectNotFound id)

def reply (m : Lineup) (edit : Edit) : Reply :=
  match m.perform edit with
  | .ok (reply, _) => reply
  | .error error => .refused error

/-- The lineup after an edit; one that is refused leaves it as it is. -/
def after (m : Lineup) (edit : Edit) : Lineup :=
  match m.perform edit with
  | .ok (_, m') => m'
  | .error _ => m

def replies (m : Lineup) : List Edit → List Reply
  | [] => []
  | edit :: rest => m.reply edit :: (m.after edit).replies rest

end Lineup

/-- The objects of a session as a lineup. -/
def lineup (s : Session) : Lineup where
  ids := s.scene.objects.map (·.id)
  object? := s.scene.find?

/-! ### Lists of objects -/

section Objects

variable {id : String} {objects : List SceneObject}

theorem find?_eq_none_iff :
    objects.find? (·.id == id) = none ↔ id ∉ objects.map (·.id) := by
  rw [List.find?_eq_none, List.mem_map]
  simp only [beq_iff_eq, not_exists, not_and]

/-- A replacement keeps the ids in order. -/
theorem map_id_replaceFirst (id : String) (o : SceneObject) (objects : List SceneObject) :
    (replaceFirst id o objects).map (·.id) = objects.map (·.id) := by
  induction objects with
  | nil => rfl
  | cons first rest ih =>
    unfold replaceFirst
    split
    · rename_i same
      simp [beq_iff_eq.mp same]
    · simp [ih]

/-- After a replacement its id has the new object and every other id the one it had. -/
theorem find?_replaceFirst (present : id ∈ objects.map (·.id)) (o : SceneObject)
    (other : String) :
    (replaceFirst id o objects).find? (·.id == other) =
      if other = id then some { o with id := id } else objects.find? (·.id == other) := by
  induction objects with
  | nil => cases present
  | cons first rest ih =>
    by_cases here : first.id = id
    · by_cases same : other = id
      · simp [replaceFirst, here, same]
      · have elsewhere : id ≠ other := Ne.symm same
        simp [replaceFirst, here, same, elsewhere]
    · have later : id ∈ rest.map (·.id) := by
        rcases List.mem_cons.mp present with now | later
        · exact absurd now.symm here
        · exact later
      by_cases first_is : first.id = other
      · have same : other ≠ id := first_is ▸ here
        simp [replaceFirst, first_is, same]
      · simp [replaceFirst, here, first_is, ih later]

/-- A removal takes out the id, where it stood first. -/
theorem map_id_eraseP (id : String) (objects : List SceneObject) :
    (objects.eraseP (·.id == id)).map (·.id) = (objects.map (·.id)).erase id := by
  rw [List.erase_eq_eraseP', List.eraseP_map]
  rfl

/-- Where every id is given once, deleting its object leaves nothing under it. -/
theorem find?_eraseP (distinct : (objects.map (·.id)).Nodup) (other : String) :
    (objects.eraseP (·.id == id)).find? (·.id == other) =
      if other = id then none else objects.find? (·.id == other) := by
  induction objects with
  | nil => simp
  | cons first rest ih =>
    obtain ⟨apart, distinct⟩ := List.nodup_cons.mp distinct
    by_cases here : first.id = id
    · by_cases same : other = id
      · subst same
        rw [List.eraseP_cons_of_pos (by simpa using here), if_pos rfl]
        exact find?_eq_none_iff.mpr (here ▸ apart)
      · have elsewhere : id ≠ other := Ne.symm same
        simp [here, same, elsewhere]
    · by_cases first_is : first.id = other
      · have same : other ≠ id := first_is ▸ here
        simp [first_is, same]
      · simp [here, first_is, ih distinct]

end Objects

/-! ### Each edit by itself -/

variable {s : Session}

theorem contains_iff {id : String} : s.scene.contains id ↔ id ∈ s.lineup.ids := by
  rw [Scene.contains, Option.isSome_iff_ne_none, Scene.find?, ne_eq, find?_eq_none_iff, not_not]
  rfl

theorem object?_eq_none_iff {id : String} : s.lineup.object? id = none ↔ id ∉ s.lineup.ids :=
  find?_eq_none_iff

/-- Adding an object whose id is free declares it last. -/
theorem add_eq (o : SceneObject) :
    (add o).perform s =
      if o.id = "" then (.error (.invalidSpec .missingId), s)
      else if o.id ∈ s.lineup.ids then (.error (.duplicateId o.id), s)
      else (.ok (s.lineup.ids.length + 1), s.append o) := by
  have count : s.lineup.ids.length = s.scene.objects.length := List.length_map _
  simp only [perform_add, contains_iff, String.isEmpty_iff, count]
  rfl

/-- An added object stands last in the lineup. -/
theorem lineup_append {o : SceneObject} (free : o.id ∉ s.lineup.ids) :
    (s.append o).lineup =
      ⟨s.lineup.ids ++ [o.id], Function.update s.lineup.object? o.id (some o)⟩ := by
  refine Lineup.ext (by simp [lineup, append, Scene.append]) (funext fun id => ?_)
  have found : (s.append o).lineup.object? id =
      (s.lineup.object? id).or (if o.id = id then some o else none) :=
    Scene.find?_append id
  dsimp only
  rw [found, Function.update_apply]
  by_cases same : id = o.id
  · rw [if_pos same, if_pos same.symm, same, object?_eq_none_iff.mpr free, Option.none_or]
  · rw [if_neg same, if_neg (Ne.symm same), Option.or_none]

/-- A session with the first object under an id replaced. -/
def replace (s : Session) (id : String) (o : SceneObject) : Session :=
  { s with scene := { s.scene with objects := replaceFirst id o s.scene.objects } }

/-- Replacing an object that is there leaves all ids in their places. -/
theorem set_eq (id : String) (o : SceneObject) :
    (set id o).perform s =
      if id ∈ s.lineup.ids then (.ok (), s.replace id o)
      else (.error (.objectNotFound id), s) := by
  simp only [perform_set, contains_iff, replace]

/-- A replacement keeps its place in the lineup. -/
theorem lineup_replace {id : String} (present : id ∈ s.lineup.ids) (o : SceneObject) :
    (s.replace id o).lineup =
      ⟨s.lineup.ids, Function.update s.lineup.object? id (some { o with id := id })⟩ := by
  refine Lineup.ext (map_id_replaceFirst id o s.scene.objects) (funext fun other => ?_)
  dsimp only
  rw [Function.update_apply]
  exact find?_replaceFirst present o other

/-- A session without the first object under an id, and without its state and its trail. -/
def remove (s : Session) (id : String) : Session :=
  let scene := { s.scene with objects := s.scene.objects.eraseP (·.id == id) }
  { s with scene := scene, states := s.states.erase id, trails := s.trails.retain scene }

/-- Deleting an object that is there removes it and comes to it. -/
theorem delete_eq (id : String) :
    (delete id).perform s =
      match s.lineup.object? id with
      | some o => (.ok o, s.remove id)
      | none => (.error (.objectNotFound id), s) :=
  perform_delete s id

/-- A removal takes the object out of the lineup. -/
theorem lineup_remove (distinct : s.scene.DistinctIds) (id : String) :
    (s.remove id).lineup = ⟨s.lineup.ids.erase id, Function.update s.lineup.object? id none⟩ := by
  refine Lineup.ext (map_id_eraseP id s.scene.objects) (funext fun other => ?_)
  dsimp only
  rw [Function.update_apply]
  exact find?_eraseP distinct other

/-- Everything that an edit can do to a session, and what it replies. -/
inductive Edited (s : Session) : Edit → Reply → Session → Prop where
  | refused {edit : Edit} {error : SessionError} :
      edit.Refused s.lineup.ids error → Edited s edit (.refused error) s
  | added {o : SceneObject} : o.id ≠ "" → o.id ∉ s.lineup.ids →
      Edited s (.add o) (.count (s.lineup.ids.length + 1)) (s.append o)
  | replaced {id : String} {o : SceneObject} :
      id ∈ s.lineup.ids → Edited s (.set id o) .done (s.replace id o)
  | deleted {id : String} {o : SceneObject} : s.lineup.object? id = some o →
      Edited s (.delete id) (.removed o) (s.remove id)

/-- Every edit is accepted and carried out, or refused without effect. -/
theorem edited_after (s : Session) (edit : Edit) :
    s.Edited edit (s.reply edit.operation) (s.after edit.operation) := by
  cases edit with
  | add o =>
    simp only [Edit.operation, reply, after, add_eq]
    by_cases missing : o.id = ""
    · simpa [missing] using Edited.refused (.missing missing)
    · by_cases taken : o.id ∈ s.lineup.ids
      · simpa [missing, taken] using Edited.refused (.taken missing taken)
      · simpa [missing, taken] using Edited.added missing taken
  | set id o =>
    simp only [Edit.operation, reply, after, set_eq]
    by_cases present : id ∈ s.lineup.ids
    · simpa [present] using Edited.replaced present
    · simpa [present] using Edited.refused (.set present)
  | delete id =>
    simp only [Edit.operation, reply, after, delete_eq]
    cases found : s.lineup.object? id with
    | none =>
      simpa using Edited.refused (.delete (object?_eq_none_iff.mp found))
    | some o => simpa using Edited.deleted found

/-- What an edit is refused for is read off the ids. -/
theorem reply_eq_refused_iff (edit : Edit) (error : SessionError) :
    s.reply edit.operation = .refused error ↔ edit.Refused s.lineup.ids error := by
  constructor
  · intro refused
    have edited := s.edited_after edit
    rw [refused] at edited
    generalize s.after edit.operation = s' at edited
    cases edited with
    | refused because => exact because
  · intro because
    cases because with
    | missing missing => simp [Edit.operation, reply, add_eq, missing]
    | taken named taken => simp [Edit.operation, reply, add_eq, named, taken]
    | set absent => simp [Edit.operation, reply, set_eq, absent]
    | delete absent =>
      simp [Edit.operation, reply, delete_eq, object?_eq_none_iff.mpr absent]

/-! ### Edits as edits of a lineup -/

namespace Edited

variable {edit : Edit} {answer : Reply} {s' : Session}

/-- An edit does to the objects of a session what it does to them as a lineup, and replies the
same. -/
theorem lineup (edited : s.Edited edit answer s') (distinct : s.scene.DistinctIds) :
    answer = s.lineup.reply edit ∧ s'.lineup = s.lineup.after edit := by
  unfold Lineup.reply Lineup.after
  cases edited with
  | refused because =>
    cases because with
    | missing missing => simp [Lineup.perform, missing]
    | taken named taken => simp [Lineup.perform, named, taken]
    | set absent => simp [Lineup.perform, absent]
    | delete absent => simp [Lineup.perform, object?_eq_none_iff.mpr absent]
  | added named free => simp [Lineup.perform, named, free, lineup_append free]
  | replaced present => simp [Lineup.perform, present, lineup_replace present]
  | deleted found => simp [Lineup.perform, found, lineup_remove distinct]

/-- An edit keeps ids that differ. -/
theorem distinctIds (edited : s.Edited edit answer s') (distinct : s.scene.DistinctIds) :
    s'.scene.DistinctIds := by
  cases edited with
  | refused => exact distinct
  | @added o named free =>
    have ids : (s.append o).lineup.ids = s.lineup.ids ++ [o.id] := by rw [lineup_append free]
    change (s.append o).lineup.ids.Nodup
    rw [ids, List.nodup_append]
    refine ⟨distinct, List.nodup_singleton o.id, ?_⟩
    rintro id inside other only rfl
    exact free (List.mem_singleton.mp only ▸ inside)
  | @replaced id o =>
    change (s.replace id o).lineup.ids.Nodup
    have ids : (s.replace id o).lineup.ids = s.lineup.ids := map_id_replaceFirst id o _
    rw [ids]
    exact distinct
  | @deleted id =>
    change (s.remove id).lineup.ids.Nodup
    rw [lineup_remove distinct]
    exact distinct.erase id

end Edited

/-! ### What an edit leaves alone -/

/-- An edit changes no more than the objects. Deleting an object takes its state and its trail away
with it, and no other's. -/
structure Spares (s : Session) (edit : Edit) (s' : Session) : Prop where
  scene : s'.scene = { s.scene with objects := s'.scene.objects }
  settings : s'.settings = s.settings
  frame : s'.frame = s.frame
  states : ∀ id, edit ≠ .delete id → s'.states.get? id = s.states.get? id
  /-- Whatever else leaves a trail keeps it. -/
  trails : ∀ id, edit ≠ .delete id → TrailRecorder.leavesTrail s'.scene id →
    s'.trails.points id = s.trails.points id
  deleted : ∀ id ∈ s.lineup.ids, edit = .delete id →
    s'.states.get? id = none ∧ s'.trails.points id = []

/-- An object that has been deleted leaves no trail. -/
theorem leavesTrail_remove (distinct : s.scene.DistinctIds) (id : String) :
    TrailRecorder.leavesTrail (s.remove id).scene id = false := by
  have gone : (s.remove id).scene.find? id = none := by
    have found : (s.remove id).scene.find? id = if id = id then none else s.scene.find? id :=
      find?_eraseP distinct id
    rwa [if_pos rfl] at found
  rw [TrailRecorder.leavesTrail, gone]
  rfl

/-- An edit changes the objects and no more, but for what a deleted one leaves behind. -/
theorem Edited.spares {edit : Edit} {answer : Reply} {s' : Session}
    (edited : s.Edited edit answer s') (distinct : s.scene.DistinctIds) : s.Spares edit s' := by
  cases edited with
  | refused because =>
    refine ⟨rfl, rfl, rfl, fun _ _ => rfl, fun _ _ _ => rfl, ?_⟩
    rintro id present rfl
    cases because with
    | delete absent => exact absurd present absent
  | added => exact ⟨rfl, rfl, rfl, fun _ _ => rfl, fun _ _ _ => rfl, fun _ _ is => by cases is⟩
  | replaced => exact ⟨rfl, rfl, rfl, fun _ _ => rfl, fun _ _ _ => rfl, fun _ _ is => by cases is⟩
  | @deleted id o found =>
    refine ⟨rfl, rfl, rfl, ?_, ?_, ?_⟩
    · intro other apart
      have different : other ≠ id := fun same => apart (same ▸ rfl)
      exact (IdMap.get?_erase s.states id other).trans (if_neg different)
    · intro other _ leaves
      exact (TrailRecorder.points_retain s.trails _ other).trans (if_pos leaves)
    · rintro other _ same
      cases same
      have stateless := (IdMap.get?_erase s.states id id).trans (if_pos rfl)
      have trailless := TrailRecorder.points_retain s.trails (s.remove id).scene id
      rw [leavesTrail_remove distinct] at trailless
      exact ⟨stateless, trailless⟩

/-! ### Any number of edits -/

theorem distinctIds_foldl (distinct : s.scene.DistinctIds) (edits : List Edit) :
    ((edits.map Edit.operation).foldl after s).scene.DistinctIds := by
  induction edits generalizing s with
  | nil => exact distinct
  | cons edit rest ih => exact ih ((s.edited_after edit).distinctIds distinct)

/-- Any edits do to the lineup what the lineup does by itself, with the same replies. -/
theorem foldl_lineup (distinct : s.scene.DistinctIds) (edits : List Edit) :
    ((edits.map Edit.operation).foldl after s).lineup = edits.foldl Lineup.after s.lineup ∧
      s.replies (edits.map Edit.operation) = s.lineup.replies edits := by
  induction edits generalizing s with
  | nil => exact ⟨rfl, rfl⟩
  | cons edit rest ih =>
    have edited := s.edited_after edit
    obtain ⟨reply, lineup⟩ := edited.lineup distinct
    obtain ⟨lineups, replies⟩ := ih (edited.distinctIds distinct)
    rw [lineup] at lineups replies
    refine ⟨lineups, ?_⟩
    rw [List.map_cons, Session.replies, Lineup.replies, reply, replies]

/-- **A session keeps its objects as a map in the order of insertion.** Take a session in which no
id is given twice, and edit its objects any number of times. No id is then given twice; the objects
are what the same edits make of them as a lineup, and every edit has replied the same. The next edit
is refused exactly for its reasons: an object is not added without an id or under one that is there,
and not replaced or deleted under one that is not. An edit that is refused leaves the session as it
is, and any other changes the objects only, with the state and the trail of the object that it
deletes. -/
theorem edits_refine (distinct : s.scene.DistinctIds) (edits : List Edit) :
    let t := (edits.map Edit.operation).foldl after s
    t.scene.DistinctIds ∧ t.lineup = edits.foldl Lineup.after s.lineup ∧
      s.replies (edits.map Edit.operation) = s.lineup.replies edits ∧
      ∀ edit : Edit,
        (∀ error, (t.reply edit.operation = .refused error ↔
            edit.Refused t.lineup.ids error) ∧
          (t.reply edit.operation = .refused error → t.after edit.operation = t)) ∧
        t.Spares edit (t.after edit.operation) := by
  intro t
  have still := distinctIds_foldl distinct edits
  obtain ⟨lineup, replies⟩ := foldl_lineup distinct edits
  refine ⟨still, lineup, replies, fun edit => ⟨fun error => ?_, ?_⟩⟩
  · exact ⟨reply_eq_refused_iff edit error, after_of_refused⟩
  · exact (t.edited_after edit).spares still

/-- A session in the middle of a game, with a player that leaves a trail and a net. -/
def training : Session where
  scene :=
    { objects :=
        [{ id := "player", trail := some ⟨4, "#ffffff", 1, 2⟩, kind := .agent {} },
          { id := "net", kind := .rect {} }] }
  settings := {}
  frame := 3
  states := IdMap.empty.insert "player" { position := ⟨30, 20⟩ }
  trails := ⟨IdMap.empty.insert "player" [⟨29, 20⟩, ⟨30, 20⟩]⟩

/-- A net too many, a player that comes back under another name, something without an id, and the
net taken away twice before a bench is put there. -/
def refit : List Edit :=
  [.add { id := "net", kind := .group }, .set "player" { id := "net", kind := .agent {} },
    .add { id := "", kind := .group }, .delete "net", .delete "net",
    .add { id := "bench", kind := .group }]

/-- A team refitted by accepted and refused edits. -/
theorem edits_refine_refit :
    let refitted := (refit.map Edit.operation).foldl after training
    training.scene.DistinctIds ∧ refitted.scene.DistinctIds ∧
      refitted.lineup.ids = ["player", "bench"] ∧
      training.replies (refit.map Edit.operation) =
        [.refused (.duplicateId "net"), .done, .refused (.invalidSpec .missingId),
          .removed { id := "net", kind := .rect {} }, .refused (.objectNotFound "net"),
          .count 2] ∧
      (refitted.after (.delete "bench")).states.get? "player" =
        refitted.states.get? "player" := by
  have distinct : training.scene.DistinctIds := by decide
  obtain ⟨still, lineup, replies, next⟩ := edits_refine distinct refit
  refine ⟨distinct, still, ?_, ?_, ?_⟩
  · rw [lineup]
    rfl
  · rw [replies]
    rfl
  · exact (next (.delete "bench")).2.states "player" (by simp)

end Playfield.Session
