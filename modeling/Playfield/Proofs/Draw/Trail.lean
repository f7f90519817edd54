import Mathlib.Data.List.DropRight
import Playfield.Draw.Trail
import Playfield.Proofs.Scene.DistinctIds

/-!
What a recorder holds, and what it draws.

A frame does one of three things to the trail of an id (`Recorded`): without a trail it forgets the
positions, with a trail whose object is hidden it leaves them alone, and otherwise it adds one,
drops the oldest that no longer fit, and draws what is left. Objects with other ids have no part in
it (`seen_recordObject_of_ne`). So the positions of an id are always the latest few of all that have
been recorded for it, whatever happens to its trail in between (`holds_latest`).
-/

namespace Playfield.TrailRecorder

/-! ### What happens to one id -/

/-- Only what leaves a trail keeps its positions. -/
theorem get?_retain (r : TrailRecorder) (scene : Scene) (id : String) :
    (r.retain scene).history.get? id =
      if leavesTrail scene id then r.history.get? id else none := by
  unfold retain
  rw [IdMap.get?_filter]
  cases leavesTrail scene id <;> cases r.history.get? id <;> rfl

/-- Only what leaves a trail keeps its points. -/
theorem points_retain (r : TrailRecorder) (scene : Scene) (id : String) :
    (r.retain scene).points id = if leavesTrail scene id then r.points id else [] := by
  unfold points
  rw [get?_retain]
  split <;> rfl

/-- The positions held for an id, and the commands drawn for it. -/
def seen (id : String) (done : TrailRecorder × List DrawCommand) :
    Option (List Vec2) × List DrawCommand :=
  (done.1.history.get? id, done.2.filter (·.objectId == id))

/-- What a frame does to the trail of an id with these positions: the positions that are held after
it, and the commands that are drawn. -/
inductive Recorded (scene : Scene) (resolved : String → Option Vec2) (id : String)
    (positions : Option (List Vec2)) : Option (List Vec2) × List DrawCommand → Prop where
  /-- Nothing with this id leaves a trail. -/
  | dropped : leavesTrail scene id = false → Recorded scene resolved id positions (none, [])
  /-- Its object leaves a trail and is not resolved. -/
  | paused : leavesTrail scene id → resolved id = none →
      Recorded scene resolved id positions (positions, [])
  /-- Its object leaves a trail and is resolved. -/
  | drawn {o : SceneObject} {style : TrailStyle} {position : Vec2} :
      scene.find? id = some o → o.activeTrail? = some style → resolved id = some position →
      Recorded scene resolved id positions
        (some (extend (positions.getD []) position style.length),
          [command o style (extend (positions.getD []) position style.length)])

section Objects

variable {resolved : String → Option Vec2} {id : String}

/-- Recording an object does nothing to other ids. -/
theorem seen_recordObject_of_ne {o : SceneObject} (different : o.id ≠ id)
    (done : TrailRecorder × List DrawCommand) :
    seen id (recordObject resolved done o) = seen id done := by
  unfold recordObject
  split
  · have other : id ≠ o.id := Ne.symm different
    simp [seen, command, IdMap.get?_insert, different, other]
  · rfl

/-- Recording objects with other ids does nothing to an id. -/
theorem seen_foldl_recordObject {objects : List SceneObject} (absent : ∀ o ∈ objects, o.id ≠ id)
    (done : TrailRecorder × List DrawCommand) :
    seen id (objects.foldl (recordObject resolved) done) = seen id done := by
  induction objects generalizing done with
  | nil => rfl
  | cons o rest ih =>
    obtain ⟨different, absent⟩ := List.forall_mem_cons.mp absent
    exact (ih absent _).trans (seen_recordObject_of_ne different done)

theorem recordObject_of_hidden {o : SceneObject} (hidden : resolved o.id = none)
    (done : TrailRecorder × List DrawCommand) : recordObject resolved done o = done := by
  unfold recordObject
  rw [hidden]
  cases o.activeTrail? <;> rfl

theorem recordObject_of_trailless {o : SceneObject} (trailless : o.activeTrail? = none)
    (done : TrailRecorder × List DrawCommand) : recordObject resolved done o = done := by
  unfold recordObject
  rw [trailless]

/-- The trail of an object that is resolved grows by its position and is drawn. -/
theorem seen_recordObject {o : SceneObject} {style : TrailStyle} {position : Vec2}
    (trail : o.activeTrail? = some style) (shown : resolved o.id = some position)
    (done : TrailRecorder × List DrawCommand) :
    seen o.id (recordObject resolved done o) =
      (some (extend (done.1.points o.id) position style.length),
        (seen o.id done).2 ++ [command o style (extend (done.1.points o.id) position style.length)])
    := by
  unfold recordObject
  rw [trail, shown]
  simp [seen, command, IdMap.get?_insert]

end Objects

/-- Whatever is drawn for a frame is the trail of one of its objects. -/
theorem exists_of_mem_record (r : TrailRecorder) (scene : Scene) (resolved : String → Option Vec2) :
    ∀ c ∈ (r.record scene resolved).2, ∃ o ∈ scene.objects, ∃ style points,
      c = command o style points := by
  -- Recorded by itself, a list of objects draws what it did not start with for one of its own.
  have drawn (objects : List SceneObject) (done : TrailRecorder × List DrawCommand) :
      ∀ c ∈ (objects.foldl (recordObject resolved) done).2, c ∈ done.2 ∨
        ∃ o ∈ objects, ∃ style points, c = command o style points := by
    induction objects generalizing done with
    | nil => exact fun c inside => .inl inside
    | cons o rest ih =>
      intro c inside
      rcases ih _ c inside with inside | ⟨q, member, is⟩
      · unfold recordObject at inside
        split at inside
        · rcases List.mem_append.mp inside with inside | inside
          · exact .inl inside
          · exact .inr ⟨o, List.mem_cons_self, _, _, List.mem_singleton.mp inside⟩
        · exact .inl inside
      · exact .inr ⟨q, List.mem_cons_of_mem o member, is⟩
  intro c inside
  exact (drawn scene.objects _ c inside).resolve_left List.not_mem_nil

/-- Whatever is drawn for a frame is a trail. -/
theorem isTrail_of_mem_record (r : TrailRecorder) (scene : Scene)
    (resolved : String → Option Vec2) :
    ∀ c ∈ (r.record scene resolved).2, c.figure.isTrail = true := by
  intro c inside
  obtain ⟨o, -, style, points, rfl⟩ := exists_of_mem_record r scene resolved c inside
  rfl

/-- An id leaves a trail iff its first object has one. -/
theorem leavesTrail_of_find? {scene : Scene} {o : SceneObject} {id : String}
    (found : scene.find? id = some o) : leavesTrail scene id = o.activeTrail?.isSome := by
  rw [leavesTrail, found, Option.bind_some]

section Frames

variable {scene : Scene} (distinct : scene.DistinctIds) (r : TrailRecorder)
  (resolved : String → Option Vec2)

include distinct

/-- Of all that is recorded on a frame, an id sees its own object only. -/
theorem exists_seen_record {o : SceneObject} (member : o ∈ scene.objects) :
    ∃ done, seen o.id done = ((r.retain scene).history.get? o.id, []) ∧
      seen o.id (r.record scene resolved) = seen o.id (recordObject resolved done o) := by
  obtain ⟨earlier, later, split⟩ := List.append_of_mem member
  have ids : (scene.objects.map (·.id)).Nodup := distinct
  rw [split, List.map_append, List.map_cons, List.nodup_middle, List.nodup_cons] at ids
  have others : ∀ q ∈ earlier ++ later, q.id ≠ o.id := by
    intro q inside same
    exact ids.1 (List.map_append ▸ same ▸ List.mem_map_of_mem inside)
  obtain ⟨before, after⟩ := List.forall_mem_append.mp others
  refine ⟨earlier.foldl (recordObject resolved) (r.retain scene, []), ?_, ?_⟩
  · rw [seen_foldl_recordObject before]
    rfl
  · rw [record, split, List.foldl_append, List.foldl_cons, seen_foldl_recordObject after]

/-- Where no id is given twice, a frame does to each id what its own object says. -/
theorem recorded_record (id : String) :
    Recorded scene resolved id (r.history.get? id) (seen id (r.record scene resolved)) := by
  cases found : scene.find? id with
  | none =>
    -- No object has the id: what was held for it is dropped, and nothing is recorded.
    have absent : ∀ o ∈ scene.objects, o.id ≠ id := by
      simpa [Scene.find?] using found
    have trailless : leavesTrail scene id = false := by
      rw [leavesTrail, found]
      rfl
    have held : seen id (r.record scene resolved) = (none, []) := by
      rw [record, seen_foldl_recordObject absent, seen, get?_retain, trailless]
      rfl
    rw [held]
    exact .dropped trailless
  | some o =>
    obtain rfl : o.id = id := by simpa using List.find?_some found
    obtain ⟨done, start, held⟩ :=
      exists_seen_record distinct r resolved (List.mem_of_find?_eq_some found)
    have leaves := leavesTrail_of_find? found
    rw [get?_retain] at start
    rw [held]
    cases trail : o.activeTrail? with
    | none =>
      rw [trail] at leaves
      rw [recordObject_of_trailless trail, start, leaves]
      exact .dropped leaves
    | some style =>
      rw [trail, Option.isSome_some] at leaves
      rw [leaves, if_pos rfl] at start
      cases shown : resolved o.id with
      | none =>
        rw [recordObject_of_hidden shown, start]
        exact .paused leaves shown
      | some position =>
        have points : done.1.points o.id = (r.history.get? o.id).getD [] :=
          congrArg (·.1.getD []) start
        rw [seen_recordObject trail shown, points, start, List.nil_append]
        exact .drawn found trail shown

end Frames

/-- A frame draws at most one trail for an id. -/
theorem length_filter_record_le {scene : Scene} (distinct : scene.DistinctIds) (r : TrailRecorder)
    (resolved : String → Option Vec2) (id : String) :
    ((r.record scene resolved).2.filter (·.objectId == id)).length ≤ 1 := by
  have outcome := recorded_record distinct r resolved id
  have commands : (seen id (r.record scene resolved)).2 =
    (r.record scene resolved).2.filter (·.objectId == id) := rfl
  rw [← commands]
  generalize seen id (r.record scene resolved) = now at outcome
  cases outcome <;> simp

/-! ### Whole runs -/

/-- A call on a recorder. -/
inductive Call where
  | record (scene : Scene) (resolved : String → Option Vec2)
  | retain (scene : Scene)
  | clear

namespace Call

/-- No frame is recorded in which an id is given twice. -/
def Distinct : Call → Prop
  | record scene _ => scene.DistinctIds
  | retain _ | clear => True

/-- The position that a call records for an id. -/
def recorded? (id : String) : Call → Option Vec2
  | record scene resolved => if leavesTrail scene id then resolved id else none
  | retain _ | clear => none

/-- How many positions of an id count after a call, where so many counted before it. A trail that is
dropped starts again; one that is drawn counts one more, up to its length. -/
def count (id : String) (counted : Nat) : Call → Nat
  | record scene resolved =>
    match (scene.find? id).bind (·.activeTrail?), resolved id with
    | none, _ => 0
    | some _, none => counted
    | some style, some _ => min style.length (counted + 1)
  | retain scene => if leavesTrail scene id then counted else 0
  | clear => 0

end Call

def after (r : TrailRecorder) : Call → TrailRecorder
  | .record scene resolved => (r.record scene resolved).1
  | .retain scene => r.retain scene
  | .clear => .fresh

/-- All positions that some calls have recorded for an id, oldest first. -/
def log (id : String) (calls : List Call) : List Vec2 :=
  calls.filterMap (Call.recorded? id)

/-- How many of them count. -/
def counted (id : String) (calls : List Call) : Nat :=
  calls.foldl (Call.count id) 0

/-- A recorder holds for an id the latest positions of a log. -/
structure Holds (r : TrailRecorder) (id : String) (log : List Vec2) (counted : Nat) : Prop where
  points : r.points id = log.rtake counted
  enough : counted ≤ log.length

/-- With a new position, the latest positions of a log are the latest of the longer log. -/
theorem extend_rtake (log : List Vec2) (counted : Nat) (new : Vec2) (length : Nat) :
    extend (log.rtake counted) new length = (log ++ [new]).rtake (min length (counted + 1)) := by
  have longer : log.rtake counted ++ [new] = (log ++ [new]).rtake (counted + 1) :=
    (List.rtake_concat_succ _ _ _).symm
  have last : extend (log.rtake counted) new length =
      (log.rtake counted ++ [new]).rtake length := rfl
  rw [last, longer]
  simp only [List.rtake_eq_reverse_take_reverse, List.reverse_reverse, List.take_take]

theorem length_rtake {log : List Vec2} {counted : Nat} (enough : counted ≤ log.length) :
    (log.rtake counted).length = counted := by
  rw [List.rtake, List.length_drop, Nat.sub_sub_self enough]

namespace Holds

variable {r : TrailRecorder} {id : String} {log : List Vec2} {counted : Nat}

/-- After its positions are forgotten an id holds none of a log. -/
theorem of_forgotten (forgotten : r.points id = []) : r.Holds id log 0 :=
  ⟨forgotten.trans (List.rtake_zero log).symm, Nat.zero_le _⟩

/-- A recorder with the same positions for an id holds the same log. -/
theorem of_points_eq (holds : r.Holds id log counted) {r' : TrailRecorder}
    (same : r'.points id = r.points id) : r'.Holds id log counted :=
  ⟨same.trans holds.points, holds.enough⟩

/-- Positions that a frame adds to are the latest of the longer log. -/
theorem extend (holds : r.Holds id log counted) {r' : TrailRecorder} {new : Vec2} {length : Nat}
    (points : r'.points id = TrailRecorder.extend (r.points id) new length) :
    r'.Holds id (log ++ [new]) (min length (counted + 1)) := by
  constructor
  · rw [points, holds.points, extend_rtake]
  · have enough := holds.enough
    rw [List.length_append, List.length_singleton]
    omega

/-- A recorder that holds the latest positions of a log holds, after any call, those of the log with
what the call has recorded. -/
theorem after (holds : r.Holds id log counted) {call : Call} (distinct : call.Distinct) :
    (r.after call).Holds id (log ++ (call.recorded? id).toList) (call.count id counted) := by
  cases call with
  | clear => exact of_forgotten rfl
  | retain scene =>
    have points := points_retain r scene id
    simp only [Call.recorded?, Call.count, Option.toList_none, List.append_nil]
    cases leaves : leavesTrail scene id with
    | false => exact of_forgotten (by rw [TrailRecorder.after, points, leaves]; rfl)
    | true => exact holds.of_points_eq (by rw [TrailRecorder.after, points, leaves]; rfl)
  | record scene resolved =>
    have recorded := recorded_record distinct r resolved id
    have points : (r.record scene resolved).1.points id =
      (seen id (r.record scene resolved)).1.getD [] := rfl
    generalize seen id (r.record scene resolved) = now at recorded points
    cases recorded with
    | dropped trailless =>
      have none : (scene.find? id).bind (·.activeTrail?) = none := by
        simpa [leavesTrail] using trailless
      simp only [Call.recorded?, Call.count, trailless, none]
      exact of_forgotten points
    | paused leaves hidden =>
      obtain ⟨style, some⟩ := Option.isSome_iff_exists.mp leaves
      simp only [Call.recorded?, Call.count, leaves, some, hidden]
      exact of_points_eq ⟨by simpa using holds.points, by simpa using holds.enough⟩ points
    | drawn found trail shown =>
      have leaves := leavesTrail_of_find? found
      simp only [Call.recorded?, Call.count, leaves, found, trail, shown, Option.bind_some]
      exact holds.extend points

end Holds

/-- After any calls a recorder holds for an id the latest of all positions recorded for it. -/
theorem holds_latest {calls : List Call} (distinct : ∀ call ∈ calls, call.Distinct) (id : String) :
    (calls.foldl after fresh).Holds id (log id calls) (counted id calls) := by
  induction calls using List.reverseRecOn with
  | nil => exact .of_forgotten rfl
  | append_singleton calls call ih =>
    have earlier : ∀ call ∈ calls, call.Distinct := fun call inside =>
      distinct call (List.mem_append_left _ inside)
    have now := (ih earlier).after (distinct call List.mem_concat_self)
    have recorded : log id (calls ++ [call]) = log id calls ++ (call.recorded? id).toList := by
      cases new : call.recorded? id <;> simp [log, List.filterMap_append, new]
    have count : counted id (calls ++ [call]) = call.count id (counted id calls) := by
      rw [counted, List.foldl_append]
      rfl
    rw [List.foldl_append, recorded, count]
    exact now

/-- **A trail shows the latest positions of its object.** Take a recorder after any calls, and
record one more frame, where no frame gives an id twice. An object with a trail that is resolved on
it draws one command, through as many of its latest recorded positions as fit into the length of the
trail and follow the last call that dropped it, oldest first. While it is not resolved nothing is
drawn and its positions are kept; what leaves no trail draws nothing and loses them. -/
theorem record_draws_latest {calls : List Call} (distinct : ∀ call ∈ calls, call.Distinct)
    {scene : Scene} (apart : scene.DistinctIds) (resolved : String → Option Vec2) (id : String) :
    let r := calls.foldl after fresh
    let recorded := r.record scene resolved
    let drawn := recorded.2.filter (·.objectId == id)
    (∀ o ∈ scene.objects, o.id = id → ∀ style position,
      o.activeTrail? = some style → resolved id = some position →
        let length := min style.length (counted id calls + 1)
        let latest := (log id calls ++ [position]).rtake length
        drawn = [command o style latest] ∧ latest.length = length) ∧
    (leavesTrail scene id → resolved id = none →
      drawn = [] ∧ recorded.1.history.get? id = r.history.get? id) ∧
    (leavesTrail scene id = false → drawn = [] ∧ recorded.1.history.get? id = none) := by
  intro r recorded drawn
  have holds := holds_latest distinct id
  have outcome := recorded_record apart r resolved id
  have held : (seen id recorded).1 = recorded.1.history.get? id := rfl
  have commands : (seen id recorded).2 = drawn := rfl
  rw [← held, ← commands]
  change Recorded scene resolved id (r.history.get? id) (seen id recorded) at outcome
  generalize seen id recorded = now at outcome
  -- Each outcome for the id is what one of the three statements is about, and excludes the others.
  cases outcome with
  | dropped trailless =>
    refine ⟨?_, ?_, fun _ => ⟨rfl, rfl⟩⟩
    · rintro o member rfl style _ trail
      rw [leavesTrail_of_find? (apart.find?_eq member), trail] at trailless
      contradiction
    · intro leaves
      rw [trailless] at leaves
      contradiction
  | paused leaves hidden =>
    refine ⟨?_, fun _ _ => ⟨rfl, rfl⟩, ?_⟩
    · rintro o - rfl style position - shown
      rw [hidden] at shown
      contradiction
    · intro trailless
      rw [leaves] at trailless
      contradiction
  | @drawn o style position found trail shown =>
    refine ⟨?_, ?_, ?_⟩
    · rintro o' member rfl style' position' trail' shown' length latest
      obtain rfl : o' = o := Option.some.inj ((apart.find?_eq member).symm.trans found)
      obtain rfl : style = style' := Option.some.inj (trail.symm.trans trail')
      obtain rfl : position = position' := Option.some.inj (shown.symm.trans shown')
      have points : extend ((r.history.get? o'.id).getD []) position style.length = latest :=
        (congrArg (extend · position style.length) holds.points).trans (extend_rtake ..)
      have enough : length ≤ (log o'.id calls ++ [position]).length := by
        have := holds.enough
        rw [List.length_append, List.length_singleton]
        omega
      exact ⟨by rw [points], length_rtake enough⟩
    · intro _ hidden
      rw [shown] at hidden
      contradiction
    · intro trailless
      rw [leavesTrail_of_find? found, trail] at trailless
      contradiction

/-- A scene with a comet whose trail keeps so many positions. -/
def comet (length : Nat) : Scene where
  objects := [{ id := "comet", trail := some ⟨length, "#4a9eff", 0.5, 2⟩, kind := .ellipse {} }]

def cometAt (x : Float32) (id : String) : Option Vec2 :=
  if id = "comet" then some ⟨x, 0⟩ else none

/-- A trail that is dropped and starts again, is hidden for a frame, and is then cut shorter. -/
def flight : List Call :=
  [.record (comet 4) (cometAt 1), .retain {}, .record (comet 4) (cometAt 2),
    .record (comet 4) (cometAt 3), .record (comet 4) fun _ => none, .record (comet 4) (cometAt 4),
    .record (comet 2) (cometAt 5)]

/-- The trail of a comet after its flight, in sight and out of sight. -/
theorem record_draws_latest_flight :
    (comet 3).DistinctIds ∧
      (((flight.foldl after fresh).record (comet 3) (cometAt 6)).2.filter
          (·.objectId == "comet")).map (·.figure) =
        [.trail [⟨4, 0⟩, ⟨5, 0⟩, ⟨6, 0⟩] "#4a9eff" 2] ∧
      ((flight.foldl after fresh).record (comet 3) fun _ => none).2.filter
          (·.objectId == "comet") = [] := by
  have distinct : ∀ call ∈ flight, call.Distinct := by
    simp only [flight, List.forall_mem_cons, List.not_mem_nil, false_implies, implies_true,
      Call.Distinct, true_and, and_true]
    decide
  have apart : (comet 3).DistinctIds := by decide
  obtain ⟨drawn, -⟩ := record_draws_latest distinct apart (cometAt 6) "comet"
  obtain ⟨-, hidden, -⟩ := record_draws_latest distinct apart (fun _ => none) "comet"
  refine ⟨apart, ?_, (hidden rfl rfl).1⟩
  have shown := (drawn _ List.mem_cons_self rfl _ ⟨6, 0⟩ rfl rfl).1
  exact (congrArg (List.map DrawCommand.figure) shown).trans rfl

end Playfield.TrailRecorder
