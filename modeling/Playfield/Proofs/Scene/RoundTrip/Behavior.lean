import Playfield.Proofs.Json.Fields
import Playfield.Scene.Decode

/-!
Behaviors are read back from JSON.

Each type of the format is given by three things here: the numbers in a value of it, its slots, and
that a value returns when its numbers are finite. That the JSON of a value can be written in full is
shown beside it, from numbers that read back.
-/

namespace Playfield

open Json

/-! ### Vectors and targets -/

namespace Vec2

def numbers (v : Vec2) : List Float32 :=
  [v.x, v.y]

/-- The slots of a vector under two names. -/
def slotsAs (x y : String) (v : Vec2) : Slots :=
  [(x, some (ofReal v.x)), (y, some (ofReal v.y))]

def slots (v : Vec2) : Slots :=
  v.slotsAs "x" "y"

variable {v : Vec2}

/-- The JSON of a vector holds its slots, since the two names differ. -/
theorem holds (v : Vec2) : Holds v.slots v.slots.written :=
  Slots.holds_written (show ["x", "y"].Nodup by decide)

/-- What holds of the numbers in a vector holds of its two coordinates. -/
theorem forall_numbers {P : Float32 → Prop} : (∀ x ∈ v.numbers, P x) ↔ P v.x ∧ P v.y := by
  simp [numbers]

/-- A point with finite coordinates is read back. -/
theorem returns_point (finite : ∀ x ∈ v.numbers, x.isFinite) :
    Returns encodePoint decodePoint v := by
  obtain ⟨x, y⟩ := forall_numbers.mp finite
  refine bind_ok (v.holds.record _) ?_
  refine bind_ok (v.holds.required (returns_real x) rfl) ?_
  exact bind_ok (v.holds.required (returns_real y) rfl) rfl

/-- Under whatever names, coordinates that read back can be written. -/
theorem slotsAs_writable {x y : String} (back : ∀ x ∈ v.numbers, ReadsBack x) {room : Nat} :
    (v.slotsAs x y).Writable room := by
  obtain ⟨x, y⟩ := forall_numbers.mp back
  exact .some (writable_real x) (.some (writable_real y) .nil)

theorem writable_point (back : ∀ x ∈ v.numbers, ReadsBack x) {room : Nat} :
    Writable (room + 1) v.encodePoint :=
  Slots.Writable.object (slotsAs_writable back)

end Vec2

namespace Target

def numbers : Target → List Float32
  | .object _ => []
  | .point position => position.numbers

variable {t : Target}

/-- A target is told by its form: an id is a text, and a point is an object. -/
theorem returns (finite : ∀ x ∈ t.numbers, x.isFinite) : Returns encode decode t := by
  cases t with
  | object id => rfl
  | point position => exact congrArg (Except.map Target.point) (Vec2.returns_point finite)

/-- A target takes no more room than a point. -/
theorem writable (back : ∀ x ∈ t.numbers, ReadsBack x) {room : Nat} :
    Writable (room + 1) t.encode := by
  cases t with
  | object id => exact .text id
  | point position => exact Vec2.writable_point back

end Target

/-! ### Zones -/

namespace Zone

def numbers : Zone → List Float32
  | .rect center size => center.numbers ++ size.numbers
  | .circle center radius => center.numbers ++ [radius]

def slots : Zone → Slots
  | .rect center size =>
    ("shape", some (.text "rect")) :: center.slots ++ size.slotsAs "width" "height"
  | .circle center radius =>
    ("shape", some (.text "circle")) :: center.slots ++ [("radius", some (ofReal radius))]

variable {z : Zone}

/-- The names of the fields differ in a zone of either shape. -/
theorem holds (z : Zone) : Holds z.slots z.slots.written := by
  cases z with
  | rect =>
    exact Slots.holds_written (show ["shape", "x", "y", "width", "height"].Nodup by decide)
  | circle => exact Slots.holds_written (show ["shape", "x", "y", "radius"].Nodup by decide)

/-- A zone is written slot by slot, its shape first. -/
theorem encode_eq (z : Zone) : z.encode = .object z.slots.written := by
  cases z <;> rfl

/-- A zone of either shape is read back by the shape that is written with it. -/
theorem returns (finite : ∀ x ∈ z.numbers, x.isFinite) : Returns encode decodePart z := by
  have h := z.holds
  rw [Returns, encode_eq]
  cases z with
  | rect center size =>
    obtain ⟨center, size⟩ := List.forall_mem_append.mp finite
    obtain ⟨x, y⟩ := Vec2.forall_numbers.mp center
    obtain ⟨width, height⟩ := Vec2.forall_numbers.mp size
    refine bind_ok (h.objectRecord _) ?_
    refine bind_ok (h.required (returns_tag _ "rect") rfl) ?_
    refine bind_ok (h.objectRecord _) ?_
    refine bind_ok (h.required (returns_real x) rfl) ?_
    refine bind_ok (h.required (returns_real y) rfl) ?_
    refine bind_ok (h.required (returns_real width) rfl) ?_
    exact bind_ok (h.required (returns_real height) rfl) rfl
  | circle center radius =>
    obtain ⟨center, radius⟩ := List.forall_mem_append.mp finite
    obtain ⟨x, y⟩ := Vec2.forall_numbers.mp center
    refine bind_ok (h.objectRecord _) ?_
    refine bind_ok (h.required (returns_tag _ "circle") rfl) ?_
    refine bind_ok (h.objectRecord _) ?_
    refine bind_ok (h.required (returns_real x) rfl) ?_
    refine bind_ok (h.required (returns_real y) rfl) ?_
    exact bind_ok (h.required (returns_real (radius _ (by simp))) rfl) rfl

/-- A zone can be written in full if its center and its extent read back. -/
theorem writable (back : ∀ x ∈ z.numbers, ReadsBack x) {room : Nat} :
    Writable (room + 1) z.encode := by
  rw [encode_eq]
  refine Slots.Writable.object ?_
  cases z with
  | rect center size =>
    obtain ⟨center, size⟩ := List.forall_mem_append.mp back
    exact .some (.text _) ((Vec2.slotsAs_writable center).append (Vec2.slotsAs_writable size))
  | circle center radius =>
    obtain ⟨center, radius⟩ := List.forall_mem_append.mp back
    exact .some (.text _) ((Vec2.slotsAs_writable center).append
      (.some (writable_real (radius _ (by simp))) .nil))

end Zone

/-! ### Behaviors -/

namespace Behavior

def numbers : Behavior → List Float32
  | .seek target | .fastBreak target => target.numbers
  | .flee target radius | .arrive target radius => target.numbers ++ radius.toList
  | .evade _ radius | .separate radius | .align radius | .cohere radius => radius.toList
  | .wander strength speed => strength.toList ++ speed.toList
  | .followPath path _ => path.flatMap Vec2.numbers
  | .maintainZone zone | .defendZone zone => zone.numbers
  | .setScreen _ offset => offset.toList.flatMap Vec2.numbers
  | .pursue _ | .guard _ | .unknown => []

def slots : Behavior → Slots
  | .seek target | .fastBreak target => [("target", some target.encode)]
  | .flee target radius => [("target", some target.encode), ("radius", radius.map ofReal)]
  | .arrive target radius => [("target", some target.encode), ("slowRadius", radius.map ofReal)]
  | .pursue agent | .guard agent => [("target", some (.text agent))]
  | .evade agent radius => [("target", some (.text agent)), ("radius", radius.map ofReal)]
  | .wander strength speed =>
    [("strength", strength.map ofReal), ("speed", speed.map ofReal)]
  | .separate radius | .align radius | .cohere radius => [("radius", radius.map ofReal)]
  | .followPath path looped =>
    [("path", some (.list (path.map Vec2.encodePoint))), ("loop", some (.bool looped))]
  | .maintainZone zone | .defendZone zone => [("zone", some zone.encode)]
  | .setScreen handler offset =>
    [("ballHandler", some (.text handler)), ("offset", offset.map Vec2.encodePoint)]
  | .unknown => []

variable {b : Behavior} {pairs : List (String × Json)}

/-- The parameters of a behavior are written slot by slot, whatever its kind is. -/
theorem encodeParameters_eq (b : Behavior) : b.encodeParameters = b.slots.written := by
  cases b <;> simp [encodeParameters, slots]

/-- A behavior is read back by its tag from pairs that hold its parameters. -/
theorem decodeTagged_eq (h : Holds b.slots pairs) (finite : ∀ x ∈ b.numbers, x.isFinite) :
    decodeTagged b.tag pairs = .ok b := by
  cases b with
  | seek target | fastBreak target =>
    refine bind_ok (h.objectRecord _) ?_
    exact bind_ok (h.required (Target.returns finite) rfl) rfl
  | flee target radius | arrive target radius =>
    obtain ⟨target, radius⟩ := List.forall_mem_append.mp finite
    refine bind_ok (h.objectRecord _) ?_
    refine bind_ok (h.required (Target.returns target) rfl) ?_
    exact bind_ok (h.optional_real radius rfl) rfl
  | pursue agent | guard agent =>
    refine bind_ok (h.objectRecord _) ?_
    exact bind_ok (h.required (returns_text agent) rfl) rfl
  | evade agent radius =>
    refine bind_ok (h.objectRecord _) ?_
    refine bind_ok (h.required (returns_text agent) rfl) ?_
    exact bind_ok (h.optional_real finite rfl) rfl
  | wander strength speed =>
    obtain ⟨strength, speed⟩ := List.forall_mem_append.mp finite
    refine bind_ok (h.objectRecord _) ?_
    refine bind_ok (h.optional_real strength rfl) ?_
    exact bind_ok (h.optional_real speed rfl) rfl
  | separate radius | align radius | cohere radius =>
    refine bind_ok (h.objectRecord _) ?_
    exact bind_ok (h.optional_real finite rfl) rfl
  | followPath path looped =>
    have points := List.forall_mem_flatMap.mp finite
    refine bind_ok (h.objectRecord _) ?_
    refine bind_ok (h.required (returns_list fun v mem => Vec2.returns_point (points v mem)) rfl) ?_
    exact bind_ok (h.withDefault (returns_bool looped) rfl) rfl
  | maintainZone zone | defendZone zone =>
    refine bind_ok (h.objectRecord _) ?_
    exact bind_ok (h.required (Zone.returns finite) rfl) rfl
  | setScreen handler offset =>
    refine bind_ok (h.objectRecord _) ?_
    refine bind_ok (h.required (returns_text handler) rfl) ?_
    have offset := forall_mem_optional.mp finite
    exact bind_ok (h.optional (fun v is => Vec2.returns_point (offset v is)) rfl rfl) rfl
  | unknown => rfl

/-- No parameter is nested deeper than a point of a path. -/
theorem slots_writable (back : ∀ x ∈ b.numbers, ReadsBack x) {room : Nat} :
    b.slots.Writable (room + 2) := by
  cases b with
  | seek target | fastBreak target => exact .some (Target.writable back) .nil
  | flee target radius | arrive target radius =>
    obtain ⟨target, radius⟩ := List.forall_mem_append.mp back
    exact .some (Target.writable target) (.map (writable_optional_real radius) .nil)
  | pursue agent | guard agent => exact .some (.text agent) .nil
  | evade agent radius => exact .some (.text agent) (.map (writable_optional_real back) .nil)
  | wander strength speed =>
    obtain ⟨strength, speed⟩ := List.forall_mem_append.mp back
    exact .map (writable_optional_real strength) (.map (writable_optional_real speed) .nil)
  | separate radius | align radius | cohere radius => exact .map (writable_optional_real back) .nil
  | followPath path looped =>
    have points := List.forall_mem_flatMap.mp back
    exact .some (writable_list fun v mem => Vec2.writable_point (points v mem))
      (.some (.bool looped) .nil)
  | maintainZone zone | defendZone zone => exact .some (Zone.writable back) .nil
  | setScreen handler offset =>
    have offset := forall_mem_optional.mp back
    exact .some (.text handler) (.map (fun v is => Vec2.writable_point (offset v is)) .nil)
  | unknown => exact .nil

end Behavior

namespace WeightedBehavior

def numbers (w : WeightedBehavior) : List Float32 :=
  w.behavior.numbers ++ [w.weight]

def slots (w : WeightedBehavior) : Slots :=
  [("type", some (.text w.behavior.tag))] ++ w.behavior.slots ++
    [("weight", some (ofReal w.weight))]

variable {w : WeightedBehavior}

/-- The tag and the parameters of a behavior come first, and its weight last. -/
theorem encode_eq (w : WeightedBehavior) : w.encode = .object w.slots.written := by
  simp [encode, slots, Behavior.encodeParameters_eq]

/-- No parameter of a behavior is called as its tag or its weight is. -/
theorem holds (w : WeightedBehavior) : Holds w.slots w.slots.written := by
  refine Slots.holds_written ?_
  obtain ⟨behavior, weight⟩ := w
  cases behavior <;> simp [slots, Behavior.slots, Slots.names]

/-- A behavior with its weight is read back, if the numbers in it and the weight are finite. -/
theorem returns (finite : ∀ x ∈ w.numbers, x.isFinite) : Returns encode decode w := by
  have h := w.holds
  obtain ⟨parameters, weight⟩ := List.forall_mem_append.mp finite
  rw [Returns, encode_eq]
  refine bind_ok (h.objectRecord _) ?_
  refine bind_ok (h.required (returns_tag _ w.behavior.tag) rfl) ?_
  refine bind_ok (Behavior.decodeTagged_eq h.front.rest parameters) ?_
  exact bind_ok (h.rest.withDefault (returns_real (weight _ (by simp))) rfl) rfl

theorem writable (back : ∀ x ∈ w.numbers, ReadsBack x) {room : Nat} :
    Writable (room + 3) w.encode := by
  obtain ⟨parameters, weight⟩ := List.forall_mem_append.mp back
  rw [encode_eq]
  exact Slots.Writable.object (.append (.append (.some (.text _) .nil)
    (Behavior.slots_writable parameters)) (.some (writable_real (weight _ (by simp))) .nil))

end WeightedBehavior

/-- A list of behaviors is read back one by one. -/
theorem returns_behaviors {behaviors : List WeightedBehavior}
    (finite : ∀ x ∈ behaviors.flatMap WeightedBehavior.numbers, x.isFinite) :
    Returns encodeBehaviors decodeBehaviors behaviors :=
  returns_list fun w mem => WeightedBehavior.returns (List.forall_mem_flatMap.mp finite w mem)

theorem writable_behaviors {behaviors : List WeightedBehavior}
    (back : ∀ x ∈ behaviors.flatMap WeightedBehavior.numbers, ReadsBack x) {room : Nat} :
    Writable (room + 4) (encodeBehaviors behaviors) :=
  writable_list fun w mem => WeightedBehavior.writable (List.forall_mem_flatMap.mp back w mem)

end Playfield
