import Playfield.Proofs.Scene.RoundTrip.Behavior

/-!
Objects are read back from JSON.

An object and its kind share one JSON object, and so do a figure and its paint. Each part is read
back from any pairs that hold its slots, whatever else they hold, and the parts are put together at
the end, where the names of all of them are known to be distinct.
-/

namespace Playfield

open Formula (Animated Color)
open Json

/-! ### Properties -/

/-- The number of a property; a formula has none. -/
def Formula.Animated.numbers : Animated Float32 → List Float32
  | .formula _ => []
  | .literal x => [x]

/-- A literal is told from a formula by its form, so a finite number is read back as a literal. -/
theorem returns_number {a : Animated Float32} (finite : ∀ x ∈ a.numbers, x.isFinite) :
    Returns encodeNumber decodeNumber a := by
  cases a with
  | formula source => rfl
  | literal x =>
    have real : ofReal x = .real x := ofReal_of_isFinite (finite x (by simp [Animated.numbers]))
    rw [Returns, encodeNumber, encodeAnimated, real]
    rfl

/-- A property that is true, false or a formula is read back. -/
theorem returns_truth (a : Animated Bool) : Returns encodeTruth decodeTruth a := by
  cases a <;> rfl

/-- A literal text is never taken for a formula, whatever it says. -/
theorem returns_content (a : Animated String) : Returns encodeContent decodeContent a := by
  cases a <;> rfl

/-- The color that is none is told from one that is absent. -/
theorem returns_color (a : Animated Color) : Returns encodeColor decodeColor a := by
  obtain source | (_ | color) := a <;> rfl

section Holds

variable {slots : Slots} {pairs : List (String × Json)} {name : String}

/-- A property that may be left out is read back, absent or not. -/
theorem Json.Holds.optional_number (h : Holds slots pairs) {value : Option (Animated Float32)}
    (finite : ∀ x ∈ value.toList.flatMap Animated.numbers, x.isFinite)
    (found : slots.lookup name = some (value.map encodeNumber)) :
    Record.optional ⟨pairs⟩ name decodeNumber = .ok value :=
  h.optional (fun a is => returns_number (forall_mem_optional.mp finite a is)) found rfl

/-- A color that is absent is told from one that is no paint. -/
theorem Json.Holds.present_color (h : Holds slots pairs) {value : Option (Animated Color)}
    (found : slots.lookup name = some (value.map encodeColor)) :
    Record.present ⟨pairs⟩ name decodeColor = .ok value :=
  h.present (fun a _ => returns_color a) found

end Holds

section Writable

variable {room : Nat}

/-- A formula is written as an object with its source. -/
theorem writable_formula (source : String) :
    Writable (room + 1) (.object [("formula", .text source)]) :=
  .object (by simpa using .text source)

/-- A number that reads back can be written, and every formula. -/
theorem writable_number {a : Animated Float32} (back : ∀ x ∈ a.numbers, ReadsBack x) :
    Writable (room + 1) (encodeNumber a) := by
  cases a with
  | formula source => exact writable_formula source
  | literal x => exact writable_real (back x (by simp [Animated.numbers]))

theorem writable_truth (a : Animated Bool) : Writable (room + 1) (encodeTruth a) := by
  cases a with
  | formula source => exact writable_formula source
  | literal value => exact .bool value

theorem writable_content (a : Animated String) : Writable (room + 1) (encodeContent a) := by
  cases a with
  | formula source => exact writable_formula source
  | literal content => exact .text content

/-- No paint is written as a null. -/
theorem writable_color (a : Animated Color) : Writable (room + 1) (encodeColor a) := by
  obtain source | (_ | color) := a
  · exact writable_formula source
  · exact .null
  · exact .text color

theorem writable_optional_number {value : Option (Animated Float32)}
    (back : ∀ x ∈ value.toList.flatMap Animated.numbers, ReadsBack x) :
    ∀ a ∈ value, Writable (room + 1) (encodeNumber a) :=
  fun _ is => writable_number (forall_mem_optional.mp back _ is)

end Writable

/-! ### Trails and paint -/

namespace TrailStyle

def numbers (t : TrailStyle) : List Float32 :=
  [t.opacity, t.width]

def slots (t : TrailStyle) : Slots :=
  [("length", some (ofNat t.length)), ("color", some (.text t.color)),
    ("opacity", some (ofReal t.opacity)), ("width", some (ofReal t.width))]

variable {t : TrailStyle}

/-- The names of a trail's fields differ. -/
theorem holds (t : TrailStyle) : Holds t.slots t.slots.written :=
  Slots.holds_written (show fields.Nodup by decide)

/-- A trail with finite numbers and a length of one word is read back. -/
theorem returns (finite : ∀ x ∈ t.numbers, x.isFinite) (fits : t.length < UInt64.size) :
    Returns encode decode t := by
  have h := t.holds
  obtain ⟨opacity, width⟩ : t.opacity.isFinite ∧ t.width.isFinite := by simpa [numbers] using finite
  refine bind_ok (h.record _) ?_
  refine bind_ok (h.required (returns_word64 fits) rfl) ?_
  refine bind_ok (h.required (returns_text t.color) rfl) ?_
  refine bind_ok (h.required (returns_real opacity) rfl) ?_
  exact bind_ok (h.required (returns_real width) rfl) rfl

/-- A trail can be written in full, its length as a whole number. -/
theorem writable (back : ∀ x ∈ t.numbers, ReadsBack x) (fits : t.length < UInt64.size)
    {room : Nat} : Writable (room + 1) t.encode := by
  obtain ⟨opacity, width⟩ : ReadsBack t.opacity ∧ ReadsBack t.width := by simpa [numbers] using back
  exact Slots.Writable.object (.some (.nat fits) (.some (.text t.color)
    (.some (writable_real opacity) (.some (writable_real width) .nil))))

end TrailStyle

namespace Paint

def numbers (p : Paint) : List Float32 :=
  p.strokeWidth.toList

def slots (p : Paint) : Slots :=
  [("fill", p.fill.map encodeColor), ("stroke", p.stroke.map encodeColor),
    ("strokeWidth", p.strokeWidth.map ofReal)]

variable {p : Paint} {pairs : List (String × Json)}

/-- Paint is written slot by slot among the fields of an object. -/
theorem encodeFields_eq (p : Paint) : p.encodeFields = p.slots.written := by
  simp [encodeFields, slots]

/-- Paint is read back from any pairs that hold it, other fields beside it. -/
theorem decode_eq (h : Holds p.slots pairs) (finite : ∀ x ∈ p.numbers, x.isFinite) :
    decode ⟨pairs⟩ = .ok p := by
  refine bind_ok (h.present_color rfl) ?_
  refine bind_ok (h.present_color rfl) ?_
  exact bind_ok (h.optional_real finite rfl) rfl

theorem slots_writable (back : ∀ x ∈ p.numbers, ReadsBack x) {room : Nat} :
    p.slots.Writable (room + 1) :=
  .map (fun a _ => writable_color a) (.map (fun a _ => writable_color a)
    (.map (writable_optional_real back) .nil))

end Paint

/-! ### Kinds of objects -/

namespace Ellipse

def numbers (e : Ellipse) : List Float32 :=
  e.width.toList.flatMap Animated.numbers ++ e.height.toList.flatMap Animated.numbers ++
    e.paint.numbers

def slots (e : Ellipse) : Slots :=
  [("width", e.width.map encodeNumber), ("height", e.height.map encodeNumber)] ++ e.paint.slots

variable {e : Ellipse} {pairs : List (String × Json)}

/-- An ellipse is read back from pairs that hold its size and its paint. -/
theorem decode_eq (h : Holds e.slots pairs) (finite : ∀ x ∈ e.numbers, x.isFinite) :
    decode pairs = .ok e := by
  simp only [numbers, List.forall_mem_append, and_assoc] at finite
  obtain ⟨width, height, paint⟩ := finite
  refine bind_ok (h.objectRecord _) ?_
  refine bind_ok (h.optional_number width rfl) ?_
  refine bind_ok (h.optional_number height rfl) ?_
  exact bind_ok (Paint.decode_eq h.rest paint) rfl

/-- An ellipse can be written if the numbers of its size and its paint read back. -/
theorem slots_writable (back : ∀ x ∈ e.numbers, ReadsBack x) {room : Nat} :
    e.slots.Writable (room + 1) := by
  simp only [numbers, List.forall_mem_append, and_assoc] at back
  obtain ⟨width, height, paint⟩ := back
  exact .map (writable_optional_number width) (.map (writable_optional_number height)
    (Paint.slots_writable paint))

end Ellipse

namespace Rect

def numbers (r : Rect) : List Float32 :=
  r.width.toList.flatMap Animated.numbers ++ r.height.toList.flatMap Animated.numbers ++
    r.borderRadius.toList ++ r.paint.numbers

def slots (r : Rect) : Slots :=
  [("width", r.width.map encodeNumber), ("height", r.height.map encodeNumber),
    ("borderRadius", r.borderRadius.map ofReal)] ++ r.paint.slots

variable {r : Rect} {pairs : List (String × Json)}

/-- A rectangle is read back from pairs that hold its size, its corners and its paint. -/
theorem decode_eq (h : Holds r.slots pairs) (finite : ∀ x ∈ r.numbers, x.isFinite) :
    decode pairs = .ok r := by
  simp only [numbers, List.forall_mem_append, and_assoc] at finite
  obtain ⟨width, height, borderRadius, paint⟩ := finite
  refine bind_ok (h.objectRecord _) ?_
  refine bind_ok (h.optional_number width rfl) ?_
  refine bind_ok (h.optional_number height rfl) ?_
  refine bind_ok (h.optional_real borderRadius rfl) ?_
  exact bind_ok (Paint.decode_eq h.rest paint) rfl

theorem slots_writable (back : ∀ x ∈ r.numbers, ReadsBack x) {room : Nat} :
    r.slots.Writable (room + 1) := by
  simp only [numbers, List.forall_mem_append, and_assoc] at back
  obtain ⟨width, height, borderRadius, paint⟩ := back
  exact .map (writable_optional_number width) (.map (writable_optional_number height)
    (.map (writable_optional_real borderRadius) (Paint.slots_writable paint)))

end Rect

namespace Line

def numbers (l : Line) : List Float32 :=
  l.x2.toList.flatMap Animated.numbers ++ l.y2.toList.flatMap Animated.numbers ++
    l.strokeWidth.toList

def slots (l : Line) : Slots :=
  [("x2", l.x2.map encodeNumber), ("y2", l.y2.map encodeNumber),
    ("stroke", l.stroke.map encodeColor), ("strokeWidth", l.strokeWidth.map ofReal)]

variable {l : Line} {pairs : List (String × Json)}

/-- A line is read back from pairs that hold its end and its stroke. -/
theorem decode_eq (h : Holds l.slots pairs) (finite : ∀ x ∈ l.numbers, x.isFinite) :
    decode pairs = .ok l := by
  simp only [numbers, List.forall_mem_append, and_assoc] at finite
  obtain ⟨x2, y2, strokeWidth⟩ := finite
  refine bind_ok (h.objectRecord _) ?_
  refine bind_ok (h.optional_number x2 rfl) ?_
  refine bind_ok (h.optional_number y2 rfl) ?_
  refine bind_ok (h.present_color rfl) ?_
  exact bind_ok (h.optional_real strokeWidth rfl) rfl

theorem slots_writable (back : ∀ x ∈ l.numbers, ReadsBack x) {room : Nat} :
    l.slots.Writable (room + 1) := by
  simp only [numbers, List.forall_mem_append, and_assoc] at back
  obtain ⟨x2, y2, strokeWidth⟩ := back
  exact .map (writable_optional_number x2) (.map (writable_optional_number y2)
    (.map (fun a _ => writable_color a) (.map (writable_optional_real strokeWidth) .nil)))

end Line

namespace Arc

def numbers (a : Arc) : List Float32 :=
  a.radiusX.toList.flatMap Animated.numbers ++ a.radiusY.toList.flatMap Animated.numbers ++
    a.startAngle.toList.flatMap Animated.numbers ++ a.endAngle.toList.flatMap Animated.numbers ++
    a.paint.numbers

def slots (a : Arc) : Slots :=
  [("radiusX", a.radiusX.map encodeNumber), ("radiusY", a.radiusY.map encodeNumber),
    ("startAngle", a.startAngle.map encodeNumber), ("endAngle", a.endAngle.map encodeNumber),
    ("counterclockwise", some (.bool a.counterclockwise))] ++ a.paint.slots

variable {a : Arc} {pairs : List (String × Json)}

/-- An arc is read back from pairs that hold its radii, its angles and its paint. -/
theorem decode_eq (h : Holds a.slots pairs) (finite : ∀ x ∈ a.numbers, x.isFinite) :
    decode pairs = .ok a := by
  simp only [numbers, List.forall_mem_append, and_assoc] at finite
  obtain ⟨radiusX, radiusY, startAngle, endAngle, paint⟩ := finite
  refine bind_ok (h.objectRecord _) ?_
  refine bind_ok (h.optional_number radiusX rfl) ?_
  refine bind_ok (h.optional_number radiusY rfl) ?_
  refine bind_ok (h.optional_number startAngle rfl) ?_
  refine bind_ok (h.optional_number endAngle rfl) ?_
  refine bind_ok (h.withDefault (returns_bool a.counterclockwise) rfl) ?_
  exact bind_ok (Paint.decode_eq h.rest paint) rfl

/-- An arc can be written if its radii, its angles and the numbers of its paint read back. -/
theorem slots_writable (back : ∀ x ∈ a.numbers, ReadsBack x) {room : Nat} :
    a.slots.Writable (room + 1) := by
  simp only [numbers, List.forall_mem_append, and_assoc] at back
  obtain ⟨radiusX, radiusY, startAngle, endAngle, paint⟩ := back
  exact .map (writable_optional_number radiusX) (.map (writable_optional_number radiusY)
    (.map (writable_optional_number startAngle) (.map (writable_optional_number endAngle)
      (.some (.bool a.counterclockwise) (Paint.slots_writable paint)))))

end Arc

/-- The alignments have tags that differ. -/
theorem Align.returns (a : Align) : Returns encode decode a := by
  cases a <;> rfl

theorem Align.writable (a : Align) {room : Nat} : Writable room a.encode := by
  cases a <;> exact .text _

namespace Label

def numbers (t : Label) : List Float32 :=
  t.fontSize.toList

def slots (t : Label) : Slots :=
  [("text", t.text.map encodeContent), ("fontSize", t.fontSize.map ofReal),
    ("fontFamily", t.fontFamily.map .text), ("fill", t.fill.map encodeColor),
    ("align", some t.align.encode)]

variable {t : Label} {pairs : List (String × Json)}

/-- A text is read back from pairs that hold its content, its font and its fill. -/
theorem decode_eq (h : Holds t.slots pairs) (finite : ∀ x ∈ t.numbers, x.isFinite) :
    decode pairs = .ok t := by
  refine bind_ok (h.objectRecord _) ?_
  refine bind_ok (h.optional (fun a _ => returns_content a) rfl rfl) ?_
  refine bind_ok (h.optional_real finite rfl) ?_
  refine bind_ok (h.optional_text rfl) ?_
  refine bind_ok (h.present_color rfl) ?_
  exact bind_ok (h.withDefault t.align.returns rfl) rfl

theorem slots_writable (back : ∀ x ∈ t.numbers, ReadsBack x) {room : Nat} :
    t.slots.Writable (room + 1) :=
  .map (fun a _ => writable_content a) (.map (writable_optional_real back)
    (.map (fun a _ => .text a) (.map (fun a _ => writable_color a) (.some t.align.writable .nil))))

end Label

/-- What happens at the edges is told by its tag. -/
theorem Edges.returns (e : Edges) : Returns encode decode e := by
  cases e <;> rfl

theorem Edges.writable (e : Edges) {room : Nat} : Writable room e.encode := by
  cases e <;> exact .text _

namespace Agent

def numbers (a : Agent) : List Float32 :=
  a.width.toList.flatMap Animated.numbers ++ a.height.toList.flatMap Animated.numbers ++
    a.paint.numbers ++ a.mass.toList ++ a.maxSpeed.toList ++ a.maxForce.toList ++
    a.damping.toList ++ a.vx.toList ++ a.vy.toList ++
    a.behaviors.flatMap WeightedBehavior.numbers

def slots (a : Agent) : Slots :=
  [("width", a.width.map encodeNumber), ("height", a.height.map encodeNumber)] ++ (a.paint.slots ++
    [("mass", a.mass.map ofReal), ("maxSpeed", a.maxSpeed.map ofReal),
      ("maxForce", a.maxForce.map ofReal), ("damping", a.damping.map ofReal),
      ("vx", a.vx.map ofReal), ("vy", a.vy.map ofReal), ("edges", some a.edges.encode),
      ("behaviors", some (encodeBehaviors a.behaviors))])

variable {a : Agent} {pairs : List (String × Json)}

/-- An agent is read back from pairs that hold its motion, its behaviors and its looks. -/
theorem decode_eq (h : Holds a.slots pairs) (finite : ∀ x ∈ a.numbers, x.isFinite) :
    decode pairs = .ok a := by
  simp only [numbers, List.forall_mem_append, and_assoc] at finite
  obtain ⟨width, height, paint, mass, maxSpeed, maxForce, damping, vx, vy, behaviors⟩ := finite
  refine bind_ok (h.objectRecord _) ?_
  refine bind_ok (h.optional_number width rfl) ?_
  refine bind_ok (h.optional_number height rfl) ?_
  refine bind_ok (Paint.decode_eq h.rest.front paint) ?_
  refine bind_ok (h.optional_real mass rfl) ?_
  refine bind_ok (h.optional_real maxSpeed rfl) ?_
  refine bind_ok (h.optional_real maxForce rfl) ?_
  refine bind_ok (h.optional_real damping rfl) ?_
  refine bind_ok (h.optional_real vx rfl) ?_
  refine bind_ok (h.optional_real vy rfl) ?_
  refine bind_ok (h.withDefault a.edges.returns rfl) ?_
  exact bind_ok (h.withDefault (returns_behaviors behaviors) rfl) rfl

/-- The behaviors of an agent are what is nested deepest in it. -/
theorem slots_writable (back : ∀ x ∈ a.numbers, ReadsBack x) {room : Nat} :
    a.slots.Writable (room + 4) := by
  simp only [numbers, List.forall_mem_append, and_assoc] at back
  obtain ⟨width, height, paint, mass, maxSpeed, maxForce, damping, vx, vy, behaviors⟩ := back
  refine .map (writable_optional_number width) (.map (writable_optional_number height) ?_)
  refine (Paint.slots_writable paint).append ?_
  refine .map (writable_optional_real mass) (.map (writable_optional_real maxSpeed) ?_)
  refine .map (writable_optional_real maxForce) (.map (writable_optional_real damping) ?_)
  refine .map (writable_optional_real vx) (.map (writable_optional_real vy) ?_)
  exact .some a.edges.writable (.some (writable_behaviors behaviors) .nil)

end Agent

namespace ObjectKind

def numbers : ObjectKind → List Float32
  | .ellipse figure => figure.numbers
  | .rect figure => figure.numbers
  | .line figure => figure.numbers
  | .arc figure => figure.numbers
  | .text figure => figure.numbers
  | .agent a => a.numbers
  | .group | .unknown => []

def slots : ObjectKind → Slots
  | .ellipse figure => figure.slots
  | .rect figure => figure.slots
  | .line figure => figure.slots
  | .arc figure => figure.slots
  | .text figure => figure.slots
  | .agent a => a.slots
  | .group | .unknown => []

variable {k : ObjectKind} {pairs : List (String × Json)}

/-- The fields of an object that belong to its kind are written slot by slot. -/
theorem encodeFields_eq (k : ObjectKind) : k.encodeFields = k.slots.written := by
  cases k <;> simp [encodeFields, slots, Paint.encodeFields_eq, Ellipse.slots, Rect.slots,
    Line.slots, Arc.slots, Label.slots, Agent.slots]

/-- A kind is read back by its name from pairs that hold its fields. -/
theorem decodeTagged_eq (h : Holds k.slots pairs) (finite : ∀ x ∈ k.numbers, x.isFinite) :
    decodeTagged k.name pairs = .ok k := by
  cases k with
  | ellipse figure => exact congrArg (Except.map ObjectKind.ellipse) (Ellipse.decode_eq h finite)
  | rect figure => exact congrArg (Except.map ObjectKind.rect) (Rect.decode_eq h finite)
  | line figure => exact congrArg (Except.map ObjectKind.line) (Line.decode_eq h finite)
  | arc figure => exact congrArg (Except.map ObjectKind.arc) (Arc.decode_eq h finite)
  | text figure => exact congrArg (Except.map ObjectKind.text) (Label.decode_eq h finite)
  | agent a => exact congrArg (Except.map ObjectKind.agent) (Agent.decode_eq h finite)
  | group | unknown => rfl

/-- The fields of any kind can be written if the numbers in them read back. -/
theorem slots_writable (back : ∀ x ∈ k.numbers, ReadsBack x) {room : Nat} :
    k.slots.Writable (room + 4) := by
  cases k with
  | ellipse figure => exact Ellipse.slots_writable back
  | rect figure => exact Rect.slots_writable back
  | line figure => exact Line.slots_writable back
  | arc figure => exact Arc.slots_writable back
  | text figure => exact Label.slots_writable back
  | agent a => exact Agent.slots_writable back
  | group | unknown => exact .nil

end ObjectKind

/-! ### Objects -/

namespace SceneObject

def numbers (o : SceneObject) : List Float32 :=
  o.x.toList.flatMap Animated.numbers ++ o.y.toList.flatMap Animated.numbers ++
    o.opacity.toList.flatMap Animated.numbers ++ [o.layer] ++
    o.trail.toList.flatMap TrailStyle.numbers ++ o.kind.numbers

/-- How many positions the trail of an object keeps, if it has one. -/
def counts (o : SceneObject) : List Nat :=
  o.trail.toList.map TrailStyle.length

/-- The slots of an object without those of its kind. -/
def ownSlots (o : SceneObject) : Slots :=
  [("id", some (.text o.id)), ("parent", o.parent.map .text), ("x", o.x.map encodeNumber),
    ("y", o.y.map encodeNumber), ("opacity", o.opacity.map encodeNumber),
    ("visible", o.visible.map encodeTruth), ("layer", some (ofReal o.layer)),
    ("trail", o.trail.map TrailStyle.encode), ("type", some (.text o.kind.name))]

def slots (o : SceneObject) : Slots :=
  o.ownSlots ++ o.kind.slots

variable {o : SceneObject}

/-- An object is written slot by slot, the fields of its kind after those of all objects. -/
theorem encode_eq (o : SceneObject) : o.encode = .object o.slots.written := by
  simp [encode, slots, ownSlots, ObjectKind.encodeFields_eq]

/-- No field of a kind has the name of a field that all objects have. -/
theorem holds (o : SceneObject) : Holds o.slots o.slots.written := by
  refine Slots.holds_written ?_
  obtain ⟨_, _, _, _, _, _, _, _, kind⟩ := o
  cases kind <;> simp [slots, ownSlots, Slots.names, ObjectKind.slots, Ellipse.slots, Rect.slots,
    Line.slots, Arc.slots, Label.slots, Agent.slots, Paint.slots]

/-- An object with finite numbers and a trail of a length of one word is read back. -/
theorem returns (finite : ∀ x ∈ o.numbers, x.isFinite) (fits : ∀ n ∈ o.counts, n < UInt64.size) :
    Returns encode decode o := by
  have h := o.holds
  simp only [numbers, List.forall_mem_append, and_assoc] at finite
  obtain ⟨x, y, opacity, layer, trail, kind⟩ := finite
  have layer : o.layer.isFinite := layer _ (by simp)
  have trail : ∀ t ∈ o.trail, Returns TrailStyle.encode TrailStyle.decode t := fun t is =>
    TrailStyle.returns (forall_mem_optional.mp trail t is) 
      (fits _ (List.mem_map_of_mem (Option.mem_toList.mpr is)))
  rw [Returns, encode_eq]
  refine bind_ok (h.objectRecord _) ?_
  refine bind_ok (h.required (returns_tag _ o.kind.name) rfl) ?_
  refine bind_ok (h.required (returns_text o.id) rfl) ?_
  refine bind_ok (h.optional_text rfl) ?_
  refine bind_ok (h.optional_number x rfl) ?_
  refine bind_ok (h.optional_number y rfl) ?_
  refine bind_ok (h.optional_number opacity rfl) ?_
  refine bind_ok (h.optional (fun a _ => returns_truth a) rfl rfl) ?_
  refine bind_ok (h.withDefault (returns_real layer) rfl) ?_
  refine bind_ok (h.optional trail rfl rfl) ?_
  exact bind_ok (ObjectKind.decodeTagged_eq h.rest kind) rfl

/-- An object can be written in full if its numbers read back. -/
theorem writable (back : ∀ x ∈ o.numbers, ReadsBack x) (fits : ∀ n ∈ o.counts, n < UInt64.size)
    {room : Nat} : Writable (room + 5) o.encode := by
  simp only [numbers, List.forall_mem_append, and_assoc] at back
  obtain ⟨x, y, opacity, layer, trail, kind⟩ := back
  have trail : ∀ t ∈ o.trail, Writable (room + 4) t.encode := fun t is =>
    TrailStyle.writable (forall_mem_optional.mp trail t is)
      (fits _ (List.mem_map_of_mem (Option.mem_toList.mpr is)))
  rw [encode_eq]
  refine Slots.Writable.object (.append ?_ (ObjectKind.slots_writable kind))
  refine .some (.text o.id) (.map (fun a _ => .text a) ?_)
  refine .map (writable_optional_number x) (.map (writable_optional_number y) ?_)
  refine .map (writable_optional_number opacity) (.map (fun a _ => writable_truth a) ?_)
  refine .some (writable_real (layer _ (by simp))) (.map trail ?_)
  exact .some (.text o.kind.name) .nil

end SceneObject

end Playfield
