import Playfield.Proofs.Scene.RoundTrip.Object

/-!
Scenes are read back from JSON, as values and as texts.

A text is read with more care than a value: names that nobody asks for are left out first, and what
remains must be readable. A scene writes none but names that it knows, so nothing is left out of it.
-/

namespace Playfield

open Json

/-! ### Events and keyframes -/

namespace EventKind

def numbers : EventKind → List Float32
  | .shot _ x y _ => x.toList ++ y.toList
  | .behavior _ behaviors => behaviors.flatMap WeightedBehavior.numbers
  | .possession _ _ | .pass _ _ _ | .timeout | .release _ | .other => []

def slots : EventKind → Slots
  | .possession agent ball => [("agent", some (.text agent)), ("ball", ball.map .text)]
  | .pass sender receiver ball =>
    [("from", sender.map .text), ("to", some (.text receiver)), ("ball", ball.map .text)]
  | .shot shooter x y ball =>
    [("from", shooter.map .text), ("x", x.map ofReal), ("y", y.map ofReal),
      ("ball", ball.map .text)]
  | .behavior agent behaviors =>
    [("agent", some (.text agent)), ("behaviors", some (encodeBehaviors behaviors))]
  | .release agent => [("agent", agent.map .text)]
  | .timeout | .other => []

variable {k : EventKind} {pairs : List (String × Json)}

/-- What belongs to the kind of an event is written slot by slot. -/
theorem encodeFields_eq (k : EventKind) : k.encodeFields = k.slots.written := by
  cases k <;> simp [encodeFields, slots]

/-- A kind of event is read back by its tag from pairs that hold its fields. -/
theorem decodeTagged_eq (h : Holds k.slots pairs) (finite : ∀ x ∈ k.numbers, x.isFinite) :
    decodeTagged k.tag pairs = .ok k := by
  cases k with
  | possession agent ball =>
    refine bind_ok (h.objectRecord _) ?_
    refine bind_ok (h.required (returns_text agent) rfl) ?_
    exact bind_ok (h.optional_text rfl) rfl
  | pass sender receiver ball =>
    refine bind_ok (h.objectRecord _) ?_
    refine bind_ok (h.optional_text rfl) ?_
    refine bind_ok (h.required (returns_text receiver) rfl) ?_
    exact bind_ok (h.optional_text rfl) rfl
  | shot shooter x y ball =>
    obtain ⟨x, y⟩ := List.forall_mem_append.mp finite
    refine bind_ok (h.objectRecord _) ?_
    refine bind_ok (h.optional_text rfl) ?_
    refine bind_ok (h.optional_real x rfl) ?_
    refine bind_ok (h.optional_real y rfl) ?_
    exact bind_ok (h.optional_text rfl) rfl
  | behavior agent behaviors =>
    refine bind_ok (h.objectRecord _) ?_
    refine bind_ok (h.required (returns_text agent) rfl) ?_
    exact bind_ok (h.required (returns_behaviors finite) rfl) rfl
  | release agent =>
    refine bind_ok (h.objectRecord _) ?_
    exact bind_ok (h.optional_text rfl) rfl
  | timeout | other => rfl

/-- The behaviors that an event assigns are what is nested deepest in it. -/
theorem slots_writable (back : ∀ x ∈ k.numbers, ReadsBack x) {room : Nat} :
    k.slots.Writable (room + 4) := by
  cases k with
  | possession agent ball => exact .some (.text agent) (.map (fun a _ => .text a) .nil)
  | pass sender receiver ball =>
    exact .map (fun a _ => .text a) (.some (.text receiver) (.map (fun a _ => .text a) .nil))
  | shot shooter x y ball =>
    obtain ⟨x, y⟩ := List.forall_mem_append.mp back
    exact .map (fun a _ => .text a) (.map (writable_optional_real x)
      (.map (writable_optional_real y) (.map (fun a _ => .text a) .nil)))
  | behavior agent behaviors => exact .some (.text agent) (.some (writable_behaviors back) .nil)
  | release agent => exact .map (fun a _ => .text a) .nil
  | timeout | other => exact .nil

end EventKind

namespace Event

def slots (e : Event) : Slots :=
  [("frame", some (ofNat e.frame)), ("type", some (.text e.kind.tag))] ++ e.kind.slots

variable {e : Event}

/-- An event is written with its frame and its tag before the fields of its kind. -/
theorem encode_eq (e : Event) : e.encode = .object e.slots.written := by
  simp [encode, slots, EventKind.encodeFields_eq]

/-- No field of a kind of event is called as its frame or its tag is. -/
theorem holds (e : Event) : Holds e.slots e.slots.written := by
  refine Slots.holds_written ?_
  obtain ⟨frame, kind⟩ := e
  cases kind <;> simp [slots, EventKind.slots, Slots.names]

/-- An event on a frame of one word is read back, if the numbers in it are finite. -/
theorem returns (finite : ∀ x ∈ e.kind.numbers, x.isFinite) (fits : e.frame < UInt64.size) :
    Returns encode decode e := by
  have h := e.holds
  rw [Returns, encode_eq]
  refine bind_ok (h.objectRecord _) ?_
  refine bind_ok (h.required (returns_tag _ e.kind.tag) rfl) ?_
  refine bind_ok (h.required (returns_word64 fits) rfl) ?_
  exact bind_ok (EventKind.decodeTagged_eq h.rest finite) rfl

theorem writable (back : ∀ x ∈ e.kind.numbers, ReadsBack x) (fits : e.frame < UInt64.size)
    {room : Nat} : Writable (room + 5) e.encode := by
  rw [encode_eq]
  exact Slots.Writable.object (.append (.some (.nat fits) (.some (.text e.kind.tag) .nil))
    (EventKind.slots_writable back))

end Event

namespace Keyframe

def slots (k : Keyframe) : Slots :=
  [("frame", some (ofNat k.frame)), ("agent", some (.text k.agent)),
    ("x", some (ofReal k.position.x)), ("y", some (ofReal k.position.y))]

variable {k : Keyframe}

/-- The names of a keyframe's fields differ. -/
theorem holds (k : Keyframe) : Holds k.slots k.slots.written :=
  Slots.holds_written (show fields.Nodup by decide)

/-- A keyframe at a finite place, on a frame of one word, is read back. -/
theorem returns (finite : ∀ x ∈ k.position.numbers, x.isFinite) (fits : k.frame < UInt64.size) :
    Returns encode decode k := by
  have h := k.holds
  obtain ⟨x, y⟩ := Vec2.forall_numbers.mp finite
  refine bind_ok (h.record _) ?_
  refine bind_ok (h.required (returns_word64 fits) rfl) ?_
  refine bind_ok (h.required (returns_text k.agent) rfl) ?_
  refine bind_ok (h.required (returns_real x) rfl) ?_
  exact bind_ok (h.required (returns_real y) rfl) rfl

theorem writable (back : ∀ x ∈ k.position.numbers, ReadsBack x) (fits : k.frame < UInt64.size)
    {room : Nat} : Writable (room + 1) k.encode := by
  obtain ⟨x, y⟩ := Vec2.forall_numbers.mp back
  exact Slots.Writable.object (.some (.nat fits) (.some (.text k.agent)
    (.some (writable_real x) (.some (writable_real y) .nil))))

end Keyframe

/-! ### Courts -/

/-- The variants of a court have tags that differ. -/
theorem CourtVariant.returns (v : CourtVariant) : Returns encode decode v := by
  cases v <;> rfl

theorem CourtVariant.writable (v : CourtVariant) {room : Nat} : Writable room v.encode := by
  cases v <;> exact .text _

namespace Court

def slots (c : Court) : Slots :=
  [("sport", some (.text c.sport)), ("variant", some c.variant.encode)]

theorem holds (c : Court) : Holds c.slots c.slots.written :=
  Slots.holds_written (show fields.Nodup by decide)

/-- A court holds no numbers, so it is always read back. -/
theorem returns (c : Court) : Returns encode decode c := by
  have h := c.holds
  refine bind_ok (h.record _) ?_
  refine bind_ok (h.withDefault (returns_text c.sport) rfl) ?_
  exact bind_ok (h.withDefault c.variant.returns rfl) rfl

theorem writable (c : Court) {room : Nat} : Writable (room + 1) c.encode :=
  Slots.Writable.object (.some (.text c.sport) (.some c.variant.writable .nil))

end Court

/-! ### Scenes -/

/-- A list, if it has an item. -/
def nonempty? (items : List α) : Option (List α) :=
  if items.isEmpty then none else some items

/-- A list is left out of an object when it is empty, like a value that is absent. -/
theorem pairUnlessEmpty_eq (name : String) (items : List α) (encode : α → Json) :
    pairUnlessEmpty name items encode =
      pair? name (nonempty? items) fun items => .list (items.map encode) := by
  cases items <;> rfl

/-- A list that is left out is read back as the empty one. -/
theorem Json.Holds.unlessEmpty {slots : Slots} {pairs : List (String × Json)} {name : String}
    {encode : α → Json} {decode : Json → Decoded α} {items : List α} (h : Holds slots pairs)
    (each : ∀ a ∈ items, Returns encode decode a)
    (found : slots.lookup name =
      some ((nonempty? items).map fun items => .list (items.map encode))) :
    Record.withDefault ⟨pairs⟩ name [] (decodeList decode) = .ok items := by
  cases items with
  | nil => rw [Record.withDefault, h.get? found]; rfl
  | cons first rest => exact h.withDefault (returns_list each) found

/-- A list that may be left out can be written if each of its elements can. -/
theorem Json.Slots.Writable.unlessEmpty {α : Type} {slots : Slots} {room : Nat} {name : String}
    {encode : α → Json} {items : List α} (each : ∀ a ∈ items, Json.Writable room (encode a))
    (rest : slots.Writable (room + 1)) :
    Slots.Writable (room + 1)
      ((name, (nonempty? items).map fun items => .list (items.map encode)) :: slots) := by
  refine .map (fun some is => ?_) rest
  obtain rfl : items = some := by
    cases items with
    | nil => contradiction
    | cons => exact Option.some.inj is
  exact writable_list each

namespace Scene

/-- The numbers of a scene. -/
def numbers (s : Scene) : List Float32 :=
  s.width.toList ++ s.height.toList ++ s.fps.toList ++ s.objects.flatMap SceneObject.numbers ++
    s.events.flatMap (·.kind.numbers) ++ s.keyframes.flatMap (·.position.numbers)

/-- The frames of a scene, and how many positions its trails keep. -/
def counts (s : Scene) : List Nat :=
  s.objects.flatMap SceneObject.counts ++ s.events.map Event.frame ++ s.keyframes.map Keyframe.frame

def slots (s : Scene) : Slots :=
  [("background", s.background.map .text), ("width", s.width.map ofReal),
    ("height", s.height.map ofReal), ("fps", s.fps.map ofReal),
    ("objects", some (.list (s.objects.map SceneObject.encode))),
    ("events", (nonempty? s.events).map fun items => .list (items.map Event.encode)),
    ("keyframes", (nonempty? s.keyframes).map fun items => .list (items.map Keyframe.encode)),
    ("courtTransform", s.court.map Court.encode)]

variable {s : Scene}

/-- A scene is written slot by slot; events and keyframes are left out where there are none. -/
theorem encode_eq (s : Scene) : s.encode = .object s.slots.written := by
  simp [encode, slots, pairUnlessEmpty_eq]

/-- The names of a scene's fields differ. -/
theorem holds (s : Scene) : Holds s.slots s.slots.written :=
  Slots.holds_written (show fields.Nodup by decide)

/-- A scene with finite numbers and counts of one word is read back. -/
theorem returns (finite : ∀ x ∈ s.numbers, x.isFinite) (fits : ∀ n ∈ s.counts, n < UInt64.size) :
    Returns encode decode s := by
  have h := s.holds
  simp only [numbers, List.forall_mem_append, List.forall_mem_flatMap, and_assoc] at finite
  obtain ⟨width, height, fps, objects, events, keyframes⟩ := finite
  simp only [counts, List.forall_mem_append, List.forall_mem_flatMap, List.forall_mem_map,
    and_assoc] at fits
  obtain ⟨lengths, eventFrames, keyframeFrames⟩ := fits
  rw [Returns, encode_eq]
  refine bind_ok (h.record _) ?_
  refine bind_ok (h.optional_text rfl) ?_
  refine bind_ok (h.optional_real width rfl) ?_
  refine bind_ok (h.optional_real height rfl) ?_
  refine bind_ok (h.optional_real fps rfl) ?_
  refine bind_ok (h.withDefault (returns_list fun o mem =>
    SceneObject.returns (objects o mem) (lengths o mem)) rfl) ?_
  refine bind_ok (h.unlessEmpty (fun e mem =>
    Event.returns (events e mem) (eventFrames e mem)) rfl) ?_
  refine bind_ok (h.unlessEmpty (fun k mem =>
    Keyframe.returns (keyframes k mem) (keyframeFrames k mem)) rfl) ?_
  exact bind_ok (h.optional (fun c _ => c.returns) rfl rfl) rfl

/-- A scene can be written in full if its numbers read back. -/
theorem writable (back : ∀ x ∈ s.numbers, ReadsBack x) (fits : ∀ n ∈ s.counts, n < UInt64.size)
    {room : Nat} : Writable (room + 7) s.encode := by
  simp only [numbers, List.forall_mem_append, List.forall_mem_flatMap, and_assoc] at back
  obtain ⟨width, height, fps, objects, events, keyframes⟩ := back
  simp only [counts, List.forall_mem_append, List.forall_mem_flatMap, List.forall_mem_map,
    and_assoc] at fits
  obtain ⟨lengths, eventFrames, keyframeFrames⟩ := fits
  rw [encode_eq]
  refine Slots.Writable.object ?_
  refine .map (fun a _ => .text a) (.map (writable_optional_real width) ?_)
  refine .map (writable_optional_real height) (.map (writable_optional_real fps) ?_)
  refine .some (writable_list fun o mem => SceneObject.writable (objects o mem) (lengths o mem)) ?_
  refine .unlessEmpty (fun e mem => Event.writable (events e mem) (eventFrames e mem)) ?_
  refine .unlessEmpty (fun k mem => Keyframe.writable (keyframes k mem) (keyframeFrames k mem)) ?_
  exact .map (fun c _ => c.writable) .nil

end Scene

/-! ### Texts -/

/-- What is written by one side and known to the other is loaded from its text. -/
theorem loadText_compact {known : Json → Json} {decode : Json → Decoded α} {j : Json} {a : α}
    {room : Nat} (writable : Writable room j) (fits : room ≤ maxDepth) (same : known j = j)
    (back : decode j = .ok a) : loadText known decode j.compact = .ok a := by
  simp [loadText, writable.ofText_compact fits, same, writable.readable, back]

/-- Nothing is lost of an object whose fields are all known and come out of the change as they went
in. -/
theorem knownFields_written {fields : List String} {change : String → Json → Json} {slots : Slots}
    (names : slots.names ⊆ fields)
    (same : ∀ slot ∈ slots, ∀ value ∈ slot.2, change slot.1 value = value) :
    knownFields fields change (.object slots.written) = .object slots.written := by
  have kept : slots.written.filter (fun pair => fields.contains pair.1) = slots.written :=
    List.filter_eq_self.mpr (Slots.forall_written fun slot mem _ _ =>
      List.contains_iff_mem.mpr (names (List.mem_map_of_mem mem)))
  have unchanged : slots.written.map (fun pair => (pair.1, change pair.1 pair.2)) = slots.written :=
    (List.map_congr_left (Slots.forall_written fun slot mem value is =>
      congrArg (slot.1, ·) (same slot mem value is))).trans (List.map_id _)
  rw [knownFields, kept, unchanged]

/-- Taking only the known fields of an object that has no other leaves it as it is. -/
theorem knownOnly_written {fields : List String} (slots : Slots)
    (names : slots.names ⊆ fields) :
    knownOnly fields (.object slots.written) = .object slots.written :=
  knownFields_written names fun _ _ _ _ => rfl

/-- Taking what is known of each element leaves a list as it is, if it does so with the elements. -/
theorem knownItems_list {known : Json → Json} {encode : α → Json}
    (same : ∀ a, known (encode a) = encode a) (items : List α) :
    knownItems known (.list (items.map encode)) = .list (items.map encode) := by
  simp [knownItems, same]

/-- A trail is written with known fields only. -/
theorem TrailStyle.knownOnly_encode (t : TrailStyle) :
    knownOnly fields t.encode = t.encode :=
  knownOnly_written t.slots (List.Subset.refl _)

theorem Keyframe.knownOnly_encode (k : Keyframe) :
    knownOnly ("agentId" :: fields) k.encode = k.encode :=
  knownOnly_written k.slots (List.subset_cons_self _ _)

theorem Court.knownOnly_encode (c : Court) : knownOnly fields c.encode = c.encode :=
  knownOnly_written c.slots (List.Subset.refl _)

/-- The trail of an object is a field of its own, never of its kind. -/
theorem SceneObject.known_encode (o : SceneObject) : known o.encode = o.encode := by
  rw [encode_eq, known]
  refine congrArg Json.object ((List.map_congr_left ?_).trans (List.map_id _))
  refine Slots.forall_written fun slot mem value is => ?_
  split
  · rename_i trail
    have found : some slot.2 = some (o.trail.map TrailStyle.encode) := by
      rw [← Slots.lookup_of_mem o.holds.distinct mem, trail]
      rfl
    rw [Option.some.inj found] at is
    obtain ⟨t, -, rfl⟩ := Option.map_eq_some_iff.mp is
    rw [t.knownOnly_encode]
    rfl
  · rfl

/-- A scene is written with known fields only, through all its lists. -/
theorem Scene.known_encode (s : Scene) : known s.encode = s.encode := by
  rw [encode_eq]
  refine knownFields_written (List.Subset.refl _) ?_
  simp [slots, knownItems_list, SceneObject.known_encode, Keyframe.knownOnly_encode,
    Court.knownOnly_encode]

/-- A scene is read back from its text, which is that of its JSON without blanks. -/
theorem Scene.ofText_compact {s : Scene} (finite : ∀ x ∈ s.numbers, x.isFinite)
    (fits : ∀ n ∈ s.counts, n < UInt64.size) (back : ∀ x ∈ s.numbers, ReadsBack x) :
    ofText s.encode.compact = .ok s := by
  have written : Writable 7 s.encode := writable back fits
  exact loadText_compact written (by decide) s.known_encode (returns finite fits)

end Playfield
