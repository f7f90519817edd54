import Playfield.Draw.Encode
import Playfield.Proofs.Scene.RoundTrip.Scene

/-!
Draw commands are read back from JSON, and with them all that goes in and out of a session.

A color that is none is written as null here, where no field is ever left out.
-/

namespace Playfield

open Formula (Color)
open Json

/-! ### Colors and vectors -/

/-- A color that a record holds is read back. -/
theorem Json.Holds.color {slots : Slots} {pairs : List (String × Json)} {name : String} {c : Color}
    (h : Holds slots pairs) (found : slots.lookup name = some (some (encodePaint c))) :
    Record.optional ⟨pairs⟩ name decodeText = .ok c := by
  rw [Record.optional, h.get? found]
  cases c <;> rfl

theorem writable_paint (c : Color) {room : Nat} : Writable room (encodePaint c) := by
  cases c with
  | none => exact .null
  | some color => exact .text color

/-- A finite vector whose coordinates a record holds is read back. -/
theorem Json.Holds.decodeAs {slots : Slots} {pairs : List (String × Json)} {x y : String} {v : Vec2}
    (h : Holds slots pairs) (finite : ∀ x ∈ v.numbers, x.isFinite)
    (first : slots.lookup x = some (some (ofReal v.x)))
    (second : slots.lookup y = some (some (ofReal v.y))) :
    decodeAs ⟨pairs⟩ x y = .ok v := by
  obtain ⟨xFinite, yFinite⟩ := Vec2.forall_numbers.mp finite
  refine bind_ok (h.required (returns_real xFinite) first) ?_
  exact bind_ok (h.required (returns_real yFinite) second) rfl

namespace Brush

def slots (b : Brush) : Slots :=
  [("fill", some (encodePaint b.fill)), ("stroke", some (encodePaint b.stroke)),
    ("strokeWidth", some (ofReal b.strokeWidth))]

variable {b : Brush} {pairs : List (String × Json)}

/-- A brush with a finite stroke width is read back from a record that holds its fields. -/
theorem decode_eq (h : Holds b.slots pairs) (finite : b.strokeWidth.isFinite) :
    decode ⟨pairs⟩ = .ok b := by
  refine bind_ok (h.color rfl) ?_
  refine bind_ok (h.color rfl) ?_
  exact bind_ok (h.required (returns_real finite) rfl) rfl

/-- The fields of a brush can be written if its stroke width reads back. -/
theorem slots_writable (back : ReadsBack b.strokeWidth) {room : Nat} : b.slots.Writable room :=
  .some (writable_paint b.fill) (.some (writable_paint b.stroke) (.some (writable_real back) .nil))

end Brush

/-! ### Figures -/

namespace Figure

def numbers : Figure → List Float32
  | .ellipse position size brush => position.numbers ++ size.numbers ++ [brush.strokeWidth]
  | .rect position size brush borderRadius =>
    position.numbers ++ size.numbers ++ [brush.strokeWidth] ++ [borderRadius]
  | .line position final _ strokeWidth => position.numbers ++ final.numbers ++ [strokeWidth]
  | .text position _ fontSize _ _ _ => position.numbers ++ [fontSize]
  | .arc position radii startAngle endAngle _ brush =>
    position.numbers ++ radii.numbers ++ [startAngle] ++ [endAngle] ++ [brush.strokeWidth]
  | .trail points _ width => points.flatMap Vec2.numbers ++ [width]

def slots (opacity : Float32) : Figure → Slots
  | .ellipse position size brush =>
    position.slotsAs "x" "y" ++ size.slotsAs "width" "height" ++ brush.slots ++
      [("opacity", some (ofReal opacity))]
  | .rect position size brush borderRadius =>
    position.slotsAs "x" "y" ++ size.slotsAs "width" "height" ++ brush.slots ++
      [("borderRadius", some (ofReal borderRadius)), ("opacity", some (ofReal opacity))]
  | .line position final stroke strokeWidth =>
    position.slotsAs "x" "y" ++ final.slotsAs "x2" "y2" ++
      [("stroke", some (encodePaint stroke)), ("strokeWidth", some (ofReal strokeWidth)),
        ("opacity", some (ofReal opacity))]
  | .text position content fontSize fontFamily fill align =>
    position.slotsAs "x" "y" ++
      [("text", some (.text content)), ("fontSize", some (ofReal fontSize)),
        ("fontFamily", some (.text fontFamily)), ("fill", some (encodePaint fill)),
        ("align", some align.encode), ("opacity", some (ofReal opacity))]
  | .arc position radii startAngle endAngle counterclockwise brush =>
    position.slotsAs "x" "y" ++ radii.slotsAs "radiusX" "radiusY" ++
      [("startAngle", some (ofReal startAngle)), ("endAngle", some (ofReal endAngle)),
        ("counterclockwise", some (.bool counterclockwise))] ++ brush.slots ++
      [("opacity", some (ofReal opacity))]
  | .trail points color width =>
    [("points", some (.list (points.map Vec2.encodePoint))), ("color", some (.text color)),
      ("opacity", some (ofReal opacity)), ("width", some (ofReal width))]

variable {f : Figure} {opacity : Float32} {pairs : List (String × Json)}

/-- What is written of a figure is what its slots hold. -/
theorem encodeFields_eq (f : Figure) (opacity : Float32) :
    f.encodeFields opacity = (f.slots opacity).written := by
  cases f <;> rfl

/-- Every figure has a slot for the opacity. -/
theorem lookup_opacity (f : Figure) (opacity : Float32) :
    (f.slots opacity).lookup "opacity" = some (some (ofReal opacity)) := by
  cases f <;> rfl

/-- A figure is read back from an object that holds it, under the tag that it is written with. -/
theorem decodeTagged_eq (h : Holds (f.slots opacity) pairs)
    (finite : ∀ x ∈ f.numbers, x.isFinite) : decodeTagged f.tag ⟨pairs⟩ = .ok f := by
  cases f with
  | ellipse position size brush =>
    simp only [numbers, List.forall_mem_append, List.forall_mem_singleton, and_assoc] at finite
    obtain ⟨position, size, strokeWidth⟩ := finite
    refine bind_ok (h.decodeAs position rfl rfl) ?_
    refine bind_ok (h.decodeAs size rfl rfl) ?_
    exact bind_ok (Brush.decode_eq h.front.rest strokeWidth) rfl
  | rect position size brush borderRadius =>
    simp only [numbers, List.forall_mem_append, List.forall_mem_singleton, and_assoc] at finite
    obtain ⟨position, size, strokeWidth, borderRadius⟩ := finite
    refine bind_ok (h.decodeAs position rfl rfl) ?_
    refine bind_ok (h.decodeAs size rfl rfl) ?_
    refine bind_ok (Brush.decode_eq h.front.rest strokeWidth) ?_
    exact bind_ok (h.required (returns_real borderRadius) rfl) rfl
  | line position final stroke strokeWidth =>
    simp only [numbers, List.forall_mem_append, List.forall_mem_singleton, and_assoc] at finite
    obtain ⟨position, final, strokeWidth⟩ := finite
    refine bind_ok (h.decodeAs position rfl rfl) ?_
    refine bind_ok (h.decodeAs final rfl rfl) ?_
    refine bind_ok (h.color rfl) ?_
    exact bind_ok (h.required (returns_real strokeWidth) rfl) rfl
  | text position content fontSize fontFamily fill align =>
    simp only [numbers, List.forall_mem_append, List.forall_mem_singleton] at finite
    obtain ⟨position, fontSize⟩ := finite
    refine bind_ok (h.decodeAs position rfl rfl) ?_
    refine bind_ok (h.required (returns_text content) rfl) ?_
    refine bind_ok (h.required (returns_real fontSize) rfl) ?_
    refine bind_ok (h.required (returns_text fontFamily) rfl) ?_
    refine bind_ok (h.color rfl) ?_
    exact bind_ok (h.required align.returns rfl) rfl
  | arc position radii startAngle endAngle counterclockwise brush =>
    simp only [numbers, List.forall_mem_append, List.forall_mem_singleton, and_assoc] at finite
    obtain ⟨position, radii, startAngle, endAngle, strokeWidth⟩ := finite
    refine bind_ok (h.decodeAs position rfl rfl) ?_
    refine bind_ok (h.decodeAs radii rfl rfl) ?_
    refine bind_ok (h.required (returns_real startAngle) rfl) ?_
    refine bind_ok (h.required (returns_real endAngle) rfl) ?_
    refine bind_ok (h.required (returns_bool counterclockwise) rfl) ?_
    exact bind_ok (Brush.decode_eq h.front.rest strokeWidth) rfl
  | trail points color width =>
    simp only [numbers, List.forall_mem_append, List.forall_mem_singleton,
      List.forall_mem_flatMap] at finite
    obtain ⟨points, width⟩ := finite
    refine bind_ok (h.required (returns_list fun v mem => Vec2.returns_point (points v mem)) rfl) ?_
    refine bind_ok (h.required (returns_text color) rfl) ?_
    exact bind_ok (h.required (returns_real width) rfl) rfl

/-- The fields of a figure can be written if its numbers and its opacity read back. -/
theorem slots_writable (back : ∀ x ∈ f.numbers, ReadsBack x) (visible : ReadsBack opacity)
    {room : Nat} : (f.slots opacity).Writable (room + 2) := by
  have last : Slots.Writable (room + 2) [("opacity", some (ofReal opacity))] :=
    .some (writable_real visible) .nil
  cases f with
  | ellipse position size brush =>
    simp only [numbers, List.forall_mem_append, List.forall_mem_singleton, and_assoc] at back
    obtain ⟨position, size, strokeWidth⟩ := back
    exact (((Vec2.slotsAs_writable position).append (Vec2.slotsAs_writable size)).append
      (Brush.slots_writable strokeWidth)).append last
  | rect position size brush borderRadius =>
    simp only [numbers, List.forall_mem_append, List.forall_mem_singleton, and_assoc] at back
    obtain ⟨position, size, strokeWidth, borderRadius⟩ := back
    exact (((Vec2.slotsAs_writable position).append (Vec2.slotsAs_writable size)).append
      (Brush.slots_writable strokeWidth)).append (.some (writable_real borderRadius) last)
  | line position final stroke strokeWidth =>
    simp only [numbers, List.forall_mem_append, List.forall_mem_singleton, and_assoc] at back
    obtain ⟨position, final, strokeWidth⟩ := back
    exact ((Vec2.slotsAs_writable position).append (Vec2.slotsAs_writable final)).append
      (.some (writable_paint stroke) (.some (writable_real strokeWidth) last))
  | text position content fontSize fontFamily fill align =>
    simp only [numbers, List.forall_mem_append, List.forall_mem_singleton] at back
    obtain ⟨position, fontSize⟩ := back
    exact (Vec2.slotsAs_writable position).append (.some (.text content)
      (.some (writable_real fontSize) (.some (.text fontFamily) (.some (writable_paint fill)
        (.some align.writable last)))))
  | arc position radii startAngle endAngle counterclockwise brush =>
    simp only [numbers, List.forall_mem_append, List.forall_mem_singleton, and_assoc] at back
    obtain ⟨position, radii, startAngle, endAngle, strokeWidth⟩ := back
    exact ((((Vec2.slotsAs_writable position).append (Vec2.slotsAs_writable radii)).append
      (.some (writable_real startAngle) (.some (writable_real endAngle)
        (.some (.bool counterclockwise) .nil)))).append (Brush.slots_writable strokeWidth)).append
      last
  | trail points color width =>
    simp only [numbers, List.forall_mem_append, List.forall_mem_singleton,
      List.forall_mem_flatMap] at back
    obtain ⟨points, width⟩ := back
    exact .some (writable_list fun v mem => Vec2.writable_point (points v mem))
      (.some (.text color) (.some (writable_real visible) (.some (writable_real width) .nil)))

end Figure

/-! ### Draw commands -/

namespace DrawCommand

def numbers (c : DrawCommand) : List Float32 :=
  c.figure.numbers ++ [c.opacity, c.layer]

def slots (c : DrawCommand) : Slots :=
  [("type", some (.text c.figure.tag)), ("objectId", some (.text c.objectId))] ++
    c.figure.slots c.opacity ++ [("layer", some (ofReal c.layer))]

variable {c : DrawCommand}

theorem encode_eq (c : DrawCommand) : c.encode = .object c.slots.written := by
  simp [encode, slots, Figure.encodeFields_eq]

/-- The written record of a command holds its fields. -/
theorem holds (c : DrawCommand) : Holds c.slots c.slots.written := by
  refine Slots.holds_written ?_
  obtain ⟨objectId, figure, opacity, layer⟩ := c
  cases figure <;> simp [slots, Figure.slots, Slots.names, Vec2.slotsAs, Brush.slots]

/-- A command of finite numbers is read back. -/
theorem returns (finite : ∀ x ∈ c.numbers, x.isFinite) : Returns encode decode c := by
  have h := c.holds
  obtain ⟨figure, last⟩ := List.forall_mem_append.mp finite
  obtain ⟨opacity, layer⟩ : c.opacity.isFinite ∧ c.layer.isFinite := by simpa using last
  obtain ⟨names, known⟩ : ∃ names, Figure.fields c.figure.tag = some names := by
    cases c.figure <;> exact ⟨_, rfl⟩
  rw [Returns, encode_eq]
  refine bind_ok (h.objectRecord _) ?_
  have tag : Returns id .ok (Json.text c.figure.tag) := rfl
  refine bind_ok (h.required tag rfl) ?_
  refine bind_ok (returns_text c.figure.tag) ?_
  rw [known]
  refine bind_ok (h.objectRecord names) ?_
  refine bind_ok (h.required (returns_text c.objectId) rfl) ?_
  refine bind_ok (Figure.decodeTagged_eq h.front.rest figure) ?_
  refine bind_ok (h.front.rest.required (returns_real opacity) (c.figure.lookup_opacity _)) ?_
  exact bind_ok (h.rest.required (returns_real layer) rfl) rfl

/-- A command whose numbers read back can be written. -/
theorem writable (back : ∀ x ∈ c.numbers, ReadsBack x) {room : Nat} :
    Writable (room + 3) c.encode := by
  obtain ⟨figure, last⟩ := List.forall_mem_append.mp back
  obtain ⟨opacity, layer⟩ : ReadsBack c.opacity ∧ ReadsBack c.layer := by simpa using last
  rw [encode_eq]
  refine Slots.Writable.object (.append (.append ?_ (Figure.slots_writable figure opacity)) ?_)
  · exact .some (.text c.figure.tag) (.some (.text c.objectId) .nil)
  · exact .some (writable_real layer) .nil

end DrawCommand

/-! ### Both formats -/

/-- A scene with finite numbers is what its JSON decodes to, and a list of draw commands likewise.
The texts of both give them back as well, provided that each number reads back from its numeral. A
count of the format has 64 bits. -/
theorem json_round_trip (s : Scene) (commands : List DrawCommand)
    (finite : ∀ x ∈ s.numbers ++ commands.flatMap DrawCommand.numbers, x.isFinite)
    (fits : ∀ n ∈ s.counts, n < UInt64.size) :
    Scene.decode s.encode = .ok s ∧
    decodeList DrawCommand.decode (.list (commands.map DrawCommand.encode)) = .ok commands ∧
    ((∀ x ∈ s.numbers ++ commands.flatMap DrawCommand.numbers, ReadsBack x) →
      Scene.ofText s.encode.compact = .ok s ∧
      loadText id (decodeList DrawCommand.decode)
        (Json.list (commands.map DrawCommand.encode)).compact = .ok commands) := by
  obtain ⟨sceneFinite, finite⟩ := List.forall_mem_append.mp finite
  have decoded : Returns _ (decodeList DrawCommand.decode) commands :=
    returns_list fun c mem => DrawCommand.returns (List.forall_mem_flatMap.mp finite c mem)
  refine ⟨Scene.returns sceneFinite fits, decoded, fun back => ?_⟩
  obtain ⟨sceneBack, back⟩ := List.forall_mem_append.mp back
  have written : Writable 4 (.list (commands.map DrawCommand.encode)) :=
    writable_list fun c mem => DrawCommand.writable (List.forall_mem_flatMap.mp back c mem)
  exact ⟨Scene.ofText_compact sceneFinite fits sceneBack,
    loadText_compact written (by decide) rfl decoded⟩

/-- A play with an agent that guards, a figure without a fill, a formula and a script. -/
def sampleScene : Scene where
  fps := some 30
  objects := [
    { id := "ball", x := some (.formula "t * 2"), y := some (.literal 0.5),
      trail := some ⟨8, "#fff", 0.5, 2⟩,
      kind := .ellipse { width := some (.literal 2), paint := { fill := some (.literal none) } } },
    { id := "home", parent := some "ball", visible := some (.literal true), layer := 1,
      kind := .agent { edges := .wrap, behaviors := [
        ⟨.maintainZone (.circle ⟨0, 0⟩ 2), 0.5⟩, ⟨.arrive (.point ⟨1, 2⟩) (some 2), 1⟩,
        ⟨.seek (.object "ball"), 1⟩, ⟨.unknown, 1⟩] } }]
  events := [⟨3, .pass none "home" (some "ball")⟩, ⟨7, .behavior "home" []⟩]
  keyframes := [⟨5, "home", ⟨-0.5, 2⟩⟩]
  court := some {}

def sampleCommands : List DrawCommand :=
  [⟨"ball", .ellipse ⟨0.5, 2⟩ ⟨2, 2⟩ ⟨none, some "#000", 1⟩, 0.5, 1⟩,
    ⟨"ball", .trail [⟨0, 0⟩, ⟨0.5, 2⟩] "#fff" 2, 0.5, 0.5⟩]

theorem json_round_trip_sample :
    Scene.ofText sampleScene.encode.compact = .ok sampleScene ∧
    loadText id (decodeList DrawCommand.decode)
      (Json.list (sampleCommands.map DrawCommand.encode)).compact = .ok sampleCommands :=
  (json_round_trip sampleScene sampleCommands (by decide) (by decide)).2.2 (by decide +kernel)

end Playfield
