import Playfield.Json.Reader
import Playfield.Scene.Encode

/-!
Scenes from JSON. Each reader takes back what the writer of the same type writes, and more: lists in
place of structures, tags by number, fields left to their defaults, and fields that mean nothing.
-/

namespace Playfield

open Formula (Animated Color)
open Json

/-! ### Vectors and properties -/

/-- A vector as a list of exactly two numbers. -/
def Vec2.decodePair : Json → Decoded Vec2
  | .list [x, y] => return ⟨← decodeReal x, ← decodeReal y⟩
  | _ => .error (.mismatch "pair of numbers")

/-- A vector as a structure with two fields. -/
def Vec2.decodePoint (value : Json) : Decoded Vec2 := do
  let r ← record ["x", "y"] value
  return ⟨← r.required "x" decodeReal, ← r.required "y" decodeReal⟩

/-- The source of a formula. -/
def decodeFormula (value : Json) : Decoded String := do
  let r ← record ["formula"] value
  r.required "formula" decodeText

/-- A formula, or else a literal. -/
def decodeAnimated (decode : Json → Decoded α) (value : Json) : Decoded (Animated α) :=
  match decodeFormula value with
  | .ok source => .ok (.formula source)
  | .error _ => (decode value).map .literal

def decodePaintLiteral : Json → Decoded Color
  | .null => .ok none
  | value => (decodeText value).map some

def decodeNumber : Json → Decoded (Animated Float32) := decodeAnimated decodeReal
def decodeTruth : Json → Decoded (Animated Bool) := decodeAnimated decodeBool
def decodeContent : Json → Decoded (Animated String) := decodeAnimated decodeText
def decodeColor : Json → Decoded (Animated Color) := decodeAnimated decodePaintLiteral

/-! ### Behaviors -/

/-- An id or a point. -/
def Target.decode : Json → Decoded Target
  | .text id => .ok (.object id)
  | value => (Vec2.decodePoint value).map .point

def Zone.decodeRect (r : Record) : Decoded Zone := do
  let center : Vec2 := ⟨← r.required "x" decodeReal, ← r.required "y" decodeReal⟩
  return .rect center ⟨← r.required "width" decodeReal, ← r.required "height" decodeReal⟩

def Zone.decodeCircle (r : Record) : Decoded Zone := do
  let center : Vec2 := ⟨← r.required "x" decodeReal, ← r.required "y" decodeReal⟩
  return .circle center (← r.required "radius" decodeReal)

/-- A zone of a shape, whose fields are given by `fields`. -/
def Zone.decodeShape (shape : String) (fields : List String → Decoded Record) : Decoded Zone :=
  match shape with
  | "rect" => do Zone.decodeRect (← fields ["x", "y", "width", "height"])
  | "circle" => do Zone.decodeCircle (← fields ["x", "y", "radius"])
  | _ => .error (.mismatch "shape of a zone")

/-- A zone whose tag is read by `tag`: an object, or a list that starts with its tag. -/
def Zone.decodeTagged (tag : Json → Decoded String) : Json → Decoded Zone
  | .object pairs => do
    let r ← objectRecord ["shape"] pairs
    Zone.decodeShape (← r.required "shape" tag) fun names => objectRecord names pairs
  | .list (shape :: items) => do
    Zone.decodeShape (← tag shape) fun names => listRecord names items
  | _ => .error (.mismatch "zone")

/-- A zone that stands alone. Its shape is a word. -/
def Zone.decode : Json → Decoded Zone :=
  Zone.decodeTagged decodeText

/-- The zone of a behavior. Its shape may also be given by its place. -/
def Zone.decodePart : Json → Decoded Zone :=
  Zone.decodeTagged (tagWord ["rect", "circle"])

def behaviorTags : List String :=
  ["seek", "flee", "arrive", "pursue", "evade", "wander", "separate", "align", "cohere",
    "follow_path", "maintain_zone", "guard", "defend_zone", "fast_break", "set_screen", "unknown"]

/-- The behavior of a tag, read from its parameters. -/
def Behavior.decodeTagged (tag : String) (pairs : List (String × Json)) : Decoded Behavior :=
  match tag with
  | "seek" => do
    let r ← objectRecord ["target"] pairs
    return .seek (← r.required "target" Target.decode)
  | "flee" => do
    let r ← objectRecord ["target", "radius"] pairs
    return .flee (← r.required "target" Target.decode) (← r.optional "radius" decodeReal)
  | "arrive" => do
    let r ← objectRecord ["target", "slowRadius"] pairs
    return .arrive (← r.required "target" Target.decode) (← r.optional "slowRadius" decodeReal)
  | "pursue" => do
    let r ← objectRecord ["target"] pairs
    return .pursue (← r.required "target" decodeText)
  | "evade" => do
    let r ← objectRecord ["target", "radius"] pairs
    return .evade (← r.required "target" decodeText) (← r.optional "radius" decodeReal)
  | "wander" => do
    let r ← objectRecord ["strength", "speed"] pairs
    return .wander (← r.optional "strength" decodeReal) (← r.optional "speed" decodeReal)
  | "separate" => do
    let r ← objectRecord ["radius"] pairs
    return .separate (← r.optional "radius" decodeReal)
  | "align" => do
    let r ← objectRecord ["radius"] pairs
    return .align (← r.optional "radius" decodeReal)
  | "cohere" => do
    let r ← objectRecord ["radius"] pairs
    return .cohere (← r.optional "radius" decodeReal)
  | "follow_path" => do
    let r ← objectRecord ["path", "loop"] pairs
    return .followPath (← r.required "path" (decodeList Vec2.decodePoint))
      (← r.withDefault "loop" false decodeBool)
  | "maintain_zone" => do
    let r ← objectRecord ["zone"] pairs
    return .maintainZone (← r.required "zone" Zone.decodePart)
  | "guard" => do
    let r ← objectRecord ["target"] pairs
    return .guard (← r.required "target" decodeText)
  | "defend_zone" => do
    let r ← objectRecord ["zone"] pairs
    return .defendZone (← r.required "zone" Zone.decodePart)
  | "fast_break" => do
    let r ← objectRecord ["target"] pairs
    return .fastBreak (← r.required "target" Target.decode)
  | "set_screen" => do
    let r ← objectRecord ["ballHandler", "offset"] pairs
    return .setScreen (← r.required "ballHandler" decodeText)
      (← r.optional "offset" Vec2.decodePoint)
  | _ => .ok .unknown

def WeightedBehavior.decode : Json → Decoded WeightedBehavior
  | .object pairs => do
    let r ← objectRecord ["type", "weight"] pairs
    let tag ← r.required "type" (tagWord behaviorTags)
    return ⟨← Behavior.decodeTagged tag pairs, ← r.withDefault "weight" defaultWeight decodeReal⟩
  | _ => .error (.mismatch "behavior")

def decodeBehaviors : Json → Decoded (List WeightedBehavior) :=
  decodeList WeightedBehavior.decode

/-! ### Objects -/

def TrailStyle.fields : List String := ["length", "color", "opacity", "width"]

def TrailStyle.decode (value : Json) : Decoded TrailStyle := do
  let r ← record TrailStyle.fields value
  return {
    length := ← r.required "length" decodeWord64
    color := ← r.required "color" decodeText
    opacity := ← r.required "opacity" decodeReal
    width := ← r.required "width" decodeReal }

def Paint.fields : List String := ["fill", "stroke", "strokeWidth"]

def Paint.decode (r : Record) : Decoded Paint := do
  return {
    fill := ← r.present "fill" decodeColor
    stroke := ← r.present "stroke" decodeColor
    strokeWidth := ← r.optional "strokeWidth" decodeReal }

def Ellipse.decode (pairs : List (String × Json)) : Decoded Ellipse := do
  let r ← objectRecord (["width", "height"] ++ Paint.fields) pairs
  return {
    width := ← r.optional "width" decodeNumber
    height := ← r.optional "height" decodeNumber
    paint := ← Paint.decode r }

def Rect.decode (pairs : List (String × Json)) : Decoded Rect := do
  let r ← objectRecord (["width", "height", "borderRadius"] ++ Paint.fields) pairs
  return {
    width := ← r.optional "width" decodeNumber
    height := ← r.optional "height" decodeNumber
    borderRadius := ← r.optional "borderRadius" decodeReal
    paint := ← Paint.decode r }

def Line.decode (pairs : List (String × Json)) : Decoded Line := do
  let r ← objectRecord ["x2", "y2", "stroke", "strokeWidth"] pairs
  return {
    x2 := ← r.optional "x2" decodeNumber
    y2 := ← r.optional "y2" decodeNumber
    stroke := ← r.present "stroke" decodeColor
    strokeWidth := ← r.optional "strokeWidth" decodeReal }

def Arc.decode (pairs : List (String × Json)) : Decoded Arc := do
  let r ← objectRecord
    (["radiusX", "radiusY", "startAngle", "endAngle", "counterclockwise"] ++ Paint.fields) pairs
  return {
    radiusX := ← r.optional "radiusX" decodeNumber
    radiusY := ← r.optional "radiusY" decodeNumber
    startAngle := ← r.optional "startAngle" decodeNumber
    endAngle := ← r.optional "endAngle" decodeNumber
    counterclockwise := ← r.withDefault "counterclockwise" false decodeBool
    paint := ← Paint.decode r }

def Align.decode : Json → Decoded Align :=
  decodeTaggedWord [("left", .left), ("center", .center), ("right", .right)]

def Label.decode (pairs : List (String × Json)) : Decoded Label := do
  let r ← objectRecord ["text", "fontSize", "fontFamily", "fill", "align"] pairs
  return {
    text := ← r.optional "text" decodeContent
    fontSize := ← r.optional "fontSize" decodeReal
    fontFamily := ← r.optional "fontFamily" decodeText
    fill := ← r.present "fill" decodeColor
    align := ← r.withDefault "align" .center Align.decode }

def Edges.decode : Json → Decoded Edges :=
  decodeTaggedWord [("wrap", .wrap), ("none", .unbounded)]

def Agent.decode (pairs : List (String × Json)) : Decoded Agent := do
  let r ← objectRecord (["width", "height", "mass", "maxSpeed", "maxForce", "damping", "vx", "vy",
    "edges", "behaviors"] ++ Paint.fields) pairs
  return {
    width := ← r.optional "width" decodeNumber
    height := ← r.optional "height" decodeNumber
    paint := ← Paint.decode r
    mass := ← r.optional "mass" decodeReal
    maxSpeed := ← r.optional "maxSpeed" decodeReal
    maxForce := ← r.optional "maxForce" decodeReal
    damping := ← r.optional "damping" decodeReal
    vx := ← r.optional "vx" decodeReal
    vy := ← r.optional "vy" decodeReal
    edges := ← r.withDefault "edges" .unbounded Edges.decode
    behaviors := ← r.withDefault "behaviors" [] decodeBehaviors }

def objectTags : List String :=
  ["ellipse", "rect", "line", "arc", "text", "group", "agent", "unknown"]

/-- The kind of a tag, read from its fields. Those of a group or of an unknown kind mean nothing. -/
def ObjectKind.decodeTagged (tag : String) (pairs : List (String × Json)) : Decoded ObjectKind :=
  match tag with
  | "ellipse" => (Ellipse.decode pairs).map .ellipse
  | "rect" => (Rect.decode pairs).map .rect
  | "line" => (Line.decode pairs).map .line
  | "arc" => (Arc.decode pairs).map .arc
  | "text" => (Label.decode pairs).map .text
  | "group" => .ok .group
  | "agent" => (Agent.decode pairs).map .agent
  | _ => .ok .unknown

def SceneObject.decode : Json → Decoded SceneObject
  | .object pairs => do
    let r ← objectRecord
      ["id", "parent", "x", "y", "opacity", "visible", "layer", "trail", "type"] pairs
    let tag ← r.required "type" (tagWord objectTags)
    return {
      id := ← r.required "id" decodeText
      parent := ← r.optional "parent" decodeText
      x := ← r.optional "x" decodeNumber
      y := ← r.optional "y" decodeNumber
      opacity := ← r.optional "opacity" decodeNumber
      visible := ← r.optional "visible" decodeTruth
      layer := ← r.withDefault "layer" 0 decodeReal
      trail := ← r.optional "trail" TrailStyle.decode
      kind := ← ObjectKind.decodeTagged tag pairs }
  | _ => .error (.mismatch "object of a scene")

/-! ### Scripts and scenes -/

def eventTags : List String :=
  ["possession", "pass", "shot", "timeout", "behavior", "release", "other"]

/-- The event of a tag, read from its fields. -/
def EventKind.decodeTagged (tag : String) (pairs : List (String × Json)) : Decoded EventKind :=
  match tag with
  | "possession" => do
    let r ← objectRecord ["agent", "ball"] pairs
    return .possession (← r.required "agent" decodeText) (← r.optional "ball" decodeText)
  | "pass" => do
    let r ← objectRecord ["from", "to", "ball"] pairs
    return .pass (← r.optional "from" decodeText) (← r.required "to" decodeText)
      (← r.optional "ball" decodeText)
  | "shot" => do
    let r ← objectRecord ["from", "x", "y", "ball"] pairs
    return .shot (← r.optional "from" decodeText) (← r.optional "x" decodeReal)
      (← r.optional "y" decodeReal) (← r.optional "ball" decodeText)
  | "timeout" => .ok .timeout
  | "behavior" => do
    let r ← objectRecord ["agent", "behaviors"] pairs
    return .behavior (← r.required "agent" decodeText) (← r.required "behaviors" decodeBehaviors)
  | "release" => do
    let r ← objectRecord ["agent"] pairs
    return .release (← r.optional "agent" decodeText)
  | _ => .ok .other

def Event.decode : Json → Decoded Event
  | .object pairs => do
    let r ← objectRecord ["frame", "type"] pairs
    let tag ← r.required "type" (tagWord eventTags)
    return ⟨← r.required "frame" decodeWord64, ← EventKind.decodeTagged tag pairs⟩
  | _ => .error (.mismatch "event")

def Keyframe.fields : List String := ["frame", "agent", "x", "y"]

/-- A keyframe under either name of its agent. -/
def Keyframe.unalias (pair : String × Json) : String × Json :=
  if pair.1 = "agentId" then ("agent", pair.2) else pair

def Keyframe.decode (value : Json) : Decoded Keyframe := do
  let named :=
    match value with
    | .object pairs => .object (pairs.map Keyframe.unalias)
    | other => other
  let r ← record Keyframe.fields named
  return {
    frame := ← r.required "frame" decodeWord64
    agent := ← r.required "agent" decodeText
    position := ⟨← r.required "x" decodeReal, ← r.required "y" decodeReal⟩ }

def CourtVariant.decode : Json → Decoded CourtVariant :=
  decodeWord [("full", .full), ("half", .half)]

def Court.fields : List String := ["sport", "variant"]

def Court.decode (value : Json) : Decoded Court := do
  let r ← record Court.fields value
  return {
    sport := ← r.withDefault "sport" "basketball" decodeText
    variant := ← r.withDefault "variant" .full CourtVariant.decode }

def Scene.fields : List String :=
  ["background", "width", "height", "fps", "objects", "events", "keyframes", "courtTransform"]

def Scene.decode (value : Json) : Decoded Scene := do
  let r ← record Scene.fields value
  return {
    background := ← r.optional "background" decodeText
    width := ← r.optional "width" decodeReal
    height := ← r.optional "height" decodeReal
    fps := ← r.optional "fps" decodeReal
    objects := ← r.withDefault "objects" [] (decodeList SceneObject.decode)
    events := ← r.withDefault "events" [] (decodeList Event.decode)
    keyframes := ← r.withDefault "keyframes" [] (decodeList Keyframe.decode)
    court := ← r.optional "courtTransform" Court.decode }

/-! ### From text -/

/-- Why a text gives no value of a type. -/
inductive LoadError where
  | text (fault : ReadFault)
  | shape (error : DecodeError)
  deriving DecidableEq, Repr

def LoadError.message : LoadError → String
  | .text fault => fault.message
  | .shape error => error.message

/-- Read a text and decode its value. `known` leaves out what nobody asks for; all else must be
readable. -/
def loadText (known : Json → Json) (decode : Json → Decoded α) (content : String) :
    Except LoadError α :=
  match Json.ofText content with
  | .error fault => .error (.text fault)
  | .ok value =>
    if (known value).readable then
      match decode (known value) with
      | .error error => .error (.shape error)
      | .ok found => .ok found
    else .error (.text .unreadable)

/-- A structure without the names that it does not know, and with its fields changed. -/
def knownFields (fields : List String) (change : String → Json → Json) : Json → Json
  | .object pairs =>
    .object ((pairs.filter fun pair => fields.contains pair.1).map fun pair =>
      (pair.1, change pair.1 pair.2))
  | .list items =>
    .list ((fields.zip items).map (fun pair => change pair.1 pair.2) ++ items.drop fields.length)
  | other => other

/-- A structure without the names that it does not know. -/
def knownOnly (fields : List String) : Json → Json :=
  knownFields fields fun _ value => value

def knownItems (known : Json → Json) : Json → Json
  | .list items => .list (items.map known)
  | other => other

/-- An object of a scene. Any name may belong to its kind, so only its trail can leave some out. -/
def SceneObject.known : Json → Json
  | .object pairs => .object (pairs.map fun pair =>
      if pair.1 = "trail" then (pair.1, knownOnly TrailStyle.fields pair.2) else pair)
  | other => other

def Scene.known : Json → Json :=
  knownFields Scene.fields fun name value =>
    match name with
    | "objects" => knownItems SceneObject.known value
    | "keyframes" => knownItems (knownOnly ("agentId" :: Keyframe.fields)) value
    | "courtTransform" => knownOnly Court.fields value
    | _ => value

def Scene.ofText : String → Except LoadError Scene :=
  loadText Scene.known Scene.decode

def Settings.ofText : String → Except LoadError Settings :=
  loadText (knownOnly Settings.fields) Settings.decode

end Playfield
