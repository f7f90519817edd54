import Playfield.Agent.State
import Playfield.Draw.Command
import Playfield.Scene.Decode

/-!
Draw commands, resolved objects and agent states as JSON, and from it.
-/

namespace Playfield

open Formula (Color)
open Json

/-! ### Draw commands -/

def Figure.tag : Figure → String
  | .ellipse _ _ _ => "ellipse"
  | .rect _ _ _ _ => "rect"
  | .line _ _ _ _ => "line"
  | .text _ _ _ _ _ _ => "text"
  | .arc _ _ _ _ _ _ => "arc"
  | .trail _ _ _ => "trail"

/-- A color, written also where there is none. -/
def encodePaint (c : Color) : Json :=
  ofOption c .text

def Brush.encodeFields (b : Brush) : List (String × Json) :=
  [("fill", encodePaint b.fill), ("stroke", encodePaint b.stroke),
    ("strokeWidth", ofReal b.strokeWidth)]

/-- A vector under two names. -/
def encodeAs (x y : String) (v : Vec2) : List (String × Json) :=
  [(x, ofReal v.x), (y, ofReal v.y)]

/-- The fields of a figure with its opacity, which stands last except in a trail. -/
def Figure.encodeFields (opacity : Float32) : Figure → List (String × Json)
  | .ellipse position size brush =>
    encodeAs "x" "y" position ++ encodeAs "width" "height" size ++ brush.encodeFields ++
      [("opacity", ofReal opacity)]
  | .rect position size brush borderRadius =>
    encodeAs "x" "y" position ++ encodeAs "width" "height" size ++ brush.encodeFields ++
      [("borderRadius", ofReal borderRadius), ("opacity", ofReal opacity)]
  | .line position final stroke strokeWidth =>
    encodeAs "x" "y" position ++ encodeAs "x2" "y2" final ++
      [("stroke", encodePaint stroke), ("strokeWidth", ofReal strokeWidth),
        ("opacity", ofReal opacity)]
  | .text position content fontSize fontFamily fill align =>
    encodeAs "x" "y" position ++
      [("text", .text content), ("fontSize", ofReal fontSize), ("fontFamily", .text fontFamily),
        ("fill", encodePaint fill), ("align", align.encode), ("opacity", ofReal opacity)]
  | .arc position radii startAngle endAngle counterclockwise brush =>
    encodeAs "x" "y" position ++ encodeAs "radiusX" "radiusY" radii ++
      [("startAngle", ofReal startAngle), ("endAngle", ofReal endAngle),
        ("counterclockwise", .bool counterclockwise)] ++ brush.encodeFields ++
      [("opacity", ofReal opacity)]
  | .trail points color width =>
    [("points", .list (points.map Vec2.encodePoint)), ("color", .text color),
      ("opacity", ofReal opacity), ("width", ofReal width)]

def DrawCommand.encode (c : DrawCommand) : Json :=
  .object (("type", .text c.figure.tag) :: ("objectId", .text c.objectId) ::
    c.figure.encodeFields c.opacity ++ [("layer", ofReal c.layer)])

/-- The fields of a command of some figure, in the order that a list gives them. -/
def Figure.fields (tag : String) : Option (List String) :=
  [("ellipse", ["objectId", "x", "y", "width", "height", "fill", "stroke", "strokeWidth",
      "opacity", "layer"]),
    ("rect", ["objectId", "x", "y", "width", "height", "fill", "stroke", "strokeWidth",
      "borderRadius", "opacity", "layer"]),
    ("line", ["objectId", "x", "y", "x2", "y2", "stroke", "strokeWidth", "opacity", "layer"]),
    ("text", ["objectId", "x", "y", "text", "fontSize", "fontFamily", "fill", "align", "opacity",
      "layer"]),
    ("arc", ["objectId", "x", "y", "radiusX", "radiusY", "startAngle", "endAngle",
      "counterclockwise", "fill", "stroke", "strokeWidth", "opacity", "layer"]),
    ("trail", ["objectId", "points", "color", "opacity", "width", "layer"])].lookup tag

def Brush.decode (r : Record) : Decoded Brush := do
  return {
    fill := ← r.optional "fill" decodeText
    stroke := ← r.optional "stroke" decodeText
    strokeWidth := ← r.required "strokeWidth" decodeReal }

/-- A vector under two names. -/
def decodeAs (r : Record) (x y : String) : Decoded Vec2 := do
  return ⟨← r.required x decodeReal, ← r.required y decodeReal⟩

/-- The figure of a tag, read from its fields. -/
def Figure.decodeTagged (tag : String) (r : Record) : Decoded Figure :=
  match tag with
  | "ellipse" => do
    return .ellipse (← decodeAs r "x" "y") (← decodeAs r "width" "height") (← Brush.decode r)
  | "rect" => do
    return .rect (← decodeAs r "x" "y") (← decodeAs r "width" "height") (← Brush.decode r)
      (← r.required "borderRadius" decodeReal)
  | "line" => do
    return .line (← decodeAs r "x" "y") (← decodeAs r "x2" "y2")
      (← r.optional "stroke" decodeText) (← r.required "strokeWidth" decodeReal)
  | "text" => do
    return .text (← decodeAs r "x" "y") (← r.required "text" decodeText)
      (← r.required "fontSize" decodeReal) (← r.required "fontFamily" decodeText)
      (← r.optional "fill" decodeText) (← r.required "align" Align.decode)
  | "arc" => do
    return .arc (← decodeAs r "x" "y") (← decodeAs r "radiusX" "radiusY")
      (← r.required "startAngle" decodeReal) (← r.required "endAngle" decodeReal)
      (← r.required "counterclockwise" decodeBool) (← Brush.decode r)
  | "trail" => do
    return .trail (← r.required "points" (decodeList Vec2.decodePoint))
      (← r.required "color" decodeText) (← r.required "width" decodeReal)
  | _ => .error (.mismatch "figure")

/-- The command of a tag, whose fields are given by `fields`. -/
def DrawCommand.decodeTagged (tag : Json) (fields : List String → Decoded Record) :
    Decoded DrawCommand := do
  let word ← decodeText tag
  match Figure.fields word with
  | none => .error (.mismatch "figure")
  | some names =>
    let r ← fields names
    return {
      objectId := ← r.required "objectId" decodeText
      figure := ← Figure.decodeTagged word r
      opacity := ← r.required "opacity" decodeReal
      layer := ← r.required "layer" decodeReal }

def DrawCommand.decode : Json → Decoded DrawCommand
  | .object pairs => do
    let tag ← objectRecord ["type"] pairs
    DrawCommand.decodeTagged (← tag.required "type" .ok) fun names => objectRecord names pairs
  | .list (tag :: items) => DrawCommand.decodeTagged tag fun names => listRecord names items
  | _ => .error (.mismatch "draw command")

/-! ### Resolved objects -/

def ResolvedObject.encode (o : ResolvedObject) : Json :=
  .object [("id", .text o.id), ("type", .text o.kind), ("x", ofReal o.position.x),
    ("y", ofReal o.position.y), ("opacity", ofReal o.opacity), ("layer", ofReal o.layer)]

def ResolvedObject.decode (value : Json) : Decoded ResolvedObject := do
  let r ← record ["id", "type", "x", "y", "opacity", "layer"] value
  return {
    id := ← r.required "id" decodeText
    kind := ← r.required "type" decodeText
    position := ← decodeAs r "x" "y"
    opacity := ← r.required "opacity" decodeReal
    layer := ← r.required "layer" decodeReal }

/-- A map as an object. -/
def IdMap.encode (encode : α → Json) (m : IdMap α) : Json :=
  .object (m.entries.map fun entry => (entry.1, encode entry.2))

/-- A map from an object; of two pairs with one name the later stays. -/
def IdMap.decode (decode : Json → Decoded α) : Json → Decoded (IdMap α)
  | .object pairs => do
    return IdMap.ofList (← pairs.mapM fun pair => do return (pair.1, ← decode pair.2))
  | _ => .error (.mismatch "map")

/-! ### Agent states -/

def AgentState.encode (s : AgentState) : Json :=
  .object ([("pos", s.position.encodePair), ("vel", s.velocity.encodePair),
    ("wanderAngle", ofReal s.wanderAngle), ("pathIndex", ofNat s.pathIndex)] ++
    pair? "behaviorOverride" s.behaviorOverride encodeBehaviors ++
    pair? "keyframePos" s.keyframe Vec2.encodePair)

def AgentState.decode (value : Json) : Decoded AgentState := do
  let r ← record ["pos", "vel", "wanderAngle", "pathIndex", "behaviorOverride", "keyframePos"] value
  return {
    position := ← r.required "pos" Vec2.decodePair
    velocity := ← r.required "vel" Vec2.decodePair
    wanderAngle := ← r.required "wanderAngle" decodeReal
    pathIndex := ← r.required "pathIndex" decodeWord64
    behaviorOverride := ← r.optional "behaviorOverride" decodeBehaviors
    keyframe := ← r.optional "keyframePos" Vec2.decodePair }

end Playfield
