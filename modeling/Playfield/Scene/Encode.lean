import Playfield.Json.Record
import Playfield.Scene

/-!
Scenes as JSON. A field that is absent is left out; one with a default is written with its value.
-/

namespace Playfield

open Formula (Animated Color)
open Json (ofReal ofNat pair?)

/-- A vector as the list of its components. -/
def Vec2.encodePair (v : Vec2) : Json :=
  .list [ofReal v.x, ofReal v.y]

/-- A vector as an object with named components. -/
def Vec2.encodePoint (v : Vec2) : Json :=
  .object [("x", ofReal v.x), ("y", ofReal v.y)]

/-! ### Properties -/

def encodeAnimated (encode : α → Json) : Animated α → Json
  | .formula source => .object [("formula", .text source)]
  | .literal value => encode value

def encodeNumber : Animated Float32 → Json := encodeAnimated ofReal
def encodeTruth : Animated Bool → Json := encodeAnimated .bool
def encodeContent : Animated String → Json := encodeAnimated .text
def encodeColor : Animated Color → Json := encodeAnimated fun c => Json.ofOption c .text

/-! ### Behaviors -/

def Target.encode : Target → Json
  | .object id => .text id
  | .point position => position.encodePoint

def Zone.encode : Zone → Json
  | .rect center size =>
    .object [("shape", .text "rect"), ("x", ofReal center.x), ("y", ofReal center.y),
      ("width", ofReal size.x), ("height", ofReal size.y)]
  | .circle center radius =>
    .object [("shape", .text "circle"), ("x", ofReal center.x), ("y", ofReal center.y),
      ("radius", ofReal radius)]

def Behavior.tag : Behavior → String
  | .seek _ => "seek"
  | .flee _ _ => "flee"
  | .arrive _ _ => "arrive"
  | .pursue _ => "pursue"
  | .evade _ _ => "evade"
  | .wander _ _ => "wander"
  | .separate _ => "separate"
  | .align _ => "align"
  | .cohere _ => "cohere"
  | .followPath _ _ => "follow_path"
  | .maintainZone _ => "maintain_zone"
  | .guard _ => "guard"
  | .defendZone _ => "defend_zone"
  | .fastBreak _ => "fast_break"
  | .setScreen _ _ => "set_screen"
  | .unknown => "unknown"

/-- The parameters of a behavior. -/
def Behavior.encodeParameters : Behavior → List (String × Json)
  | .seek target | .fastBreak target => [("target", target.encode)]
  | .flee target radius => ("target", target.encode) :: pair? "radius" radius ofReal
  | .arrive target slowRadius => ("target", target.encode) :: pair? "slowRadius" slowRadius ofReal
  | .pursue agent | .guard agent => [("target", .text agent)]
  | .evade agent radius => ("target", .text agent) :: pair? "radius" radius ofReal
  | .wander strength speed => pair? "strength" strength ofReal ++ pair? "speed" speed ofReal
  | .separate radius | .align radius | .cohere radius => pair? "radius" radius ofReal
  | .followPath path looped =>
    [("path", .list (path.map Vec2.encodePoint)), ("loop", .bool looped)]
  | .maintainZone zone | .defendZone zone => [("zone", zone.encode)]
  | .setScreen handler offset =>
    ("ballHandler", .text handler) :: pair? "offset" offset Vec2.encodePoint
  | .unknown => []

def WeightedBehavior.encode (b : WeightedBehavior) : Json :=
  .object (("type", .text b.behavior.tag) :: b.behavior.encodeParameters ++
    [("weight", ofReal b.weight)])

def encodeBehaviors (behaviors : List WeightedBehavior) : Json :=
  .list (behaviors.map WeightedBehavior.encode)

/-! ### Objects -/

def TrailStyle.encode (t : TrailStyle) : Json :=
  .object [("length", ofNat t.length), ("color", .text t.color), ("opacity", ofReal t.opacity),
    ("width", ofReal t.width)]

def Paint.encodeFields (p : Paint) : List (String × Json) :=
  pair? "fill" p.fill encodeColor ++ pair? "stroke" p.stroke encodeColor ++
    pair? "strokeWidth" p.strokeWidth ofReal

def Align.encode : Align → Json
  | .left => .text "left"
  | .center => .text "center"
  | .right => .text "right"

def Edges.encode : Edges → Json
  | .wrap => .text "wrap"
  | .unbounded => .text "none"

/-- The fields that a kind of object has of its own. -/
def ObjectKind.encodeFields : ObjectKind → List (String × Json)
  | .ellipse e =>
    pair? "width" e.width encodeNumber ++ pair? "height" e.height encodeNumber ++
      e.paint.encodeFields
  | .rect r =>
    pair? "width" r.width encodeNumber ++ pair? "height" r.height encodeNumber ++
      pair? "borderRadius" r.borderRadius ofReal ++ r.paint.encodeFields
  | .line l =>
    pair? "x2" l.x2 encodeNumber ++ pair? "y2" l.y2 encodeNumber ++
      pair? "stroke" l.stroke encodeColor ++ pair? "strokeWidth" l.strokeWidth ofReal
  | .arc a =>
    pair? "radiusX" a.radiusX encodeNumber ++ pair? "radiusY" a.radiusY encodeNumber ++
      pair? "startAngle" a.startAngle encodeNumber ++ pair? "endAngle" a.endAngle encodeNumber ++
      [("counterclockwise", .bool a.counterclockwise)] ++ a.paint.encodeFields
  | .text t =>
    pair? "text" t.text encodeContent ++ pair? "fontSize" t.fontSize ofReal ++
      pair? "fontFamily" t.fontFamily .text ++ pair? "fill" t.fill encodeColor ++
      [("align", t.align.encode)]
  | .agent a =>
    pair? "width" a.width encodeNumber ++ pair? "height" a.height encodeNumber ++
      a.paint.encodeFields ++ pair? "mass" a.mass ofReal ++ pair? "maxSpeed" a.maxSpeed ofReal ++
      pair? "maxForce" a.maxForce ofReal ++ pair? "damping" a.damping ofReal ++
      pair? "vx" a.vx ofReal ++ pair? "vy" a.vy ofReal ++
      [("edges", a.edges.encode), ("behaviors", encodeBehaviors a.behaviors)]
  | .group | .unknown => []

def SceneObject.encode (o : SceneObject) : Json :=
  .object (("id", .text o.id) :: pair? "parent" o.parent .text ++ pair? "x" o.x encodeNumber ++
    pair? "y" o.y encodeNumber ++ pair? "opacity" o.opacity encodeNumber ++
    pair? "visible" o.visible encodeTruth ++ [("layer", ofReal o.layer)] ++
    pair? "trail" o.trail TrailStyle.encode ++
    ("type", .text o.kind.name) :: o.kind.encodeFields)

/-! ### Scripts and scenes -/

def EventKind.tag : EventKind → String
  | .possession _ _ => "possession"
  | .pass _ _ _ => "pass"
  | .shot _ _ _ _ => "shot"
  | .timeout => "timeout"
  | .behavior _ _ => "behavior"
  | .release _ => "release"
  | .other => "other"

def EventKind.encodeFields : EventKind → List (String × Json)
  | .possession agent ball => ("agent", .text agent) :: pair? "ball" ball .text
  | .pass sender receiver ball =>
    pair? "from" sender .text ++ ("to", .text receiver) :: pair? "ball" ball .text
  | .shot shooter x y ball =>
    pair? "from" shooter .text ++ pair? "x" x ofReal ++ pair? "y" y ofReal ++
      pair? "ball" ball .text
  | .behavior agent behaviors =>
    [("agent", .text agent), ("behaviors", encodeBehaviors behaviors)]
  | .release agent => pair? "agent" agent .text
  | .timeout | .other => []

def Event.encode (e : Event) : Json :=
  .object (("frame", ofNat e.frame) :: ("type", .text e.kind.tag) :: e.kind.encodeFields)

def Keyframe.encode (k : Keyframe) : Json :=
  .object [("frame", ofNat k.frame), ("agent", .text k.agent), ("x", ofReal k.position.x),
    ("y", ofReal k.position.y)]

def CourtVariant.encode : CourtVariant → Json
  | .full => .text "full"
  | .half => .text "half"

def Court.encode (c : Court) : Json :=
  .object [("sport", .text c.sport), ("variant", c.variant.encode)]

def Transform.encode (t : Transform) : Json :=
  .object [("scale", ofReal t.scale), ("origin", t.origin.encodePair), ("flip_y", .bool t.flipY)]

/-- A list that is left out when it is empty. -/
def pairUnlessEmpty (name : String) (items : List α) (encode : α → Json) : List (String × Json) :=
  if items.isEmpty then [] else [(name, .list (items.map encode))]

def Scene.encode (s : Scene) : Json :=
  .object (pair? "background" s.background .text ++ pair? "width" s.width ofReal ++
    pair? "height" s.height ofReal ++ pair? "fps" s.fps ofReal ++
    ("objects", .list (s.objects.map SceneObject.encode)) ::
    pairUnlessEmpty "events" s.events Event.encode ++
    pairUnlessEmpty "keyframes" s.keyframes Keyframe.encode ++
    pair? "courtTransform" s.court Court.encode)

end Playfield
