import Playfield.Json.Record

/-!
Settings: what holds for scenes that leave their canvas or frame rate open, and the limits of a run.
-/

namespace Playfield

/-- The settings of an engine. -/
structure Settings where
  /-- The canvas of a scene without a size, in pixels. -/
  width : Float32 := 800
  height : Float32 := 600
  /-- Frames in a second for a scene without a rate. -/
  fps : Float32 := 60
  background : String := "#05050f"
  /-- The seed of all random choices. -/
  seed : UInt64 := 0x67616d6562616c6c
  /-- Frames run when a request leaves the number open. -/
  defaultRunFrames : Nat := 30
  /-- The most frames of one request. -/
  maxRunFrames : Nat := 300
  /-- The most frames for one lapse of time. -/
  maxCatchUpFrames : Nat := 8
  /-- The longest lapse of time that counts, in seconds. -/
  maxDeltaSeconds : Float32 := 0.25
  deriving DecidableEq

namespace Settings

/-- The frames that a request runs: the default for none or zero, and always from one to the
maximum. -/
def runFrames (s : Settings) (requested : Option Nat) : Nat :=
  let most := max s.maxRunFrames 1
  match requested with
  | none | some 0 => min (max s.defaultRunFrames 1) most
  | some n => min n most

def fields : List String :=
  ["width", "height", "fps", "background", "seed", "defaultRunFrames", "maxRunFrames",
    "maxCatchUpFrames", "maxDeltaSeconds"]

open Json in
/-- Read settings; what is absent takes its default. -/
def decode (value : Json) : Decoded Settings := do
  let r ← record fields value
  let defaults : Settings := {}
  return {
    width := ← r.withDefault "width" defaults.width decodeReal
    height := ← r.withDefault "height" defaults.height decodeReal
    fps := ← r.withDefault "fps" defaults.fps decodeReal
    background := ← r.withDefault "background" defaults.background decodeText
    seed := (← r.withDefault "seed" defaults.seed.toNat decodeWord64).toUInt64
    defaultRunFrames := ← r.withDefault "defaultRunFrames" defaults.defaultRunFrames decodeWord32
    maxRunFrames := ← r.withDefault "maxRunFrames" defaults.maxRunFrames decodeWord32
    maxCatchUpFrames := ← r.withDefault "maxCatchUpFrames" defaults.maxCatchUpFrames decodeWord32
    maxDeltaSeconds := ← r.withDefault "maxDeltaSeconds" defaults.maxDeltaSeconds decodeReal }

open Json in
def encode (s : Settings) : Json :=
  .object [("width", ofReal s.width), ("height", ofReal s.height), ("fps", ofReal s.fps),
    ("background", .text s.background), ("seed", ofNat s.seed.toNat),
    ("defaultRunFrames", ofNat s.defaultRunFrames), ("maxRunFrames", ofNat s.maxRunFrames),
    ("maxCatchUpFrames", ofNat s.maxCatchUpFrames),
    ("maxDeltaSeconds", ofReal s.maxDeltaSeconds)]

end Settings

end Playfield
