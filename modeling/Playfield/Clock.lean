import Playfield.Settings

/-!
A clock that turns lapses of time of any length into a steady sequence of frames.

Time that is no whole number of frames waits for the next lapse. A lapse fires only so many frames;
what is left of whole frames beyond them is dropped.
-/

namespace Playfield

/-- A frame clock. -/
structure Clock where
  /-- The time from frame to frame, in seconds. -/
  interval : Float32
  /-- The next frame to fire. -/
  frame : Nat := 0
  /-- The time that waits, in seconds. -/
  waiting : Float32 := 0
  /-- The running time since the last reset, in seconds. -/
  elapsed : Float32 := 0
  running : Bool := false
  /-- The most frames for one lapse of time. -/
  maxCatchUp : Nat := 8
  /-- The longest lapse of time that counts, in seconds. -/
  maxDelta : Float32 := 0.25
  deriving DecidableEq

namespace Clock

/-- Frames in a second where the rate makes no sense. -/
def defaultRate : Float32 := 60

/-- A clock for a rate of frames in a second. -/
def ofRate (fps : Float32) : Clock where
  interval := 1 / Binary32.sanitize (some fps) defaultRate fun r => 0 < r

/-- A clock with the limits of some settings. -/
def ofSettings (fps : Float32) (settings : Settings) : Clock :=
  let c := ofRate fps
  { c with
    maxCatchUp := max settings.maxCatchUpFrames 1
    maxDelta := Binary32.sanitize (some settings.maxDeltaSeconds) c.maxDelta fun d => 0 < d }

def start (c : Clock) : Clock :=
  { c with running := true }

/-- Pause; the frame and the time that waits stay. -/
def stop (c : Clock) : Clock :=
  { c with running := false }

/-- Back to frame zero, running or not as before. -/
def reset (c : Clock) : Clock :=
  { c with frame := 0, waiting := 0, elapsed := 0 }

/-- Take whole intervals out of the time that waits, no more than a number of them: how many were
taken, beyond those before, and what is left. -/
def drain (interval : Float32) : Nat → Nat → Float32 → Nat × Float32
  | 0, taken, waiting => (taken, waiting)
  | most + 1, taken, waiting =>
    if interval ≤ waiting then drain interval most (taken + 1) (waiting - interval)
    else (taken, waiting)

/-- Let time pass: how many frames fire, and the clock after them. Nothing happens while the clock
stands or when the lapse is not a positive finite time. -/
def advance (c : Clock) (delta : Float32) : Nat × Clock :=
  if c.running && delta.isFinite && 0 < delta then
    let lapse := Binary32.min delta c.maxDelta
    let (fired, left) := drain c.interval c.maxCatchUp 0 (c.waiting + lapse)
    let waiting := if c.interval ≤ left then Binary32.rem left c.interval else left
    (fired, { c with frame := c.frame + fired, waiting := waiting, elapsed := c.elapsed + lapse })
  else (0, c)

/-- The frames that a lapse of time fires, each with the running time at that moment. -/
def firedFrames (c : Clock) (delta : Float32) : List (Nat × Float32) :=
  let (fired, after) := c.advance delta
  (List.range fired).map fun i => (c.frame + i, after.elapsed)

end Clock

end Playfield
