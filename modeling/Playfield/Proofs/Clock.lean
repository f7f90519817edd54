import Playfield.Clock

/-!
The frames that a clock fires.

A clock tells whoever listens to it every frame at the moment it fires (`drive`). What a listener
hears over a lapse of time is the frames from the one the clock stands at, as many as the lapse
fires (`drive_eq`), and never more than the limit (`advanced`). Written down since the last reset,
the frames are therefore all numbers below the one that comes next, in order and each of them once,
whatever the clock has been asked to do (`Log.Complete.after`).
-/

namespace Playfield.Clock

variable {σ : Type}

/-! ### Listening to a clock -/

/-- Fire whole intervals of the time that waits, no more than a number of them. The listener is told
every frame as it fires, with the running time; the result is what it makes of them, how many there
were, and the clock after them. -/
def fire (listen : σ → Nat → Float32 → σ) : Nat → Clock → σ → σ × Nat × Clock
  | 0, c, heard => (heard, 0, c)
  | most + 1, c, heard =>
    if c.interval ≤ c.waiting then
      let next := { c with frame := c.frame + 1, waiting := c.waiting - c.interval }
      let (heard, fired, c') := fire listen most next (listen heard c.frame c.elapsed)
      (heard, fired + 1, c')
    else (heard, 0, c)

/-- Let time pass while somebody listens. -/
def drive (listen : σ → Nat → Float32 → σ) (c : Clock) (delta : Float32) (heard : σ) :
    σ × Nat × Clock :=
  if c.running && delta.isFinite && 0 < delta then
    let lapse := Binary32.min delta c.maxDelta
    let (heard, fired, c) := fire listen c.maxCatchUp
      { c with waiting := c.waiting + lapse, elapsed := c.elapsed + lapse } heard
    let waiting := if c.interval ≤ c.waiting then Binary32.rem c.waiting c.interval else c.waiting
    (heard, fired, { c with waiting := waiting })
  else (heard, 0, c)

/-- Intervals that were taken before only count. -/
theorem drain_succ (interval : Float32) (most taken : Nat) (waiting : Float32) :
    drain interval most (taken + 1) waiting =
      ((drain interval most taken waiting).1 + 1, (drain interval most taken waiting).2) := by
  induction most generalizing taken waiting with
  | zero => rfl
  | succ most ih =>
    unfold drain
    split
    · exact ih (taken + 1) (waiting - interval)
    · rfl

/-- No more intervals are taken out than the limit. -/
theorem drain_le (interval : Float32) (most taken : Nat) (waiting : Float32) :
    (drain interval most taken waiting).1 ≤ taken + most := by
  induction most generalizing taken waiting with
  | zero => exact Nat.le_refl taken
  | succ most ih =>
    unfold drain
    split
    · have below := ih (taken + 1) (waiting - interval)
      omega
    · exact Nat.le_add_right taken (most + 1)

/-- Firing takes the intervals out of the time that waits, and counts the frames on from the one
that the clock stands at. -/
theorem fire_eq (listen : σ → Nat → Float32 → σ) (most : Nat) (c : Clock) (heard : σ) :
    fire listen most c heard =
      let (fired, left) := drain c.interval most 0 c.waiting
      ((List.range' c.frame fired).foldl (fun heard frame => listen heard frame c.elapsed) heard,
        fired, { c with frame := c.frame + fired, waiting := left }) := by
  induction most generalizing c heard with
  | zero => rfl
  | succ most ih =>
    unfold fire drain
    split
    · simp only [ih, drain_succ, List.range'_succ, List.foldl_cons, Nat.add_assoc,
        Nat.add_comm 1]
    · rfl

/-- **A listener hears the frames of the lapse one after the other.** -/
theorem drive_eq (listen : σ → Nat → Float32 → σ) (c : Clock) (delta : Float32) (heard : σ) :
    c.drive listen delta heard =
      let (fired, c') := c.advance delta
      ((List.range' c.frame fired).foldl (fun heard frame => listen heard frame c'.elapsed) heard,
        fired, c') := by
  unfold drive advance
  split
  · simp only [fire_eq]
  · rfl

/-- The frames of a lapse, as they are listed. -/
theorem firedFrames_eq (c : Clock) (delta : Float32) :
    c.firedFrames delta =
      (List.range' c.frame (c.advance delta).1).map (·, (c.advance delta).2.elapsed) := by
  rw [firedFrames, List.range'_eq_map_range, List.map_map]
  rfl

/-! ### A lapse of time -/

/-- What a lapse of time may do to a clock when it fires some frames. -/
structure Advanced (c : Clock) (delta : Float32) (fired : Nat) (c' : Clock) : Prop where
  frame : c'.frame = c.frame + fired
  maxCatchUp : c'.maxCatchUp = c.maxCatchUp
  bounded : fired ≤ c.maxCatchUp
  /-- A clock that stands, or a lapse that is no positive finite time: nothing happens. -/
  idle : c.running = false ∨ delta.isFinite = false ∨ ¬0 < delta → fired = 0 ∧ c' = c

/-- A lapse of time fires no more frames than the limit, and none on a clock that stands. -/
theorem advanced (c : Clock) (delta : Float32) :
    c.Advanced delta (c.advance delta).1 (c.advance delta).2 := by
  unfold advance
  split
  · rename_i running
    simp only [Bool.and_eq_true, decide_eq_true_eq] at running
    obtain ⟨⟨running, finite⟩, positive⟩ := running
    refine ⟨rfl, rfl, ?_, ?_⟩
    · have below := drain_le c.interval c.maxCatchUp 0 (c.waiting + Binary32.min delta c.maxDelta)
      rwa [Nat.zero_add] at below
    · rintro (stands | infinite | negative)
      · rw [running] at stands
        cases stands
      · rw [finite] at infinite
        cases infinite
      · exact absurd positive negative
  · exact ⟨rfl, rfl, Nat.zero_le _, fun _ => ⟨rfl, rfl⟩⟩

/-! ### Any number of calls -/

/-- The clocks as they are made. -/
inductive Made : Clock → Prop where
  | ofRate (fps : Float32) : Made (ofRate fps)
  | ofSettings (fps : Float32) (settings : Settings) : Made (ofSettings fps settings)

theorem Made.frame {c : Clock} (made : c.Made) : c.frame = 0 := by
  cases made <;> rfl

/-- A clock may fire at least one frame for a lapse. -/
theorem Made.maxCatchUp_pos {c : Clock} (made : c.Made) : 1 ≤ c.maxCatchUp := by
  cases made with
  | ofRate fps => exact Nat.le_add_left 1 7
  | ofSettings fps settings => exact Nat.le_max_right settings.maxCatchUpFrames 1

/-- What a clock can be asked to do. -/
inductive Call where
  | start
  | stop
  | reset
  | advance (delta : Float32)

/-- A clock and the frames that it has fired since the last reset, written down as they fired. -/
structure Log where
  clock : Clock
  frames : List Nat := []

namespace Log

def after (l : Log) : Call → Log
  | .start => { l with clock := l.clock.start }
  | .stop => { l with clock := l.clock.stop }
  | .reset => ⟨l.clock.reset, []⟩
  | .advance delta =>
    let (frames, _, clock) := l.clock.drive (fun frames frame _ => frames ++ [frame]) delta l.frames
    ⟨clock, frames⟩

/-- Every frame before the next has been written down, and the limit is the one given. -/
structure Complete (limit : Nat) (l : Log) : Prop where
  frames : l.frames = List.range l.clock.frame
  limit : l.clock.maxCatchUp = limit

/-- Frames that are written down behind all those before them. -/
theorem foldl_write (frame fired : Nat) :
    (List.range' frame fired).foldl (fun frames frame => frames ++ [frame]) (List.range frame) =
      List.range (frame + fired) := by
  induction fired with
  | zero => rfl
  | succ fired ih =>
    rw [List.range'_1_concat, List.foldl_append, ih, ← Nat.add_assoc, List.range_succ]
    rfl

/-- A call keeps a complete log complete. -/
theorem Complete.after {limit : Nat} {l : Log} (complete : l.Complete limit) (call : Call) :
    (l.after call).Complete limit := by
  cases call with
  | start => exact ⟨complete.frames, complete.limit⟩
  | stop => exact ⟨complete.frames, complete.limit⟩
  | reset => exact ⟨rfl, complete.limit⟩
  | advance delta =>
    have advanced := l.clock.advanced delta
    simp only [Log.after, drive_eq, complete.frames, foldl_write, ← advanced.frame]
    exact ⟨rfl, advanced.maxCatchUp.trans complete.limit⟩

theorem Complete.foldl_after {limit : Nat} {l : Log} (complete : l.Complete limit)
    (calls : List Call) : (calls.foldl Log.after l).Complete limit := by
  induction calls generalizing l with
  | nil => exact complete
  | cons call rest ih => exact ih (complete.after call)

end Log

end Playfield.Clock
