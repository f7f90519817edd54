import Mathlib.Algebra.Group.Units.Basic
import Mathlib.Data.List.Nodup
import Mathlib.Data.UInt
import Playfield.Session

/-!
The seeds of an agent's random streams.

A frame has its part in the seed of an agent's stream as a multiple of an odd number, and odd
numbers can be divided by among the words of 64 bits. So each frame has a seed of its own
(`frameSeed_injective`). The stream from which the agent takes its first heading has the seed of the
last frame that a word can count, whose successor is zero (`frameSeed_last`). A session that goes on
from frame to frame therefore seeds no two streams of an agent alike over as many frames as there
are words (`Session.nodup_seeds`).
-/

namespace Playfield

section Seeds

variable (seed : UInt64) (id : String)

/-- The factor by which a frame goes into a seed is odd, so another word undoes it. -/
theorem isUnit_frameFactor : IsUnit (0x9E3779B97F4A7C15 : UInt64) :=
  IsUnit.of_mul_eq_one 0xF1DE83E19937733D (by decide)

/-- The seed of a frame is that of the first heading with a multiple of the next frame mixed in. -/
theorem frameSeed_eq_xor (frame : UInt64) :
    frameSeed seed frame id = spawnSeed seed id ^^^ (frame + 1) * 0x9E3779B97F4A7C15 := by
  unfold frameSeed spawnSeed
  rw [UInt64.xor_assoc, UInt64.xor_comm _ (streamOf id), UInt64.xor_assoc]

/-- No two frames give an id the same seed. -/
theorem frameSeed_injective : Function.Injective fun frame => frameSeed seed frame id := by
  intro frame frame' same
  simp only [frameSeed_eq_xor] at same
  have multiples := (UInt64.xor_right_inj (spawnSeed seed id)).mp same
  have next : frame + 1 = frame' + 1 := isUnit_frameFactor.mul_left_injective multiples
  exact (UInt64.add_left_inj 1).mp next

/-- The frame whose successor is zero mixes nothing in. -/
theorem frameSeed_last : frameSeed seed (-1) id = spawnSeed seed id := by
  have wrapped : (-1 + 1 : UInt64) = 0 := rfl
  rw [frameSeed_eq_xor, wrapped, UInt64.zero_mul, UInt64.xor_zero]

/-- The seed of an id on a frame is the one for its start on the last possible frame only. -/
theorem frameSeed_eq_spawnSeed_iff (frame : UInt64) :
    frameSeed seed frame id = spawnSeed seed id ↔ frame.toNat = 2 ^ 64 - 1 := by
  have last : (-1 : UInt64).toNat = 2 ^ 64 - 1 := rfl
  rw [← frameSeed_last, (frameSeed_injective seed id).eq_iff, ← UInt64.toNat_inj, last]

/-- **No two streams of an agent have the same seed.** Whatever the seed of the settings and the id
of the agent, two frames seed its streams alike only if they are the same frame; and the stream from
which it takes its first heading is seeded as on one frame alone, the last that a word of 64 bits
can count. -/
theorem seeds_never_repeat :
    (Function.Injective fun frame => frameSeed seed frame id) ∧
      ∀ frame : UInt64,
        frameSeed seed frame id = spawnSeed seed id ↔ frame.toNat = 2 ^ 64 - 1 :=
  ⟨frameSeed_injective seed id, frameSeed_eq_spawnSeed_iff seed id⟩

end Seeds

/-! ### Going on -/

namespace Session

/-- The seeds of an agent's streams over the next frames. -/
def seeds (id : String) : Nat → Session → List UInt64
  | 0, _ => []
  | n + 1, s => frameSeed s.context.seed s.context.frame.toUInt64 id :: seeds id n s.advance.2

variable (s : Session) (id : String) {n : Nat}

theorem seeds_eq (n : Nat) :
    s.seeds id n =
      (List.range' s.frame n).map fun frame => frameSeed s.settings.seed frame.toUInt64 id := by
  induction n generalizing s with
  | zero => rfl
  | succ n ih =>
    have next : s.advance.2.frame = s.frame + 1 := rfl
    rw [seeds, ih, next]
    rfl

/-- Over no more frames than there are words the seeds are all different. -/
theorem nodup_seeds (countable : n ≤ 2 ^ 64) : (s.seeds id n).Nodup := by
  rw [seeds_eq]
  refine List.Nodup.map_on (fun frame inside frame' inside' same => ?_) List.nodup_range'
  have words : frame.toUInt64 = frame'.toUInt64 := frameSeed_injective s.settings.seed id same
  have numbers : frame % 2 ^ 64 = frame' % 2 ^ 64 := congrArg UInt64.toNat words
  rw [List.mem_range'_1] at inside inside'
  omega

/-- Before the last frame that a word can count none has the seed of the first heading. -/
theorem spawnSeed_not_mem_seeds (countable : s.frame + n < 2 ^ 64) :
    spawnSeed s.settings.seed id ∉ s.seeds id n := by
  rw [seeds_eq]
  intro inside
  obtain ⟨frame, ahead, same⟩ := List.mem_map.mp inside
  have last : frame % 2 ^ 64 = 2 ^ 64 - 1 :=
    (frameSeed_eq_spawnSeed_iff s.settings.seed id frame.toUInt64).mp same
  rw [List.mem_range'_1] at ahead
  omega

end Session

end Playfield
