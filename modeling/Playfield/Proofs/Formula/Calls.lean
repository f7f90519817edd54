import Mathlib.Data.List.Nodup
import Playfield.Proofs.Formula.Faithful

/-!
Calls on one evaluator.

Whatever calls come one after the other, those that make it start over included, each is answered
as an evaluator without any program would answer it, and the evaluator holds one program for each
source that it keeps, that of the source, and never more than its capacity (`answers_eq_fresh`).
-/

namespace Playfield.Formula

/-! ### Calls and their answers -/

/-- What an evaluator can be asked. -/
inductive Call where
  | evaluate (source : String) (scope : Scope)
  | number (value : Option (Animated Float32)) (fallback : Float32) (scope : Scope)
  | truth (value : Option (Animated Bool)) (fallback : Bool) (scope : Scope)
  | text (value : Option (Animated String)) (fallback : String) (scope : Scope)
  | color (value : Option (Animated Color)) (fallback : Color) (scope : Scope)
  | clear

inductive Answer where
  | outcome (outcome : Except FormulaError Value)
  | number (value : Float32)
  | truth (value : Bool)
  | text (content : String)
  | color (color : Color)
  | cleared

namespace Evaluator

def answer (ev : Evaluator) : Call → Answer × Evaluator
  | .evaluate source scope => (ev.evaluate source scope).map .outcome id
  | .number value fallback scope =>
    (ev.settle Value.finiteNumber? value fallback scope).map .number id
  | .truth value fallback scope => (ev.settle Value.truth? value fallback scope).map .truth id
  | .text value fallback scope => (ev.settle Value.text? value fallback scope).map .text id
  | .color value fallback scope => (ev.settle Value.color? value fallback scope).map .color id
  | .clear => (.cleared, ev.clear)

/-- Answer one call after the other. -/
def answers (ev : Evaluator) : List Call → List Answer × Evaluator
  | [] => ([], ev)
  | call :: calls =>
    let (first, ev) := ev.answer call
    let (rest, ev) := ev.answers calls
    (first :: rest, ev)

/-! ### What calls leave -/

/-- A program that is kept is handed out; a new one is kept as well, alone if the store was full. -/
theorem program_cases (ev : Evaluator) (source : String) :
    (∃ known, ev.programs.lookup source = some known ∧ ev.program source = (known, ev)) ∨
      (ev.programs.lookup source = none ∧ ∃ kept, ev.program source =
        (Expr.parse source, ⟨(source, Expr.parse source) :: kept⟩) ∧
        (capacity ≤ ev.size ∧ kept = [] ∨ ev.size < capacity ∧ kept = ev.programs)) := by
  unfold program
  cases ev.programs.lookup source with
  | some known => exact .inl ⟨known, rfl, rfl⟩
  | none =>
    refine .inr ⟨rfl, _, rfl, ?_⟩
    split
    · rename_i full
      exact .inl ⟨full, rfl⟩
    · rename_i room
      exact .inr ⟨Nat.lt_of_not_le room, rfl⟩

/-- An evaluator keeps one program for each of its sources, that of the source, and not too many. -/
structure Sound (ev : Evaluator) : Prop where
  faithful : ev.Faithful
  distinct : (ev.programs.map (·.1)).Nodup
  bounded : ev.size ≤ capacity

namespace Sound

variable {ev : Evaluator}

theorem fresh : Evaluator.fresh.Sound :=
  ⟨.fresh, List.nodup_nil, Nat.zero_le capacity⟩

theorem program (sound : ev.Sound) (source : String) : (ev.program source).2.Sound := by
  have faithful := (sound.faithful.program source).2
  rcases ev.program_cases source with ⟨known, _, same⟩ | ⟨unknown, kept, added, full | room⟩
  · rwa [same]
  · obtain ⟨_, rfl⟩ := full
    rw [added] at faithful ⊢
    exact ⟨faithful, List.nodup_singleton source, Nat.le_of_ble_eq_true rfl⟩
  · obtain ⟨room, rfl⟩ := room
    rw [added] at faithful ⊢
    have new : source ∉ ev.programs.map (·.1) := by
      intro kept
      obtain ⟨pair, member, rfl⟩ := List.mem_map.mp kept
      simpa using List.lookup_eq_none_iff.mp unknown pair member
    exact ⟨faithful, List.nodup_cons.mpr ⟨new, sound.distinct⟩, room⟩

/-- Settling a property leaves an evaluator sound. -/
theorem settle {α : Type} (sound : ev.Sound) (read : Value → Option α)
    (value : Option (Animated α)) (fallback : α) (scope : Scope) :
    (ev.settle read value fallback scope).2.Sound := by
  match value with
  | none => exact sound
  | some (.literal v) => exact sound
  | some (.formula source) => exact sound.program source

/-- A call leaves an evaluator sound. -/
theorem answer (sound : ev.Sound) (call : Call) : (ev.answer call).2.Sound := by
  cases call with
  | evaluate source scope => exact sound.program source
  | number value fallback scope => exact sound.settle Value.finiteNumber? value fallback scope
  | truth value fallback scope => exact sound.settle Value.truth? value fallback scope
  | text value fallback scope => exact sound.settle Value.text? value fallback scope
  | color value fallback scope => exact sound.settle Value.color? value fallback scope
  | clear => exact fresh

theorem answers (sound : ev.Sound) (calls : List Call) : (ev.answers calls).2.Sound := by
  induction calls generalizing ev with
  | nil => exact sound
  | cons call calls ih => exact ih (sound.answer call)

/-- Reading a formula adds one program if its source is new, and starts over from one beyond the
capacity. -/
theorem size_program (sound : ev.Sound) (source : String) :
    (ev.program source).2.size =
      if (ev.programs.lookup source).isSome then ev.size
      else if ev.size = capacity then 1
      else ev.size + 1 := by
  have bounded := sound.bounded
  rcases ev.program_cases source with ⟨known, found, same⟩ | ⟨unknown, kept, added, full | room⟩
  · simp [found, same]
  · obtain ⟨full, rfl⟩ := full
    rw [added, unknown, if_neg (by simp), if_pos (Nat.le_antisymm bounded full)]
    rfl
  · obtain ⟨room, rfl⟩ := room
    rw [added, unknown, if_neg (by simp), if_neg (Nat.ne_of_lt room)]
    rfl

end Sound

/-! ### What calls are answered -/

/-- Faithful evaluators settle a property alike. -/
theorem Faithful.settle_eq {α : Type} {ev ev' : Evaluator} (faithful : ev.Faithful)
    (faithful' : ev'.Faithful) (read : Value → Option α) (value : Option (Animated α))
    (fallback : α) (scope : Scope) :
    (ev.settle read value fallback scope).1 = (ev'.settle read value fallback scope).1 :=
  (faithful.settle read value fallback scope).1.trans
    (faithful'.settle read value fallback scope).1.symm

/-- Faithful evaluators answer a call in one way. -/
theorem Faithful.answer_eq {ev ev' : Evaluator} (faithful : ev.Faithful) (faithful' : ev'.Faithful)
    (call : Call) : (ev.answer call).1 = (ev'.answer call).1 := by
  cases call with
  | evaluate source scope =>
    have same : (ev.program source).1 = (ev'.program source).1 :=
      (faithful.program source).1.trans (faithful'.program source).1.symm
    exact congrArg (fun program => Answer.outcome (runProgram program scope)) same
  | number value fallback scope =>
    exact congrArg Answer.number (faithful.settle_eq faithful' _ value fallback scope)
  | truth value fallback scope =>
    exact congrArg Answer.truth (faithful.settle_eq faithful' _ value fallback scope)
  | text value fallback scope =>
    exact congrArg Answer.text (faithful.settle_eq faithful' _ value fallback scope)
  | color value fallback scope =>
    exact congrArg Answer.color (faithful.settle_eq faithful' _ value fallback scope)
  | clear => rfl

/-- A sound evaluator answers each call as a fresh one would. -/
theorem Sound.answers_eq {ev : Evaluator} (sound : ev.Sound) (calls : List Call) :
    (ev.answers calls).1 = calls.map fun call => (Evaluator.fresh.answer call).1 := by
  induction calls generalizing ev with
  | nil => rfl
  | cons call calls ih =>
    rw [List.map_cons, ← ih (sound.answer call), ← sound.faithful.answer_eq .fresh call]
    rfl

/-- **Keeping programs cannot be observed.** However an evaluator has been called, each call is
answered as by a fresh evaluator. Every program that it keeps is that of its source, a failed one
included; no source is kept twice, and there are never more programs than the capacity: one more
than that leaves the last one alone. -/
theorem answers_eq_fresh (calls : List Call) :
    (fresh.answers calls).1 = (calls.map fun call => (fresh.answer call).1) ∧
      let ev := (fresh.answers calls).2
      (∀ source program, ev.programs.lookup source = some program → program = Expr.parse source) ∧
        (ev.programs.map (·.1)).Nodup ∧ ev.size ≤ 1024 ∧
        ∀ source, (ev.program source).2.size =
          if (ev.programs.lookup source).isSome then ev.size
          else if ev.size = 1024 then 1
          else ev.size + 1 := by
  have sound := Sound.fresh.answers calls
  exact ⟨Sound.fresh.answers_eq calls, sound.faithful, sound.distinct, sound.bounded,
    sound.size_program⟩

end Evaluator

end Playfield.Formula
