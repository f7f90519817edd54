import Playfield.Proofs.Session.Reachable

/-!
What operations answer.

`reply` is what the caller of an operation gets back, an error included, and `replies` is the record
of a whole sequence. An operation that is refused leaves the session as it is (`after_of_refused`).
-/

namespace Playfield.Session

/-- What an operation gives back. -/
inductive Reply where
  | refused (error : SessionError)
  | done
  /-- How many there are now: objects, events, or agents with keyframes. -/
  | count (n : Nat)
  | removed (o : SceneObject)
  | drawn (output : StepOutput)
  | ran (summary : RunSummary)
  /-- The last frame drawn, and the clock after the lapse of time. -/
  | ticked (output : Option StepOutput) (clock : Clock)
  | shown (f : Frame)

/-- What an edit replies that comes to a result or is refused. -/
@[simp]
def Reply.ofOutcome (shown : α → Reply) : Except SessionError α → Reply
  | .ok a => shown a
  | .error error => .refused error

def reply (s : Session) : Operation → Reply
  | .add o => .ofOutcome .count ((add o).perform s).1
  | .set id o => .ofOutcome (fun _ => .done) ((set id o).perform s).1
  | .delete id => .ofOutcome .removed ((delete id).perform s).1
  | .replaceScene _ => .done
  | .setEvents events => .count events.length
  | .setKeyframes keyframes => .count (s.setKeyframes keyframes).keyframedAgents
  | .step => .drawn s.step.1
  | .run requested => .ran (s.run requested).1
  | .tick clock delta => .ticked (s.tick clock delta).1 (s.tick clock delta).2.2
  | .preview => .shown s.preview
  | .reset => .done

/-- What operations reply one after the other. -/
def replies (s : Session) : List Operation → List Reply
  | [] => []
  | operation :: rest => s.reply operation :: (s.after operation).replies rest

/-- An operation that is refused leaves the session as it is. -/
theorem after_of_refused {s : Session} {operation : Operation} {error : SessionError}
    (refused : s.reply operation = .refused error) : s.after operation = s := by
  cases operation with
  | add o =>
    simp only [reply, after, perform_add] at refused ⊢
    split_ifs at refused ⊢
    · rfl
    · rfl
    · cases refused
  | set id o =>
    simp only [reply, after, perform_set] at refused ⊢
    split_ifs at refused ⊢
    · cases refused
    · rfl
  | delete id =>
    simp only [reply, after, perform_delete] at refused ⊢
    split at refused
    · cases refused
    · rfl
  | _ => cases refused

end Playfield.Session
