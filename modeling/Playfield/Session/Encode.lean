import Playfield.Draw.Encode
import Playfield.Session

/-!
What a session gives out, as JSON.
-/

namespace Playfield

open Json

def StepOutput.encode (o : StepOutput) : Json :=
  .object [("frame", ofNat o.frame), ("t", ofReal o.t), ("background", .text o.background),
    ("commands", .list (o.commands.map DrawCommand.encode)),
    ("objects", o.objects.encode ResolvedObject.encode)]

def RunSummary.encode (r : RunSummary) : Json :=
  .object [("framesRun", ofNat r.framesRun), ("endFrame", ofNat r.endFrame),
    ("objects", r.objects.encode ResolvedObject.encode)]

/-- The three parts of a frame under their names. -/
def Frame.encodeFields (f : Frame) : List (String × Json) :=
  [("commands", .list (f.commands.map DrawCommand.encode)),
    ("objects", f.objects.encode ResolvedObject.encode),
    ("agentStates", f.states.encode AgentState.encode)]

end Playfield
