import Playfield.Formula.PrefixForm
import Playfield.Main
import Playfield.Proofs.Draw.RoundTrip
import Playfield.Proofs.Formula.Calls
import Playfield.Proofs.Formula.ParserComplete
import Playfield.Proofs.Frame.Simultaneous
import Playfield.Proofs.Order.CycleMembers
import Playfield.Proofs.Session.Appended
import Playfield.Proofs.Session.Override
import Playfield.Proofs.Stage.Preview
import Playfield.Proofs.Frame.Roster
import Playfield.Proofs.Frame.Entries
import Playfield.Proofs.Frame.Looks
import Playfield.Proofs.Stage.Looks
import Playfield.Proofs.Agent.Heading
import Playfield.Proofs.Frame.Heading
import Playfield.Proofs.Stage.Seed
import Playfield.Proofs.Session.Editing
import Playfield.Proofs.Clock
import Playfield.Proofs.Frame.Shedding
import Playfield.Proofs.Stage.Deletion
import Playfield.Proofs.Stage.Ticking
import Playfield.Proofs.Agent.Keyframes
import Playfield.Proofs.Session.Timing
import Playfield.Proofs.Frame.Bounds
import Playfield.Proofs.Frame.Parents
import Playfield.Proofs.Order.Settled
import Playfield.Proofs.Formula.Finite
import Playfield.Proofs.Formula.FaultPlace
import Playfield.Proofs.Formula.Addressing
import Playfield.Proofs.Formula.Nesting
import Playfield.Proofs.Agent.Script
import Playfield.Proofs.Guarded.Frame
import Playfield.Proofs.Clock.Waiting
import Playfield.Proofs.Session.Wrapping
import Playfield.Proofs.Frame.Idle
import Playfield.Proofs.Guarded.CycleSearch
import Playfield.Proofs.Session.Streams
