import BalboaRs485.Lib.Machine
import BalboaRs485.Lib.Memo
import BalboaRs485.Lib.Dict
import BalboaRs485.Lib.Deque
import BalboaRs485.Lib.Scanner
import BalboaRs485.Lib.Moments
import BalboaRs485.Lib.Cyclic
import BalboaRs485.Protocol.Frames
import BalboaRs485.Protocol.Framing
import BalboaRs485.Protocol.Stream
import BalboaRs485.Protocol.Checksum
import BalboaRs485.Protocol.Messages
import BalboaRs485.Protocol.Commands
import BalboaRs485.Protocol.Settings
import BalboaRs485.Protocol.FilterRecord
import BalboaRs485.State.Model
import BalboaRs485.Command.Planning
import BalboaRs485.Command.Engine
import BalboaRs485.Command.Admitted
import BalboaRs485.Command.Landing
import BalboaRs485.Command.Convergence
import BalboaRs485.Command.Core
import BalboaRs485.Command.Step
import BalboaRs485.Command.Barrier
import BalboaRs485.Command.Intents
import BalboaRs485.Command.Verification
import BalboaRs485.Command.Pending
import BalboaRs485.Command.Invariant
import BalboaRs485.Command.Reminder
import BalboaRs485.Command.Budget
import BalboaRs485.Command.Chain
import BalboaRs485.Command.Readback
import BalboaRs485.Command.Occupied
import BalboaRs485.Command.Deadline
import BalboaRs485.Command.Rejection
import BalboaRs485.Session.Basic
import BalboaRs485.Session.Range
import BalboaRs485.Session.Restoration
import BalboaRs485.Session.Progress
import BalboaRs485.Session.Record
import BalboaRs485.Session.Format
import BalboaRs485.Session.Absorbing
import BalboaRs485.Session.Transitions
import BalboaRs485.Session.LocalTime
import BalboaRs485.Prediction.Model
import BalboaRs485.Prediction.Reload
import BalboaRs485.Lib.Regression
import BalboaRs485.Prediction.Collector
import BalboaRs485.Lib.Maxima
import BalboaRs485.Energy.Counter
import BalboaRs485.Transport.Channel
import BalboaRs485.Transport.Assignment
import BalboaRs485.Transport.Conflict
import BalboaRs485.Transport.Collision
import BalboaRs485.Lib.Proc
import BalboaRs485.Transport.Policy
import BalboaRs485.Transport.Connection
import BalboaRs485.Transport.Stages
import BalboaRs485.Transport.Slots
import BalboaRs485.Transport.Freshness
import BalboaRs485.Transport.Allocation
import BalboaRs485.Transport.Veto
import BalboaRs485.Transport.Synchronization
import BalboaRs485.Transport.Ready
import BalboaRs485.Runtime.Commands
import BalboaRs485.Runtime.Guards
import BalboaRs485.Runtime.Metadata
import BalboaRs485.Runtime.Confirmation
import BalboaRs485.Runtime.Runner
import BalboaRs485.Runtime.Steps
import BalboaRs485.Runtime.WriteAhead
import BalboaRs485.Runtime.Profile
import BalboaRs485.Runtime.Attempts
import BalboaRs485.Runtime.Closures
import BalboaRs485.Runtime.Expiry
import BalboaRs485.Runtime.Spa
import BalboaRs485.Runtime.Stretch
import BalboaRs485.Runtime.Admission
import BalboaRs485.Runtime.Filters
import BalboaRs485.Runtime.Coordinator
import BalboaRs485.Runtime.Waiters
import BalboaRs485.Lib.Simulation
import BalboaRs485.Lib.Checkpoint
import BalboaRs485.Runtime.Link
import BalboaRs485.Runtime.Journal
import BalboaRs485.Runtime.Refinement
import BalboaRs485.Runtime.Awaiting
import BalboaRs485.Runtime.Wire
import BalboaRs485.Runtime.SessionFile
import BalboaRs485.Runtime.Storage
import BalboaRs485.Energy.Estimate
import BalboaRs485.Energy.Controller
import BalboaRs485.Energy.Published
import BalboaRs485.Command.Served
import BalboaRs485.Lib.WriteBack
import BalboaRs485.Prediction.Eta
import BalboaRs485.Prediction.Controller
import BalboaRs485.Prediction.Learning
import BalboaRs485.Prediction.Saved
import BalboaRs485.Prediction.Provenance
