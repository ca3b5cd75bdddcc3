import BalboaRs485.Lib.Simulation
import BalboaRs485.Runtime.Spa

/-!
# The connection and its participant

`Connection` takes the answers of its participant as inputs, and `SpaRuntime` takes the calls of
its connection. A `Link` is the two of them together, as `SpaRuntime.__init__` wires them: the
loop of `_session` with every line that reaches the participant, and the calls that other tasks
make of the runtime while the loop waits.

The loop waits in its read, while it opens a socket, and in `drain`. Everything between two of
these awaits happens at once. A step answers with everything it did, in order: the effects on
the socket, and the calls of the runtime with what they returned.
-/

namespace BalboaRs485

/-- What a `SpaRuntime` and its connection are built with (`runtime.py` lines 212–240). -/
structure LinkConfig where
  runtime : RuntimeConfig
  requestedMode : Mode

/-- The participant of the connection is the runtime's `_Commands`. -/
def LinkConfig.connection (cfg : LinkConfig) : ConnectionConfig where
  requestedMode := cfg.requestedMode
  timing := cfg.runtime.timing
  participant := true
  sha256 := cfg.runtime.sha256

/-- Not a call that the connection makes of its participant. -/
def SpaRuntime.Op.foreign {ρ : Type} : SpaRuntime.Op ρ → Bool
  | .publish _ | .update _ | .prepare _ | .sent .. | .received .. | .disconnected _ => false
  | _ => true

/-- A `SpaRuntime` with its connection. -/
structure Link (ρ : Type) where
  connection : Connection
  runtime : SpaRuntime ρ

namespace Link

variable {ρ α : Type}

/-! ## Inputs and outputs -/

/-- A call of the runtime by another task. -/
def Call (ρ : Type) : Type := { op : SpaRuntime.Op ρ // op.foreign = true }

/-- What an iteration of the loop reads from outside. -/
structure Input (ρ : Type) where
  read : Read
  /-- The clock after the read. -/
  now : ℚ
  /-- The clock where the named site asks for it. -/
  clock : Site → ℚ
  drain : Site → Drain
  /-- The clock at the receipt (line 560). -/
  receiptAt : ℚ
  /-- The clock in the `finally` block (line 594). -/
  closedAt : ℚ
  /-- What other tasks call while the loop waits for the socket to take a frame. -/
  calls : Site → List (Call ρ)
  /-- The clock of an event loop never goes back. -/
  forward : now ≤ receiptAt

/-- The inputs of the connection, with the answers of its participant. -/
def Input.iteration (i : Input ρ) (busy recovery : Bool) (outbound : Option Frame) : Iteration where
  read := i.read
  now := i.now
  clock := i.clock
  drain := i.drain
  busy := busy
  recovery := recovery
  outbound := outbound

/-- The inputs of the stages that do not ask the participant. -/
def Input.alone (i : Input ρ) : Iteration := i.iteration false false none

/-- What happens in a step. -/
inductive Event (ρ : Type) where
  | effect (e : Effect)
  | call (op : SpaRuntime.Op ρ) (out : SpaRuntime.Out ρ)

/-- The exceptions that leave `_session`. -/
inductive Error where
  | connection (e : ConnectionError)
  /-- The participant has raised. -/
  | participant (e : CommandsError)
  /-- The `assert` of `update` (`runtime.py` line 95). -/
  | assertion
deriving DecidableEq

/-- Procedures of the loop. -/
abbrev LinkProc (ρ α : Type) := Proc (Link ρ) (Event ρ) Error α

/-! ## Stages -/

/-- A stage of the connection: what it did, and how it ended. -/
def attempt (m : SessionProc α) : LinkProc ρ (List Effect × Except ConnectionError α) := fun w =>
  ({ w with connection := (m w.connection).1 }, (m w.connection).2.1.map .effect,
    .ok (m w.connection).2)

/-- A stage ends as it did. -/
def conclude : Except ConnectionError α → LinkProc ρ α
  | .ok a => pure a
  | .error e => .raise (.connection e)

/-- A stage that does not wait. -/
def stage (m : SessionProc α) : LinkProc ρ α := do
  let ended ← attempt m
  conclude ended.2

/-- A call of the runtime. -/
def perform (cfg : LinkConfig) (op : SpaRuntime.Op ρ) : LinkProc ρ (SpaRuntime.Out ρ) := fun w =>
  ({ w with runtime := (w.runtime.step cfg.runtime op).1 },
    [.call op (w.runtime.step cfg.runtime op).2], .ok (w.runtime.step cfg.runtime op).2)

/-- The runtime reads `connection.snapshot` where it needs it. -/
def mirror (cfg : LinkConfig) : LinkProc ρ Unit := do
  let w ← .get
  let _ ← perform cfg (.publish w.connection.snapshot)

/-- Other tasks run. -/
def others (cfg : LinkConfig) : List (Call ρ) → LinkProc ρ Unit
  | [] => pure ()
  | call :: calls => do
    mirror cfg
    let _ ← perform cfg call.val
    others cfg calls

/-- A stage that waits behind its write, if it writes. -/
def drainingStage (cfg : LinkConfig) (calls : List (Call ρ)) (m : SessionProc α) : LinkProc ρ α := do
  let ended ← attempt m
  .when (writes ended.1 ≠ []) (others cfg calls)
  conclude ended.2

/-! ## The loop -/

/-- The loop over the frames (lines 362–393): a message reaches the participant as well. -/
def hear (cfg : LinkConfig) (now : ℚ) : List Frame → LinkProc ρ Unit
  | [] => pure ()
  | frame :: frames => do
    let w ← .get
    match decodeMessage frame w.connection.policy.address w.connection.policy.ctsAddress with
    | .error _ => hear cfg now frames
    | .ok message =>
      stage (.modify fun c => Connection.absorb now c frame)
      let _ ← perform cfg (.received message w.connection.epoch now)
      hear cfg now frames

/-- Lines 361–406. -/
def observe (cfg : LinkConfig) (now : ℚ) (frames : List Frame) : LinkProc ρ Unit := do
  let w ← .get
  hear cfg now frames
  stage (.modify fun c => c.veto cfg.connection w.connection.policy.channelSeen)

/-- The CTS a receipt carries (lines 561–563). -/
def ctsAt (policy : BusPolicy) (now : ℚ) : Option ℚ :=
  if policy.mode = .bwaTcp ∨ policy.mode.direct then none else some now

/-- The participant learns that its frame is out (lines 558–564). -/
def report (cfg : LinkConfig) (message : Transmission) (at_ : ℚ) (cts : Option ℚ) :
    LinkProc ρ Unit := do
  match ← perform cfg (.sent message at_ cts) with
  | .receipt (.error e) => .raise (.participant e)
  | _ => pure ()

/-- The transmission of the participant (lines 542–566). -/
def transmit (cfg : LinkConfig) (i : Input ρ) (frames : List Frame) (outbound : Transmission) :
    LinkProc ρ Unit := do
  let w ← .get
  match w.connection.admission cfg.connection i.alone frames .participant with
  | none => pure ()
  | some policy =>
    let frame := outbound.frame.readdress policy.address
    stage (.modify fun c => { c with policy })
    stage (.emit (.write ⟨.participant, frame, i.clock .participant⟩))
    report cfg { outbound with frame } i.receiptAt (ctsAt policy i.now)
    others cfg (i.calls .participant)
    stage (Connection.awaitDrain i.alone .participant)

/-- The turn of the participant on a READY connection (lines 540–566). -/
def offer (cfg : LinkConfig) (i : Input ρ) (frames : List Frame) (managementSent : Bool) :
    LinkProc ρ Unit := do
  match ← perform cfg (.prepare i.now) with
  | .handed (some outbound) _ =>
    .when (managementSent = false) (transmit cfg i frames outbound)
  | _ => pure ()

/-- What `update` asserts of the snapshot of a connection (`runtime.py` lines 94–95). -/
def Undated (c : Connection) : Prop :=
  c.configuration ≠ none ∧ c.status ≠ none ∧ c.lastStatus = none

instance (c : Connection) : Decidable (Undated c) := inferInstanceAs (Decidable (_ ∧ _))

/-- The participant (lines 535–566). -/
def participate (cfg : LinkConfig) (i : Input ρ) (frames : List Frame) (managementSent : Bool) :
    LinkProc ρ Unit := do
  mirror cfg
  let w ← .get
  .when (Undated w.connection) (.raise .assertion)
  let _ ← perform cfg (.update i.now)
  let w ← .get
  if w.runtime.commands.engine.resyncEpoch = some w.connection.epoch then
    .raise (.connection .resynchronization)
  else .when (w.connection.state = .ready) (offer cfg i frames managementSent)

/-- The part of the loop for a supported or unsupported policy (lines 444–522). -/
def progress (cfg : LinkConfig) (i : Input ρ) (frames : List Frame)
    (degraded managementSent : Bool) : LinkProc ρ Unit := do
  let w ← .get
  drainingStage cfg (i.calls .query)
    (Connection.progress cfg.connection (i.iteration w.runtime.commands.busy false none) frames degraded
      managementSent)

/-- One iteration of the loop (lines 314–580). -/
def iteration (cfg : LinkConfig) (i : Input ρ) : LinkProc ρ Unit := do
  let frames ← stage (Connection.receive cfg.connection i.alone)
  observe cfg i.now frames
  let managementSent ←
    drainingStage cfg (i.calls .management) (Connection.manage cfg.connection i.alone frames)
  let degraded ← stage (Connection.awaitTraffic cfg.connection i.alone)
  progress cfg i frames degraded managementSent
  participate cfg i frames managementSent
  drainingStage cfg (i.calls .idle) (Connection.idle cfg.connection i.alone frames managementSent)

/-- `_run` catches no exception of the participant. -/
def Error.phase : Error → Phase
  | .connection e => Connection.ConnectionError.phase e
  | .participant _ => .stopped
  | .assertion => .stopped

/-- The `finally` block (lines 587–594). -/
def close (cfg : LinkConfig) (phase : Phase) (at_ : ℚ) : LinkProc ρ Unit := do
  stage (.modify fun c => c.teardown phase)
  let _ ← perform cfg (.disconnected at_)

/-- An iteration of an open connection, with the blocks around the loop. -/
def iterate (cfg : LinkConfig) (i : Input ρ) (w : Link ρ) : Link ρ × List (Event ρ) :=
  match iteration cfg i w with
  | (w, events, .ok ()) => (w, events)
  | (w, events, .error e) =>
    ((close cfg e.phase i.closedAt w).1, events ++ (close cfg e.phase i.closedAt w).2.1)

/-- The start of `_session` (lines 294–317): other tasks run while the socket is opened. -/
def connect (cfg : LinkConfig) (nonce : Nonce) (opening : Connection.Opening) (calls : List (Call ρ))
    (closedAt : ℚ) : LinkProc ρ Unit := do
  let w ← .get
  stage (.modify fun c => { c with state := .connecting })
  others cfg calls
  stage (.modify fun _ => w.connection.connect cfg.connection nonce opening)
  match opening with
  | .opened _ => pure ()
  | _ =>
    let _ ← perform cfg (.disconnected closedAt)

/-! ## Runs -/

/-- What happens to a link. -/
inductive Op (ρ : Type) where
  | connect (nonce : Nonce) (opening : Connection.Opening) (calls : List (Call ρ)) (closedAt : ℚ)
  | iterate (i : Input ρ)
  /-- Another task calls the runtime between two iterations. -/
  | call (call : Call ρ)

/-- A session is only started without a socket, and the loop only runs with one. -/
def step (cfg : LinkConfig) (w : Link ρ) : Op ρ → Link ρ × List (Event ρ)
  | .connect nonce opening calls closedAt =>
    if w.connection.phase = .closed then
      ((connect cfg nonce opening calls closedAt w).1,
        (connect cfg nonce opening calls closedAt w).2.1)
    else (w, [])
  | .iterate i => if w.connection.phase = .opened then iterate cfg i w else (w, [])
  | .call call => ((others cfg [call] w).1, (others cfg [call] w).2.1)

/-- The machine of a link in a world; `nonce` is the one its first policy draws. -/
def machine (cfg : LinkConfig) (nonce : Nonce) (world : ρ) : Machine (Link ρ) (Op ρ) (List (Event ρ))
    where
  init := ⟨.make cfg.connection nonce, { world }⟩
  step := step cfg

/-- The link after the first `n` steps of a run. -/
def linkAt (cfg : LinkConfig) (nonce : Nonce) (world : ρ) (run : List (Op ρ)) (n : ℕ) : Link ρ :=
  (machine cfg nonce world).stateAt run n

/-- The effects among the events. -/
def effects (events : List (Event ρ)) : List Effect :=
  events.filterMap fun
    | .effect e => some e
    | .call _ _ => none

/-- The calls of the runtime among the events. -/
def calls (events : List (Event ρ)) : List (SpaRuntime.Op ρ × SpaRuntime.Out ρ) :=
  events.filterMap fun
    | .effect _ => none
    | .call op out => some (op, out)

/-- Everything that has happened in the first `n` steps of a run. -/
def log (cfg : LinkConfig) (nonce : Nonce) (world : ρ) (run : List (Op ρ)) (n : ℕ) : List (Event ρ) :=
  (((machine cfg nonce world).trace run).take n).flatMap Prod.snd

end Link

end BalboaRs485
