import BalboaRs485.Lib.Machine
import BalboaRs485.Lib.Proc
import BalboaRs485.Protocol.Commands
import BalboaRs485.Protocol.Messages
import BalboaRs485.Transport.Policy

/-!
# The owned socket

Model of `transport/connection.py`. One iteration of the loop of `_session` is the
procedure `iteration`; its stages follow the text of the loop, and an exception
keeps what has been changed and written before it. The stages read the socket,
the clock, the outcome of each `drain` and the answers of the participant from an
`Iteration`; what is written is the output.

Left out is what only telemetry reads: events, counters, traffic, backoff and the
notifications to the participant, which cannot change the connection.
-/

namespace BalboaRs485

/-- `ConnectionState` (lines 33–41). -/
inductive ConnectionState where
  | disconnected
  | connecting
  | waitingForFrame
  | detectingProtocol
  | synchronizing
  | ready
  | degraded
  | recovering
deriving DecidableEq

/-- `Timing` (`transport/timing.py` lines 9–40): the fields that are read here, and
    what `__post_init__` checks of them. -/
structure Timing where
  firstFrame : ℚ := 12
  degradeAfter : ℚ := 3
  staleAfter : ℚ := 8
  recoverAfter : ℚ := 12
  syncTimeout : ℚ := 12
  queryTimeout : ℚ := 2
  queryAttempts : ℕ := 3
  refreshInterval : ℚ := 60
  ctsWindow : ℚ := 1 / 5
  positive : 0 < firstFrame ∧ 0 < degradeAfter ∧ 0 < staleAfter ∧ 0 < recoverAfter ∧
    0 < syncTimeout ∧ 0 < queryTimeout ∧ 0 < queryAttempts ∧ 0 < refreshInterval ∧ 0 < ctsWindow :=
    by decide +kernel
  ordered : degradeAfter < staleAfter ∧ staleAfter < recoverAfter := by decide +kernel

/-- `Timing()`. -/
def Timing.default : Timing := {}

/-- What a `SpaConnection` is built with; `sha256` is the hash behind the signature
    of a configuration. -/
structure ConnectionConfig where
  requestedMode : Mode
  timing : Timing := .default
  /-- There is a participant. -/
  participant : Bool := true
  sha256 : Bytes → Bytes

/-- The exceptions that leave `_session`. -/
inductive ConnectionError where
  | eof
  | read
  | firstFrame
  | queryAttempts
  | assignmentMissed
  | hardDeadline
  | syncDeadline
  | resynchronization
  | drain
  | cancelled
deriving DecidableEq

/-- Whether a socket is open. A cancelled task never opens one again. -/
inductive Phase where
  | closed
  | opened
  | stopped
deriving DecidableEq

/-- `SpaConnection` (lines 127–180). -/
structure Connection where
  phase : Phase := .closed
  state : ConnectionState := .disconnected
  policy : BusPolicy
  parser : FrameParser := {}
  epoch : ℕ := 0
  configuration : Option Configuration := none
  revision : ℕ := 0
  lastSignature : Option Bytes := none
  status : Option StatusMessage := none
  lastStatus : Option ℚ := none
  statusSequence : ℕ := 0
  syncStatusSequence : ℕ := 0
  syncStarted : Option ℚ := none
  information : Option SystemInformationMessage := none
  capabilities : Option CapabilitiesMessage := none
  pending : Option Query := none
  pendingSince : ℚ := 0
  attempts : ℕ := 0
  lastValid : Option ℚ := none
  lastReady : Option ℚ := none
  syncActive : Bool := false
  syncCommitted : Bool := false
  refreshAt : ℚ := 0
  openedAt : ℚ := 0
  wireTail : Bytes := []
  assignmentRequests : ℕ := 0
  assignmentNonces : List Nonce := []

/-! ## Inputs and outputs -/

/-- The four places of the loop that write a frame. -/
inductive Site where
  | management
  | query
  | participant
  | idle
deriving DecidableEq

/-- A frame handed to the socket and the clock reading it was admitted at. -/
structure Write where
  site : Site
  frame : Frame
  admittedAt : ℚ
deriving DecidableEq

/-- What an iteration leaves behind besides its state: the frames it writes and its
    calls of `_begin_sync`. -/
inductive Effect where
  | write (w : Write)
  | beginSync
deriving DecidableEq

/-- The end of `reader.read` (lines 315–321); `data []` is the end of the stream. -/
inductive Read where
  | timedOut
  | data (chunk : Bytes)
  | failed
  | cancelled

/-- The end of `writer.drain()` under its timeout. -/
inductive Drain where
  | done
  | failed
  | cancelled
deriving DecidableEq

/-- What an iteration reads from outside. -/
structure Iteration where
  read : Read
  /-- The clock after the read. -/
  now : ℚ
  /-- The clock where the named site asks for it. -/
  clock : Site → ℚ
  drain : Site → Drain
  /-- `participant.busy`. -/
  busy : Bool
  /-- `participant.recovery_epoch == self._epoch` after `update`. -/
  recovery : Bool
  /-- The frame `participant.prepare` returns. -/
  outbound : Option Frame

/-- The procedures of the loop. -/
abbrev SessionProc (α : Type) := Proc Connection Effect ConnectionError α

namespace Connection

/-- `SpaConnection(...)`: nothing is connected. -/
def make (cfg : ConnectionConfig) (nonce : Nonce) : Connection where
  policy := .make cfg.requestedMode nonce

/-! ## Receiving (lines 314–360) -/

/-- The last `count` bytes, `data[-count:]`. -/
def lastBytes (data : Bytes) (count : ℕ) : Bytes := data.drop (data.length - count)

/-- A chunk enters the parser and the tail of the wire (lines 326–330), and its
    frames end the wait for the first one (lines 334–351). -/
def receiveChunk (c : Connection) (now : ℚ) (chunk : Bytes) : Connection × List Frame :=
  let frames := (c.parser.feed chunk).1
  ({ c with
      parser := (c.parser.feed chunk).2
      wireTail := lastBytes (c.wireTail ++ chunk) 127
      lastValid := if frames ≠ [] then some now else c.lastValid
      state :=
        if frames ≠ [] ∧ c.state = .waitingForFrame then .detectingProtocol else c.state },
    frames)

/-- The query is given up (lines 354–358). -/
def queryTimedOut (cfg : ConnectionConfig) (c : Connection) (now : ℚ) : Prop :=
  c.pending ≠ none ∧ cfg.timing.queryTimeout ≤ now - c.pendingSince

instance (cfg : ConnectionConfig) (c : Connection) (now : ℚ) : Decidable (c.queryTimedOut cfg now) :=
  inferInstanceAs (Decidable (_ ∧ _))

/-- Lines 315–321: no bytes after a timeout, otherwise the chunk. -/
def readChunk (i : Iteration) : SessionProc Bytes :=
  match i.read with
  | .timedOut => pure []
  | .data [] => .raise .eof
  | .data chunk => pure chunk
  | .failed => .raise .read
  | .cancelled => .raise .cancelled

/-- The deadline for the first frame (lines 324–325). -/
def awaitFirstFrame (cfg : ConnectionConfig) (i : Iteration) : SessionProc Unit := do
  let c ← .get
  .when (c.lastValid = none ∧ cfg.timing.firstFrame ≤ i.now - c.openedAt) (.raise .firstFrame)

/-- Lines 326–351. Returns the frames of the batch. -/
def feed (i : Iteration) (chunk : Bytes) : SessionProc (List Frame) := do
  let c ← .get
  if chunk = [] then return []
  else
    .modify fun c => (c.receiveChunk i.now chunk).1
    return (c.receiveChunk i.now chunk).2

/-- The query timeout (lines 354–360). -/
def expireQuery (cfg : ConnectionConfig) (i : Iteration) : SessionProc Unit := do
  let c ← .get
  if c.queryTimedOut cfg i.now then
    .modify fun c => { c with pending := none }
    .when (cfg.timing.queryAttempts ≤ c.attempts) (.raise .queryAttempts)
  else return

/-- Lines 314–360. Returns the frames of the batch. -/
def receive (cfg : ConnectionConfig) (i : Iteration) : SessionProc (List Frame) := do
  let chunk ← readChunk i
  awaitFirstFrame cfg i
  let frames ← feed i chunk
  expireQuery cfg i
  return frames

/-! ## Messages (lines 361–406) -/

/-- What a decoded message changes (lines 374–393). -/
def take (c : Connection) (now : ℚ) : Message → Connection
  | .status m =>
    { c with status := some m, lastStatus := some now, statusSequence := c.statusSequence + 1 }
  | .ready _ => { c with lastReady := some now }
  | .information m =>
    if c.pending = some .information then
      { c with information := some m, pending := none, attempts := 0 }
    else c
  | .capabilities m =>
    if c.pending = some .capabilities then
      { c with capabilities := some m, pending := none, attempts := 0 }
    else c
  | _ => c

/-- One pass of the loop over the frames (lines 362–393): a frame that does not
    decode is skipped. -/
def absorb (now : ℚ) (c : Connection) (frame : Frame) : Connection :=
  match decodeMessage frame c.policy.address c.policy.ctsAddress with
  | .error _ => c
  | .ok message => { c with policy := c.policy.observe frame }.take now message

/-- The loop over the frames. -/
def absorbAll (c : Connection) (now : ℚ) (frames : List Frame) : Connection :=
  frames.foldl (absorb now) c

/-- Channel evidence stops a mode that shares the bus (lines 394–406). -/
def veto (cfg : ConnectionConfig) (previousChannel : Bool) (c : Connection) : Connection :=
  if c.policy.channelSeen ∧ ¬ previousChannel ∧ cfg.requestedMode ≠ .channelRs485 ∧
      ¬ cfg.requestedMode.direct then
    { c with
      pending := none
      configuration := none
      information := none
      capabilities := none
      syncActive := false
      syncCommitted := false }
  else c

/-- Lines 361–406. -/
def observeFrames (cfg : ConnectionConfig) (now : ℚ) (frames : List Frame) (c : Connection) :
    Connection :=
  (c.absorbAll now frames).veto cfg c.policy.channelSeen

/-! ## Channel management (lines 408–443) -/

/-- `batch_fresh` (lines 408–412): nothing follows the last frame of the batch. -/
def batchFresh (c : Connection) (frames : List Frame) : Bool :=
  match frames.getLast? with
  | none => false
  | some frame => c.parser.bufferedBytes = 0 ∧ encodeFrame frame <:+ c.wireTail

/-- Replace the channel session. -/
def setChannel (c : Connection) (channel : ChannelSession) : Connection :=
  { c with policy := { c.policy with channel } }

/-- A management frame goes out (lines 424–431). -/
def managementSent (c : Connection) (response : Frame) (now : ℚ) : Connection :=
  let requested := response.messageType = 1
  { c.setChannel (c.policy.channel.sent response now) with
    assignmentRequests := c.assignmentRequests + if requested then 1 else 0
    assignmentNonces :=
      if requested then c.policy.channel.nonce :: c.assignmentNonces else c.assignmentNonces }

/-- `async with asyncio.timeout(cts_window): await writer.drain()`. -/
def awaitDrain (i : Iteration) (site : Site) : SessionProc Unit :=
  match i.drain site with
  | .done => pure ()
  | .failed => .raise .drain
  | .cancelled => .raise .cancelled

/-- The reply to channel management (lines 425–443). Returns `management_sent`. -/
def answerManagement (cfg : ConnectionConfig) (i : Iteration) (response : Frame) :
    SessionProc Bool := do
  let c ← .get
  if i.clock .management - i.now ≤ cfg.timing.ctsWindow then
    if response.messageType = 1 ∧ 3 ≤ c.assignmentRequests then
      .modify fun c => c.setChannel { c.policy.channel with failure := some .budget }
      return false
    else
      .emit (.write ⟨.management, response, i.clock .management⟩)
      .modify fun c => c.managementSent response i.now
      awaitDrain i .management
      return true
  else return false

/-- Lines 413–443. Returns `management_sent`. -/
def manage (cfg : ConnectionConfig) (i : Iteration) (frames : List Frame) : SessionProc Bool := do
  .modify fun c => c.setChannel (c.policy.channel.considerAssignments frames i.now)
  let c ← .get
  if cfg.requestedMode = .channelRs485 ∧ c.policy.channel.assignmentExpired = true ∧
      c.assignmentRequests < 3 then
    .raise .assignmentMissed
  else if cfg.requestedMode = .channelRs485 ∧ c.batchFresh frames = true then
    .modify fun c => c.setChannel (c.policy.channel.reply frames i.now).1
    match (c.policy.channel.reply frames i.now).2 with
    | none => return false
    | some response => answerManagement cfg i response
  else return false

/-! ## Synchronization (lines 407, 444–487) -/

/-- `ages` (lines 407 and 445–453). -/
def ages (c : Connection) (now : ℚ) : List ℚ :=
  let age (last : Option ℚ) : ℚ := now - last.getD c.openedAt
  [age c.lastValid] ++
    (if c.policy.supported then
      [age c.lastStatus] ++
        (if c.policy.mode = .classicRs485 ∨ c.policy.mode = .channelRs485 then [age c.lastReady]
        else [])
    else [])

/-- `max(ages) >= limit`. -/
def overdue (c : Connection) (now limit : ℚ) : Bool := (c.ages now).any (limit ≤ ·)

/-- `_begin_sync` (lines 285–292). -/
def beginSync (c : Connection) (now : ℚ) : Connection :=
  { c with
    syncStarted := some now
    syncStatusSequence := c.statusSequence
    information := none
    capabilities := none
    syncActive := true
    syncCommitted := false
    attempts := 0
    pending := none
    state := .synchronizing }

/-- A synchronization is due (lines 457–462). -/
def wantsSync (cfg : ConnectionConfig) (i : Iteration) (c : Connection) : Prop :=
  c.syncStarted = none ∨
    c.syncActive = false ∧ c.refreshAt ≤ i.now ∧ (cfg.participant = false ∨ i.busy = false)

instance (cfg : ConnectionConfig) (i : Iteration) (c : Connection) : Decidable (c.wantsSync cfg i) :=
  inferInstanceAs (Decidable (_ ∨ _))

/-- Both replies are there: the configuration is committed (lines 464–470). -/
def commit (cfg : ConnectionConfig) (c : Connection) : Connection :=
  match c.information, c.capabilities with
  | some information, some capabilities =>
    if c.syncCommitted then c
    else
      let configuration : Configuration := ⟨information, capabilities⟩
      let signature := configuration.signature cfg.sha256
      { c with
        configuration := some configuration
        revision := if some signature ≠ c.lastSignature then c.revision + 1 else c.revision
        lastSignature := some signature
        syncCommitted := true }
  | _, _ => c

/-- `ready` (lines 471–473). -/
def synchronized (c : Connection) : Bool := c.syncCommitted ∧ c.syncStatusSequence < c.statusSequence

/-- The synchronization is over (lines 474–476). -/
def settle (cfg : ConnectionConfig) (c : Connection) (now : ℚ) : Connection :=
  if c.synchronized ∧ c.syncActive then
    { c with syncActive := false, refreshAt := now + cfg.timing.refreshInterval }
  else c

/-- `_transition` to the state of a supported connection (lines 483–487). -/
def enter (c : Connection) (degraded : Bool) : Connection :=
  { c with state :=
      if degraded then .degraded else if c.synchronized then .ready else .synchronizing }

/-- A synchronization starts where one is due. -/
def startSync (cfg : ConnectionConfig) (i : Iteration) : SessionProc Unit := do
  let c ← .get
  if c.wantsSync cfg i then
    .modify fun c => c.beginSync i.now
    .emit .beginSync
  else return

/-- The deadline of a synchronization (lines 477–482). -/
def awaitSync (cfg : ConnectionConfig) (i : Iteration) : SessionProc Unit := do
  let c ← .get
  .when (c.syncActive = true ∧ c.syncStarted.any fun t => cfg.timing.syncTimeout ≤ i.now - t)
    (.raise .syncDeadline)

/-- Lines 456–487. -/
def synchronize (cfg : ConnectionConfig) (i : Iteration) (degraded : Bool) : SessionProc Unit := do
  startSync cfg i
  .modify fun c => (c.commit cfg).settle cfg i.now
  awaitSync cfg i
  .modify fun c => c.enter degraded

/-! ## Writing (lines 488–579) -/

/-- `policy.allows_query` with the arguments all three sites pass. -/
def admission (cfg : ConnectionConfig) (i : Iteration) (frames : List Frame) (site : Site)
    (c : Connection) : Option BusPolicy :=
  c.policy.allowsQuery frames i.now (i.clock site) (if c.batchFresh frames then 0 else 1)
    cfg.timing.ctsWindow

/-- Write a frame where the policy admits it, and wait for the socket. -/
def transmit (cfg : ConnectionConfig) (i : Iteration) (frames : List Frame) (site : Site)
    (frame : Connection → Frame) (update : Connection → Connection) : SessionProc Unit := do
  let c ← .get
  match c.admission cfg i frames site with
  | none => return
  | some policy =>
    .modify fun c => update { c with policy }
    let c ← .get
    .emit (.write ⟨site, frame c, i.clock site⟩)
    awaitDrain i site

/-- The query that is sent next (lines 501–503). -/
def nextQuery (c : Connection) : Query :=
  if c.information = none then .information else .capabilities

/-- The configuration query (lines 488–517). -/
def query (cfg : ConnectionConfig) (i : Iteration) (frames : List Frame)
    (degraded managementSent : Bool) : SessionProc Unit := do
  let c ← .get
  .when (degraded = false ∧ managementSent = false ∧ c.syncCommitted = false ∧ c.pending = none)
    (transmit cfg i frames .query
      (fun c => (encodeQuery c.nextQuery).readdress c.policy.address)
      (fun c => { c with
        pending := some c.nextQuery
        pendingSince := i.now
        attempts := c.attempts + 1 }))

/-- The participant's turn on a READY connection (lines 540–566). -/
def offer (cfg : ConnectionConfig) (i : Iteration) (frames : List Frame) (managementSent : Bool) :
    SessionProc Unit := do
  let c ← .get
  match i.outbound with
  | none => return
  | some outbound =>
    .when (c.state = .ready ∧ managementSent = false)
      (transmit cfg i frames .participant (fun c => outbound.readdress c.policy.address) id)

/-- The participant (lines 535–566). -/
def participate (cfg : ConnectionConfig) (i : Iteration) (frames : List Frame)
    (managementSent : Bool) : SessionProc Unit :=
  .when (cfg.participant = true)
    (if i.recovery = true then .raise .resynchronization else offer cfg i frames managementSent)

/-- The idle reply (lines 567–579). -/
def idle (cfg : ConnectionConfig) (i : Iteration) (frames : List Frame) (managementSent : Bool) :
    SessionProc Unit := do
  let c ← .get
  match c.policy.channel.idleReply frames with
  | none => return
  | some reply =>
    .when (cfg.requestedMode = .channelRs485 ∧ managementSent = false)
      (transmit cfg i frames .idle (fun _ => reply) id)

/-! ## The loop -/

/-- The state of a connection that is not supported (lines 518–522). -/
def detect (c : Connection) (degraded : Bool) : Connection :=
  if c.lastValid ≠ none then
    { c with state := if degraded then .degraded else .detectingProtocol }
  else c

/-- The part of the loop for a supported or unsupported policy (lines 456–522). -/
def progress (cfg : ConnectionConfig) (i : Iteration) (frames : List Frame)
    (degraded managementSent : Bool) : SessionProc Unit := do
  let c ← .get
  if c.policy.supported then
    synchronize cfg i degraded
    query cfg i frames degraded managementSent
  else .modify fun c => c.detect degraded

/-- The hard deadline (lines 454–455). Returns `degraded`. -/
def awaitTraffic (cfg : ConnectionConfig) (i : Iteration) : SessionProc Bool := do
  let c ← .get
  if c.overdue i.now cfg.timing.recoverAfter then .raise .hardDeadline
  else return c.overdue i.now cfg.timing.degradeAfter

/-- One iteration of the loop (lines 314–580). -/
def iteration (cfg : ConnectionConfig) (i : Iteration) : SessionProc Unit := do
  let frames ← receive cfg i
  .modify (observeFrames cfg i.now frames)
  let managementSent ← manage cfg i frames
  let degraded ← awaitTraffic cfg i
  progress cfg i frames degraded managementSent
  participate cfg i frames managementSent
  idle cfg i frames managementSent

/-- The `finally` block (lines 587–592). -/
def teardown (c : Connection) (phase : Phase) : Connection :=
  { c with
    phase
    parser := c.parser.reset
    pending := none
    configuration := none
    status := none
    state := .disconnected }

/-- The phase an exception leaves: only a cancellation ends the task. -/
def ConnectionError.phase : ConnectionError → Phase
  | .cancelled => .stopped
  | _ => .closed

/-- An iteration of an open connection, with the blocks around the loop. -/
def iterate (cfg : ConnectionConfig) (i : Iteration) (c : Connection) : Connection × List Effect :=
  match iteration cfg i c with
  | (c, effects, .ok ()) => (c, effects)
  | (c, effects, .error e) => (c.teardown (ConnectionError.phase e), effects)

/-! ## Opening (lines 294–313) -/

/-- `nonce + 1` modulo 65536. -/
def nextNonce (nonce : Nonce) : Nonce :=
  let n := (nonce.high.toNat * 256 + nonce.low.toNat + 1) % 65536
  ⟨.ofNat (n / 256), .ofNat (n % 256)⟩

/-- The loop that avoids the nonces of old sockets (lines 298–300), for at most `fuel`
    tests. -/
def avoidNonces (used : List Nonce) : ℕ → Nonce → Option Nonce
  | 0, _ => none
  | fuel + 1, nonce => if nonce ∈ used then avoidNonces used fuel (nextNonce nonce) else some nonce

/-- The fields a session starts from (lines 296–311). -/
def prelude (cfg : ConnectionConfig) (nonce : Nonce) (c : Connection) : Connection :=
  { c with
    policy := .make cfg.requestedMode nonce
    syncStarted := none
    syncActive := false
    syncCommitted := false
    lastStatus := none
    lastValid := none
    lastReady := none
    information := none
    capabilities := none
    attempts := 0
    wireTail := [] }

/-- The end of `asyncio.open_connection` (lines 314–316). -/
inductive Opening where
  | opened (now : ℚ)
  | failed
  | cancelled

/-- The start of `_session` with the random nonce it draws. -/
def connect (cfg : ConnectionConfig) (nonce : Nonce) (opening : Opening) (c : Connection) :
    Connection :=
  match avoidNonces c.assignmentNonces (c.assignmentNonces.length + 1) nonce with
  | none => c
  | some nonce =>
    let c := c.prelude cfg nonce
    match opening with
    | .opened now =>
      { c with phase := .opened, epoch := c.epoch + 1, openedAt := now, state := .waitingForFrame }
    | .failed => c.teardown .closed
    | .cancelled => c.teardown .stopped

/-! ## Runs -/

/-- What happens to a connection. -/
inductive Op where
  | connect (nonce : Nonce) (opening : Opening)
  | iterate (i : Iteration)

/-- A session is only started without a socket, and the loop only runs with one. -/
def step (cfg : ConnectionConfig) (c : Connection) : Op → Connection × List Effect
  | .connect nonce opening =>
    if c.phase = .closed then (c.connect cfg nonce opening, []) else (c, [])
  | .iterate i => if c.phase = .opened then iterate cfg i c else (c, [])

/-- The machine of one `SpaConnection`; `nonce` is the one its first policy draws. -/
def connectionMachine (cfg : ConnectionConfig) (nonce : Nonce) :
    Machine Connection Op (List Effect) where
  init := make cfg nonce
  step := step cfg

end Connection

/-- The frames among the effects of an iteration. -/
def writes (effects : List Effect) : List Write :=
  effects.filterMap fun
    | .write w => some w
    | .beginSync => none

end BalboaRs485
