import BalboaRs485.Runtime.Commands
import BalboaRs485.Session.Range

/-!
# The session runner and what runs beside it

Model of `session_runner.py` and of `SpaRuntime.request`. `System` is the runtime
with its participant, one `SessionRunner`, its storage and its two clocks. The
coroutines of the runner hold one `asyncio.Lock` and only suspend at `await save` and
`await apply`; in between they run without interruption. So a step of the system is
one such stretch of a coroutine, a callback of the connection, or a call by somebody
else, in any order. `Lock` says where the holder of the lock waits.

A guard is the closure `_guard` or a closure of another caller, whose answer is an
input. `requests` is a history: every call of `runtime.request` the runner has made.
-/

namespace BalboaRs485

/-! ## Session records -/

/-- `SessionIntent` (line 18). -/
inductive SessionIntent where
  | session (s : Session)
  | range (s : RangeSession)
deriving DecidableEq

namespace SessionIntent

/-- `end_time`. -/
def endTime : SessionIntent → ℚ
  | session s => s.endTime
  | range s => s.endTime

/-- `phase`. -/
def phase : SessionIntent → SessionPhase
  | session s => s.phase
  | range s => s.phase

/-- `cancel`. -/
def cancel : SessionIntent → SessionIntent
  | session s => session s.cancel
  | range s => range s.cancel

/-- `adjust`. -/
def adjust (now seconds : ℚ) : SessionIntent → Except SessionError SessionIntent
  | session s => (s.adjust now seconds).map session
  | range s => (s.adjust now seconds).map range

/-- `goal`. -/
def goal (state : Option SpaState) : SessionIntent → Except SessionError (Control × Value)
  | session s => s.goal state
  | range s => s.goal state

/-- `reconcile`. -/
def reconcile (now : ℚ) (state : Option SpaState) :
    SessionIntent → Except SessionError (Option SessionIntent)
  | session s => .ok ((s.reconcile now state).map session)
  | range s => (s.reconcile now state).map (Option.map range)

end SessionIntent

/-! ## State -/

/-- What `_attempt` remembers (line 42). -/
structure Attempt where
  record : SessionIntent
  control : Control
  goal : Value
  epoch : ℕ
deriving DecidableEq

/-- `a == b` on two attempts. -/
def Attempt.same (a b : Attempt) : Bool :=
  a.record = b.record ∧ a.control = b.control ∧ a.goal.pyEq b.goal ∧ a.epoch = b.epoch

/-- The values of `blocked_reason`. -/
inductive BlockedBy where
  | storageError
  | controlsDisabled
  | unavailable
  | waitingForVerification
  | commandFailed
  | setpointChanged
  | externalChange
  | unsupportedState
deriving DecidableEq

/-- `blocked_reason` as the source spells it. -/
def BlockedBy.text : BlockedBy → String
  | storageError => "storage_error"
  | controlsDisabled => "controls_disabled"
  | unavailable => "unavailable"
  | waitingForVerification => "waiting_for_verification"
  | commandFailed => "command_failed"
  | setpointChanged => "setpoint_changed"
  | externalChange => "external_change"
  | unsupportedState => "unsupported_state"

/-- The attributes of a `SessionRunner` (lines 33–43). -/
structure Runner where
  session : Option SessionIntent
  intent : Option ℕ := none
  attempt : Option Attempt := none
  closed : Bool := false
  expired : Bool := false
  storageFailed : Bool := false
  blockedReason : Option BlockedBy := none

/-- A closure behind `valid`: of the runner (`_guard`, lines 191–208), with its
    captured record and epoch and its flag, or of another caller. -/
inductive Caller where
  | session (record : SessionIntent) (epoch : ℕ) (expired : Bool)
  | other
deriving DecidableEq

/-- A guard, in `clock_valid` (`runtime.py` lines 280–287) if it has an epoch. -/
structure Guard where
  epoch : Option ℕ
  caller : Option Caller
deriving DecidableEq

/-- What the holder of the lock does once its `save` has returned. -/
inductive Task where
  /-- It leaves the lock. -/
  | finish
  /-- It goes on with `async_tick`. -/
  | tick
  /-- It calls `apply`. -/
  | apply (control : Control) (desired : Value)
deriving DecidableEq

/-- The lock of the runner. -/
inductive Lock where
  | free
  /-- Its holder is at `await self._save(next)`. -/
  | saving (next : Option SessionIntent) (task : Task)
  /-- Its holder is at `await apply(control, desired)`. -/
  | applying (control : Control) (desired : Value)
deriving DecidableEq

/-- One call of `runtime.request` by the runner: what it was computed as, and the
    intent if it was accepted. -/
structure SessionRequest extends Attempt where
  intent : Option ℕ
deriving DecidableEq

/-- The runtime, the runner and what they read. The storage is behind `save` and never
    read. -/
structure System where
  commands : Commands Guard := {}
  /-- `connection.snapshot`. -/
  snapshot : Snapshot := {}
  /-- `self._enabled()`. -/
  enabled : Bool := true
  /-- `self._now()`. -/
  wall : ℚ
  /-- `asyncio.get_running_loop().time()`. -/
  time : ℚ
  runner : Runner
  lock : Lock := .free
  requests : List SessionRequest := []

namespace System

/-- `runtime.state` (`runtime.py` lines 250–252). -/
def state (w : System) : Option SpaState := w.commands.engine.state

/-- Replace the engine. -/
def setEngine (w : System) (engine : Engine) : System :=
  { w with commands := { w.commands with engine } }

/-! ## `SpaRuntime.request` -/

/-- The arguments of `request`. -/
structure Request where
  control : Control
  desired : Value
  caller : Option Caller := none
  deadline : Option ℚ := none
  deferFor : ℚ := 0
  replacePending : Bool := false

/-- The errors of `request`. -/
inductive RequestError where
  /-- `ValueError("Connection is not READY for physical commands")`. -/
  | notReady
  | engine (e : Engine.RequestError)
deriving DecidableEq

/-- The messages of `RequestError`. -/
def RequestError.text : RequestError → String
  | notReady => "Connection is not READY for physical commands"
  | engine e => e.text

/-- `replacing_pump` (lines 264–271). -/
def replacingPump (w : System) (r : Request) : Bool :=
  r.replacePending ∧ r.control.isPump ∧
    (w.commands.engine.latestIntent r.control).any fun existing => ¬ existing.stage.terminal

/-- The guard of a request (lines 274–287). -/
def guardOf (w : System) (r : Request) : Option Guard :=
  if r.control = .clockTime ∨ r.control = .soak ∨ r.control = .normalOperation ∨
      r.control = .ackReminder then
    some ⟨some w.snapshot.epoch, r.caller⟩
  else r.caller.map fun caller => ⟨none, some caller⟩

/-- The call of `engine.request` (lines 288–295). -/
def engineRequest (w : System) (r : Request) : Engine.Request where
  control := r.control
  desired := r.desired
  now := w.time
  deadline := r.deadline
  deferFor := r.deferFor
  replacePending := r.replacePending

/-- The guards after a request (lines 296–299). -/
def attachGuard (w : System) (r : Request) (id : ℕ) : Dict Control (ℕ × Guard) :=
  match w.guardOf r with
  | none => w.commands.guards.pop r.control
  | some guard => w.commands.guards.set r.control (id, guard)

/-- `request` (lines 254–300). -/
def request (cfg : RuntimeConfig) (w : System) (r : Request) :
    Except RequestError Intent × System :=
  if ¬ w.snapshot.available ∧ ¬ w.replacingPump r then (.error .notReady, w)
  else
    match w.commands.engine.request cfg.engine (w.engineRequest r) with
    | (.error e, engine) => (.error (.engine e), w.setEngine engine)
    | (.ok intent, engine) =>
      (.ok intent, { w with
        commands := { w.commands with engine, guards := w.attachGuard r intent.id } })

/-! ## Guards -/

/-- `valid` of `_guard` (lines 194–206) with the new value of its flag. -/
def sessionValid (w : System) (runner : Runner) (record : SessionIntent) (epoch : ℕ)
    (expired : Bool) : Bool :=
  ¬ runner.closed ∧ ¬ runner.storageFailed ∧ w.enabled ∧ runner.session = some record ∧
    w.snapshot.epoch = epoch ∧ (record.phase = .restoring ∨ ¬ expired)

/-- The latch of `valid` (lines 196–198). -/
def latch (runner : Runner) (record : SessionIntent) (expired : Bool) : Runner :=
  if runner.session = some record then { runner with expired := runner.expired || expired }
  else runner

/-- A call of a guard. `answers` is what the closures of other callers return. -/
def callGuard (w : System) (answers : Control → Bool) (control : Control) (guard : Guard)
    (runner : Runner) : Bool × Guard × Runner :=
  if guard.epoch.any (· ≠ w.snapshot.epoch) then (false, guard, runner)
  else
    match guard.caller with
    | none => (true, guard, runner)
    | some .other => (answers control, guard, runner)
    | some (.session record epoch expired) =>
      let expired := expired || record.endTime ≤ w.wall
      (w.sessionValid runner record epoch expired,
        { guard with caller := some (.session record epoch expired) }, latch runner record expired)

/-- `prepare`, with the guards of this system. -/
def prepare (cfg : RuntimeConfig) (w : System) (answers : Control → Bool) (now : ℚ) :
    Option Transmission × System :=
  let prepared := w.commands.prepare cfg (w.callGuard answers) w.runner now
  (prepared.1, { w with commands := prepared.2.1, runner := prepared.2.2 })

end System

/-! ## Errors of the runner -/

/-- The `ValueError`s of `SessionRunner`. -/
inductive RunnerError where
  | closed
  | storageUnavailable
  | storageUnverified
  | disabled
  | active
  | noSession
  | ended
  | notRelated
  | stateUnavailable
  | sessionFirst
  | rangeFirst
  /-- `asyncio.CancelledError` at `await save`. -/
  | cancelled
  | session (e : SessionError)
  | invalid (e : ValidateError)
deriving DecidableEq

/-- The messages of `RunnerError`. -/
def RunnerError.text : RunnerError → String
  | closed => "Session controller is closed"
  | storageUnavailable => "Session storage is unavailable; reload after repairing storage"
  | storageUnverified => "Session storage could not be verified"
  | disabled => "Physical controls are disabled"
  | active => "A heating session is already active"
  | noSession => "No active heating session"
  | ended => "An ended session cannot be adjusted"
  | notRelated => "Not a session-related setting"
  | stateUnavailable => "Physical controls are disabled or observed state is unavailable"
  | sessionFirst => "End the heating session before changing range, heat mode or unit"
  | rangeFirst => "End the session before editing an externally selected range"
  | cancelled => ""
  | session e => e.text
  | invalid e => e.text

/-- `_writable` (lines 45–49). -/
def Runner.writable (r : Runner) : Except RunnerError Unit :=
  if r.closed then .error .closed
  else if r.storageFailed then .error .storageUnavailable
  else .ok ()

namespace System

/-! ## Pausing and storing -/

/-- Set `blocked_reason`. -/
def block (w : System) (reason : Option BlockedBy) : System :=
  { w with runner := { w.runner with blockedReason := reason } }

/-- `if intent is not None and intent.stage not in _TERMINAL: engine.cancel(…)`
    (lines 52–55). -/
def cancelIntent (w : System) : System :=
  match w.runner.intent.bind w.commands.engine.intent with
  | none => w
  | some item =>
    if item.stage.terminal then w else w.setEngine (w.commands.engine.cancel item.control none)

/-- `pause` (lines 51–57). -/
def pause (w : System) : System :=
  { w.cancelIntent with runner := { w.runner with intent := none, attempt := none } }

/-- `close` (lines 59–61). -/
def close (w : System) : System := { w with runner := { w.runner with closed := true } }.pause

/-- `_replace` up to `await self._save(session)` (lines 63–67). -/
def replace (w : System) (next : Option SessionIntent) (task : Task) : Except RunnerError System :=
  match w.runner.writable with
  | .error e => .error e
  | .ok () => .ok { w.pause with lock := .saving next task }

/-- `_replace` after `save` has returned (lines 78–81); `lock` is where its caller goes
    from there. -/
def stores (w : System) (next : Option SessionIntent) (lock : Lock) : System :=
  { w with
    lock
    runner :=
      if next = none then
        { w.runner with session := none, expired := false, blockedReason := none }
      else { w.runner with session := next } }

/-- `_replace` after `save` has raised or was cancelled (lines 68–77): its caller raises
    too and leaves the lock. -/
def storageFails (w : System) : System :=
  { w with
    lock := .free
    runner := { w.runner with storageFailed := true, blockedReason := some .storageError } }

/-! ## `async_tick` -/

/-- `not engine.busy and engine.resync_epoch is None`. -/
def settled (w : System) : Bool :=
  ¬ w.commands.engine.busy ∧ w.commands.engine.resyncEpoch = none

/-- `now` of the tick (line 218). -/
def tickNow (w : System) (session : SessionIntent) : ℚ :=
  if w.runner.expired then max w.wall session.endTime else w.wall

/-- The reason shown while a goal is pursued (lines 250–257). -/
def progress (w : System) : BlockedBy :=
  match w.runner.intent.bind w.commands.engine.intent with
  | none => .setpointChanged
  | some intent =>
    if intent.stage = .failed then .commandFailed
    else if ¬ intent.stage.terminal then .waitingForVerification
    else .setpointChanged

/-- The attempt at a goal (lines 234–239). -/
def attemptAt (w : System) (session : SessionIntent) (goal : Control × Value) : Attempt :=
  ⟨session, goal.1, goal.2, w.snapshot.epoch⟩

/-- The arguments of `runtime.request` (lines 243–247): the guard is new. -/
def goalRequest (attempt : Attempt) : Request where
  control := attempt.control
  desired := attempt.goal
  caller := some (.session attempt.record attempt.epoch false)

/-- The call of `runtime.request` (lines 243–249). A `ValueError` pauses
    (lines 262–264). -/
def submit (cfg : RuntimeConfig) (w : System) (attempt : Attempt) : System :=
  match w.request cfg (goalRequest attempt) with
  | (.error _, w) =>
    { (w.pause).block (some .unsupportedState) with requests := w.requests ++ [⟨attempt, none⟩] }
  | (.ok intent, w) =>
    { w with
      requests := w.requests ++ [⟨attempt, some intent.id⟩]
      runner := { w.runner with
        intent := some intent.id
        attempt := some attempt
        blockedReason := some .waitingForVerification } }

/-- Lines 240–258: a goal that is observed, requested or pursued already. -/
def pursueGoal (cfg : RuntimeConfig) (w : System) (attempt : Attempt) : System :=
  if w.state.any fun state => Value.shows (state.value attempt.control) attempt.goal then
    { w with runner := { w.runner with attempt := some attempt, blockedReason := none } }
  else if ¬ w.runner.attempt.any attempt.same then w.submit cfg attempt
  else w.block (some w.progress)

/-- Lines 224–264, for an active session. -/
def pursueSession (cfg : RuntimeConfig) (w : System) (session : SessionIntent) : System :=
  if ¬ w.enabled then w.pause.block (some .controlsDisabled)
  else if ¬ w.snapshot.available then w.pause.block (some .unavailable)
  else if ¬ w.settled then w.block (some .waitingForVerification)
  else
    match session.goal w.state with
    | .error e => w.pause.block (some (if e.isConflict then .externalChange else .unsupportedState))
    | .ok goal => w.pursueGoal cfg (w.attemptAt session goal)

/-- Lines 222–264: the part of `async_tick` behind `_replace`. -/
def pursue (cfg : RuntimeConfig) (w : System) : System :=
  match w.runner.session with
  | none => w
  | some session => w.pursueSession cfg session

/-- `async_tick` (lines 210–264). -/
def asyncTick (cfg : RuntimeConfig) (w : System) : Except RunnerError System :=
  match w.runner.session with
  | none => .ok w
  | some session =>
    if w.runner.closed ∨ w.runner.storageFailed then .ok w
    else
      match session.reconcile (w.tickNow session) (if w.settled then w.state else none) with
      | .error e => .error (.session e)
      | .ok updated =>
        if updated ≠ some session then w.replace updated .tick else .ok (w.pursue cfg)

/-! ## The other coroutines -/

/-- The checks in front of a new session (lines 87–91 and 114–118), and its
    `_replace`. -/
def startWith (w : System) (session : Except SessionError SessionIntent) :
    Except RunnerError System :=
  match w.runner.writable with
  | .error e => .error e
  | .ok () =>
    if ¬ w.enabled then .error .disabled
    else if w.runner.session ≠ none then .error .active
    else
      match session with
      | .error e => .error (.session e)
      | .ok session => w.replace (some session) .finish

/-- `async_start` (lines 83–102), without the tick behind it. -/
def asyncStart (w : System) (endTime target maintenance : ℚ) (unit : TemperatureUnit) :
    Except RunnerError System :=
  w.startWith ((Session.start w.wall endTime target maintenance unit w.state).map .session)

/-- `async_start_bathing` (lines 112–124), without the tick behind it. -/
def asyncStartBathing (w : System) (endTime minimumC : ℚ) (operationId : ℕ) :
    Except RunnerError System :=
  w.startWith ((RangeSession.start w.wall endTime minimumC operationId w.state).map .range)

/-- `async_cancel` (lines 104–110), without the tick behind it. -/
def asyncCancel (w : System) : Except RunnerError System :=
  match w.runner.writable, w.runner.session with
  | .error e, _ => .error e
  | .ok (), none => .error .noSession
  | .ok (), some session => w.replace (some session.cancel) .finish

/-- `async_adjust` (lines 126–134), without the tick behind it. -/
def asyncAdjust (w : System) (seconds : ℚ) : Except RunnerError System :=
  match w.runner.writable, w.runner.session with
  | .error e, _ => .error e
  | .ok (), none => .error .noSession
  | .ok (), some session =>
    if w.runner.expired then .error .ended
    else
      match session.adjust w.wall seconds with
      | .error e => .error (.session e)
      | .ok adjusted => w.replace (some adjusted) .finish

/-- `async_abandon` (lines 136–141). -/
def asyncAbandon (w : System) : Except RunnerError System :=
  match w.runner.writable, w.runner.session with
  | .error e, _ => .error e
  | .ok (), none => .ok w
  | .ok (), some _ => w.replace none .finish

/-- The settings of `async_manual_change` (lines 153–161). -/
def sessionRelated (control : Control) : Bool :=
  control ∈ ([.target, .highRange, .heatMode, .temperatureUnit, .hold, .normalOperation, .soak] :
    List Control)

/-- The explicit exit from Hold that an active session allows (lines 170–175). -/
def leavesHold (state : SpaState) (control : Control) (desired : Value) : Bool :=
  state.hold ∧
    ((control = .hold ∧ desired = .bool false) ∨ (control = .normalOperation ∧ desired = .bool true))

/-- A manual change during a session (lines 168–188). -/
def changeDuring (w : System) (session : SessionIntent) (state : SpaState) (control : Control)
    (desired : Value) : Except RunnerError System :=
  if control ≠ .target then
    if leavesHold state control desired then .ok { w with lock := .applying control desired }
    else .error .sessionFirst
  else
    match session with
    | .range s =>
      if ¬ state.status.highRange then .error .rangeFirst
      else w.replace (some (.range s.releaseTarget)) (.apply control desired)
    | .session _ => w.replace none (.apply control desired)

/-- `async_manual_change` up to its first `await` (lines 143–189). -/
def asyncManualChange (w : System) (control : Control) (desired : Value) :
    Except RunnerError System :=
  match w.runner.writable with
  | .error e => .error e
  | .ok () =>
    if ¬ sessionRelated control then .error .notRelated
    else
      match w.state with
      | none => .error .stateUnavailable
      | some state =>
        if ¬ w.enabled then .error .stateUnavailable
        else
          match state.validate control desired, w.runner.session with
          | .error e, _ => .error (.invalid e)
          | .ok (), none => .ok { w with lock := .applying control desired }
          | .ok (), some session => w.changeDuring session state control desired

/-! ## Steps -/

/-- How `await self._save(session)` ends. -/
inductive SaveOutcome where
  | returned
  | raised
  | cancelled
deriving DecidableEq

/-- What happens to the system. -/
inductive Op where
  /-- The clocks are read later. -/
  | clock (wall time : ℚ)
  | enable (enabled : Bool)
  /-- The connection has changed. -/
  | publish (snapshot : Snapshot)
  | update (now : ℚ)
  | prepare (answers : Control → Bool) (now : ℚ)
  | sent (message : Transmission) (at_ : ℚ) (ctsAt : Option ℚ)
  | received (message : Message) (epoch : ℕ) (at_ : ℚ)
  | disconnected (now : ℚ)
  /-- `runtime.request` by another caller, with a guard or without. -/
  | request (r : Request) (guarded : Bool)
  | cancel (control : Control) (now : Option ℚ)
  | joined (id : ℕ) (now : ℚ)
  /-- The `engine.tick` of `wait_for_intent`. -/
  | waited (now : ℚ)
  | refreshFilters
  | asyncStart (endTime target maintenance : ℚ) (unit : TemperatureUnit)
  | asyncStartBathing (endTime minimumC : ℚ) (operationId : ℕ)
  | asyncCancel
  | asyncAdjust (seconds : ℚ)
  | asyncAbandon
  | asyncManualChange (control : Control) (desired : Value)
  | asyncTick
  | saved (outcome : SaveOutcome)
  /-- `await apply(…)` has ended. -/
  | applied
  | pause
  | close

/-- What a step returns or raises. -/
inductive Out where
  | done
  | raised (e : RunnerError)
  | handed (message : Option Transmission)
  | receipt (result : Except CommandsError Unit)
  | requested (result : Except RequestError Intent)

/-- The stretch of a coroutine behind `async with self._lock`: it starts when the lock
    is free, and one that raises has changed nothing. -/
def enter (w : System) (body : Except RunnerError System) : System × Out :=
  if w.lock ≠ .free then (w, .done)
  else
    match body with
    | .error e => (w, .raised e)
    | .ok w => (w, .done)

/-- `save` has returned: the holder of the lock goes on. -/
def resume (cfg : RuntimeConfig) (w : System) (next : Option SessionIntent) (task : Task) : System :=
  match task with
  | .finish => w.stores next .free
  | .tick => (w.stores next .free).pursue cfg
  | .apply control desired => w.stores next (.applying control desired)

/-- The end of `await self._save(session)`. -/
def saved (cfg : RuntimeConfig) (w : System) (outcome : SaveOutcome) : System × Out :=
  match w.lock, outcome with
  | .saving next task, .returned => (w.resume cfg next task, .done)
  | .saving _ _, .raised => (w.storageFails, .raised .storageUnverified)
  | .saving _ _, .cancelled => (w.storageFails, .raised .cancelled)
  | _, _ => (w, .done)

/-- The end of `await apply(control, desired)`. -/
def applied (w : System) : System :=
  match w.lock with
  | .applying _ _ => { w with lock := .free }
  | _ => w

/-- A snapshot of the connection; its epoch never falls. -/
def publish (w : System) (snapshot : Snapshot) : System :=
  if snapshot.epoch < w.snapshot.epoch then w else { w with snapshot }

/-- One step. -/
def step (cfg : RuntimeConfig) (w : System) : Op → System × Out
  | .clock wall time => ({ w with wall, time }, .done)
  | .enable enabled => ({ w with enabled }, .done)
  | .publish snapshot => (w.publish snapshot, .done)
  | .update now => ({ w with commands := w.commands.update cfg w.snapshot now }, .done)
  | .prepare answers now =>
    ((w.prepare cfg answers now).2, .handed (w.prepare cfg answers now).1)
  | .sent message at_ ctsAt =>
    ({ w with commands := (w.commands.sent cfg message at_ ctsAt).2 },
      .receipt (w.commands.sent cfg message at_ ctsAt).1)
  | .received message epoch at_ =>
    ({ w with commands := w.commands.received cfg message epoch at_ }, .done)
  | .disconnected now => ({ w with commands := w.commands.disconnected now }, .done)
  | .request r guarded =>
    let r := { r with caller := if guarded then some .other else none }
    ((w.request cfg r).2, .requested (w.request cfg r).1)
  | .cancel control now => (w.setEngine (w.commands.engine.cancel control now), .done)
  | .joined id now => (w.setEngine (w.commands.engine.joined id now), .done)
  | .waited now => (w.setEngine (w.commands.engine.tick cfg.engine now), .done)
  | .refreshFilters => ({ w with commands := w.commands.refreshFilters.2 },
      .receipt w.commands.refreshFilters.1)
  | .asyncStart endTime target maintenance unit =>
    w.enter (w.asyncStart endTime target maintenance unit)
  | .asyncStartBathing endTime minimumC operationId =>
    w.enter (w.asyncStartBathing endTime minimumC operationId)
  | .asyncCancel => w.enter w.asyncCancel
  | .asyncAdjust seconds => w.enter (w.asyncAdjust seconds)
  | .asyncAbandon => w.enter w.asyncAbandon
  | .asyncManualChange control desired => w.enter (w.asyncManualChange control desired)
  | .asyncTick => w.enter (w.asyncTick cfg)
  | .saved outcome => w.saved cfg outcome
  | .applied => (w.applied, .done)
  | .pause => (w.pause, .done)
  | .close => (w.close, .done)

/-- A runtime and a runner that was constructed with `session`. -/
def make (session : Option SessionIntent) (wall time : ℚ) : System where
  wall
  time
  runner := { session }

/-- What a run starts from: the record the runner is constructed with, and the clocks. -/
structure Start where
  session : Option SessionIntent
  wall : ℚ := 0
  time : ℚ := 0

/-- The machine of a system. -/
def machine (cfg : RuntimeConfig) (start : Start) : Machine System Op Out where
  init := make start.session start.wall start.time
  step := step cfg

/-- The system after the first `n` steps of a run. -/
def systemAt (cfg : RuntimeConfig) (start : Start) (run : List Op) (n : ℕ) : System :=
  (machine cfg start).stateAt run n

end System

/-! ## A sample run -/

/-- The settings of the sample runs. -/
def sampleRuntime : RuntimeConfig where
  engine := .default
  sha256 := id

/-- A snapshot of the connection to the sample spa. -/
def sampleSnapshot (state : ConnectionState) (status : StatusMessage) (sequence : ℕ)
    (lastStatus : ℚ) : Snapshot where
  state
  epoch := 1
  configuration := some sampleConfiguration
  status := some (status, lastStatus)
  statusSequence := sequence

/-- A query and its answer. -/
def sampleAnswer (query : Query) (message : Message) : List System.Op :=
  [.sent ⟨encodeQuery query, .query query⟩ 0 none, .received message 1 0]

/-- The first steps of a sample run: the connection is ready and the metadata is read. -/
def sampleOpening (status : StatusMessage) : List System.Op :=
  [.publish (sampleSnapshot .ready status 1 0), .update 0] ++
    sampleAnswer .setup (.setup
      ⟨⟨10, 0xBF, 0x25, [0, 0, 50, 99, 80, 104, 0, 0, 0, 0], by simp⟩, (50, 99), (80, 104)⟩) ++
    sampleAnswer .filters (.filterCycles
      ⟨⟨10, 0xBF, 0x23, [8, 0, 2, 0, 0, 0, 0, 0], by simp⟩, ⟨8, 0, 120, true⟩, ⟨0, 0, 0, false⟩,
        by decide⟩) ++
    sampleAnswer .fault (.faultLog ⟨⟨10, 0xBF, 0x28, List.replicate 10 0, by simp⟩, 0, 0, 0⟩) ++
    [.update 0]

end BalboaRs485
