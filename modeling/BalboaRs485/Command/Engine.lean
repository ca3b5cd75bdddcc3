import BalboaRs485.Command.Planning
import BalboaRs485.Lib.Dict
import BalboaRs485.Lib.Deque
import BalboaRs485.Lib.Machine

/-!
# The command engine

Model of `command/engine.py`: the latest desired value of each control, at most
one physical transaction in flight, and the bookkeeping that decides when an
observation confirms a transaction and when its outcome is ambiguous.

Every method of `CommandEngine` is a function on `Engine`; a method that may
raise returns the error together with the state it leaves behind. Times are
rational numbers and always finite, so the `isfinite` tests are left out.
`engineMachine` is the engine as a machine over the calls of its interface.
-/

namespace BalboaRs485

/-! ## Records -/

/-- `Stage`. -/
inductive Stage where
  | queued
  | waitingForBus
  | sent
  | waitingForState
  | verified
  | failed
  | superseded
  | cancelled
deriving DecidableEq

/-- `stage in TERMINAL`. -/
def Stage.terminal : Stage → Bool
  | verified | failed | superseded | cancelled => true
  | _ => false

/-- The reasons the engine records with a stage. -/
inductive Reason where
  | connectionLost
  | reminderAmbiguous
  | waitingForResync
  | replaced
  | cancelledByCaller
  | retainedLow
  | reminderChanged
  | insufficientDeadline
  | budgetExhausted
  | planning (e : PlanError)
  | deadlineExpired
  | confirmationTimeout
deriving DecidableEq

/-- The text of a reason. -/
def Reason.text : Reason → String
  | connectionLost => "Connection lost; physical outcome ambiguous"
  | reminderAmbiguous => "Reminder acknowledgement outcome ambiguous; not retried"
  | waitingForResync => "Waiting for resynchronization"
  | replaced => "Replaced by a newer requested value"
  | cancelledByCaller => "Cancelled by caller"
  | retainedLow =>
    "Controller kept Pump 1 at circulation speed; OFF was not reached. " ++
      "Jets are stopped; automatic circulation is controlled by the spa."
  | reminderChanged => "Displayed reminder changed before transmission"
  | insufficientDeadline => "Insufficient deadline budget for another verified transmission"
  | budgetExhausted => "Physical action budget exhausted"
  | planning e => e.text
  | deadlineExpired => "Command deadline expired; requested state was not verified"
  | confirmationTimeout => "Confirmation timeout; physical outcome ambiguous"

/-- `Intent`. -/
structure Intent where
  id : ℕ
  control : Control
  desired : Value
  requestedAt : ℚ
  stage : Stage := .queued
  reason : Option Reason := none
  reminderCode : Option UInt8 := none
  deadline : Option ℚ := none
  notBefore : ℚ := 0
deriving DecidableEq

/-- `IntentEvent.kind`. -/
inductive EventKind where
  | transition
  | joined
  | requested
deriving DecidableEq

/-- `IntentEvent`. -/
structure IntentEvent where
  intentId : ℕ
  control : Control
  desired : Value
  stage : Stage
  at_ : ℚ
  epoch : Option ℕ
  observed : Option Value
  reason : Option Reason
  kind : EventKind
deriving DecidableEq

/-- `Action`. -/
structure Action where
  intent : Intent
  epoch : ℕ
  sequence : ℕ
  startingValue : Value
  expected : Value
  frame : Frame
  preparedAt : ℚ
deriving DecidableEq

/-- `Transaction`. -/
structure Transaction where
  action : Action
  ctsAt : Option ℚ
  sentAt : ℚ
  result : Stage := .waitingForState
  resultingValue : Option Value := none
  completedAt : Option ℚ := none
  reason : Option Reason := none
deriving DecidableEq

/-- The candidate for a settled observation, `_settling`. -/
structure Settling where
  values : List (Option Value)
  observedAt : ℚ
  sequence : ℕ
  epoch : ℕ
deriving DecidableEq

/-- The constructor arguments of `CommandEngine` that passed its checks. -/
structure EngineConfig where
  confirmationGuard : ℚ
  confirmationTimeout : ℚ
  filterConfirmationTimeout : ℚ
  resyncSettle : ℚ
  stateMaxAge : ℚ
  maxActions : ℕ
  guard_pos : 0 < confirmationGuard
  guard_lt_timeout : confirmationGuard < confirmationTimeout
  guard_lt_filterTimeout : confirmationGuard < filterConfirmationTimeout
  settle_pos : 0 < resyncSettle
  maxAge_pos : 0 < stateMaxAge
  maxActions_pos : 0 < maxActions

/-- The defaults of `CommandEngine.__init__` (lines 89–99). -/
def EngineConfig.default : EngineConfig where
  confirmationGuard := 1 / 5
  confirmationTimeout := 4
  filterConfirmationTimeout := 4
  resyncSettle := 1 / 2
  stateMaxAge := 3
  maxActions := 6
  guard_pos := by norm_num
  guard_lt_timeout := by norm_num
  guard_lt_filterTimeout := by norm_num
  settle_pos := by norm_num
  maxAge_pos := by norm_num
  maxActions_pos := by norm_num

/-- The confirmation window `tick` applies to a control (lines 524–528). -/
def EngineConfig.timeoutOf (cfg : EngineConfig) (control : Control) : ℚ :=
  if control = .filters then cfg.filterConfirmationTimeout else cfg.confirmationTimeout

/-- The attributes of `CommandEngine`. -/
structure Engine where
  actions : Dict Control ℕ := .empty
  state : Option SpaState := none
  intents : Deque 100 Intent := .empty
  latest : Dict Control ℕ := .empty
  active : Dict ℕ Intent := .empty
  history : Deque 100 Transaction := .empty
  inflight : Option Transaction := none
  counter : ℕ := 0
  now : ℚ := 0
  events : Deque 200 IntentEvent := .empty
  revision : ℕ := 0
  resyncEpoch : Option ℕ := none
  settling : Option Settling := none

namespace Engine

/-! ## Intents -/

/-- `intent` (lines 217–220). -/
def intent (s : Engine) (id : ℕ) : Option Intent :=
  (s.active.get? id).or (s.intents.items.find? fun item => item.id = id)

/-- `latest` (lines 144–146). -/
def latestIntent (s : Engine) (control : Control) : Option Intent :=
  (s.latest.get? control).bind s.intent

/-- `_record` (lines 148–163). -/
def record (s : Engine) (item : Intent) (kind : EventKind) : Engine :=
  { s with
    events := s.events.append
      { intentId := item.id
        control := item.control
        desired := item.desired
        stage := item.stage
        at_ := s.now
        epoch := s.state.map SpaState.epoch
        observed := s.state.bind fun state =>
          if state.available then state.value item.control else none
        reason := item.reason
        kind }
    revision := s.revision + 1 }

/-- `joined` (lines 165–170). -/
def joined (s : Engine) (id : ℕ) (now : ℚ) : Engine :=
  match s.intent id with
  | none => s
  | some item => if item.stage.terminal then s else ({ s with now }).record item .joined

/-- `_active[id] = item if id in _active`, and the same in `_intents`. -/
def store (s : Engine) (id : ℕ) (item : Intent) : Engine :=
  { s with
    active := if s.active.contains id then s.active.set id item else s.active
    intents := s.intents.replace (fun x => x.id = id) item }

/-- `_update` (lines 222–233). -/
def update (s : Engine) (id : ℕ) (stage : Stage) (reason : Option Reason) : Engine :=
  match s.intent id with
  | none => s
  | some previous =>
    if previous.stage = stage ∧ previous.reason = reason then s
    else
      let updated := { previous with stage, reason }
      (s.record updated .transition).store id updated

/-! ## Time -/

/-- `item.stage not in TERMINAL and item.deadline is not None and now >= item.deadline`. -/
def overdue (now : ℚ) (item : Intent) : Bool :=
  ¬ item.stage.terminal ∧ item.deadline.any fun d => d ≤ now

/-- The loop of `tick` (lines 514–520); it runs over a copy of the active intents. -/
def expireDeadlines (s : Engine) (now : ℚ) : Engine :=
  s.active.values.foldl
    (fun s item => if overdue now item then s.update item.id .failed (some .deadlineExpired) else s) s

/-- What `suspend` and `tick` do to a transaction whose outcome stays unknown
    (lines 196–215 and 529–547): close its record, remember its epoch, and put
    the goal back in the queue, a reminder acknowledgement excepted. -/
def closeAmbiguous (s : Engine) (pending : Transaction) (result : Stage) (reason : Reason)
    (now : ℚ) : Engine :=
  let s := { s with
    history := s.history.setLast
      { pending with result, completedAt := some now, reason := some reason }
    resyncEpoch := some pending.action.epoch
    settling := none
    inflight := none }
  match s.intent pending.action.intent.id with
  | none => s
  | some current =>
    if current.stage.terminal then s
    else if current.control = .ackReminder then
      s.update pending.action.intent.id .failed (some .reminderAmbiguous)
    else s.update pending.action.intent.id .queued (some .waitingForResync)

/-- `tick` (lines 512–547). -/
def tick (cfg : EngineConfig) (s : Engine) (now : ℚ) : Engine :=
  let s := ({ s with now }).expireDeadlines now
  match s.inflight with
  | none => s
  | some pending =>
    if now - pending.sentAt ≥ cfg.timeoutOf pending.action.intent.control then
      s.closeAmbiguous pending .failed .confirmationTimeout now
    else s

/-- `suspend` (lines 192–215). -/
def suspend (s : Engine) (now : ℚ) : Engine :=
  let s := { s with
    now, state := s.state.map fun (state : SpaState) => { state with available := false } }
  match s.inflight with
  | none => s
  | some pending => s.closeAmbiguous pending .cancelled .connectionLost now

/-! ## Requests -/

/-- The errors `request` raises. -/
inductive RequestError where
  | deadline
  | notFresh
  | filterRecord
  | invalid (e : ValidateError)
deriving DecidableEq

/-- The messages of `RequestError`. -/
def RequestError.text : RequestError → String
  | deadline => "Require a future finite deadline and nonnegative finite defer time"
  | notFresh => "A fresh, synchronized physical state is required"
  | filterRecord => "A fresh queried filter record is required"
  | invalid e => e.text

/-- The arguments of `request`. -/
structure Request where
  control : Control
  desired : Value
  now : ℚ
  deadline : Option ℚ := none
  deferFor : ℚ := 0
  replacePending : Bool := false

/-- `0 <= now - at < state_max_age`. -/
def fresh (cfg : EngineConfig) (now observedAt : ℚ) : Bool :=
  0 ≤ now - observedAt ∧ now - observedAt < cfg.stateMaxAge

/-- `replacing` (lines 255–261). -/
def replacing (s : Engine) (r : Request) : Bool :=
  r.replacePending ∧ r.control.isPump ∧
    (s.latestIntent r.control).any fun existing => ¬ existing.stage.terminal

/-- The checks of `request` after its `tick` (lines 262–282): the observation the
    goal was admitted on. -/
def admitOn (cfg : EngineConfig) (s : Engine) (r : Request) : Except RequestError SpaState :=
  match s.state with
  | none => .error .notFresh
  | some state =>
    if ¬ s.replacing r ∧ ¬ (state.available ∧ fresh cfg r.now state.observedAt) then
      .error .notFresh
    else if r.control = .filters ∧ ¬ state.filtersAt.any (fresh cfg r.now) then
      .error .filterRecord
    else
      let admitting := if s.replacing r then { state with available := true } else state
      match admitting.validate r.control r.desired with
      | .error e => .error (.invalid e)
      | .ok () => .ok state

/-- Supersede a goal that has not ended otherwise (lines 286–288). -/
def supersede (s : Engine) (id : ℕ) : Engine :=
  match s.intent id with
  | none => s
  | some existing =>
    if existing.stage = .verified ∨ existing.stage = .failed ∨ existing.stage = .cancelled then s
    else s.update id .superseded (some .replaced)

/-- Retire the previous goal of a control (lines 284–289). -/
def retire (s : Engine) (control : Control) : Engine :=
  match s.latest.get? control with
  | none => s
  | some previous =>
    let s := s.supersede previous
    { s with active := s.active.pop previous }

/-- The new goal (lines 290–301); `deadline` is inherited by a replacement. -/
def newIntent (s : Engine) (r : Request) (state : SpaState) (deadline : Option ℚ) : Intent where
  id := s.counter + 1
  control := r.control
  desired := r.desired
  requestedAt := r.now
  reminderCode := if r.control = .ackReminder then state.status.reminderCode else none
  deadline := deadline
  notBefore := r.now + r.deferFor

/-- `request` (lines 235–307). -/
def request (cfg : EngineConfig) (s : Engine) (r : Request) : Except RequestError Intent × Engine :=
  if r.deadline.any (fun d => d ≤ r.now) ∨ r.deferFor < 0 then (.error .deadline, s)
  else
    let s := s.tick cfg r.now
    match s.admitOn cfg r with
    | .error e => (.error e, s)
    | .ok state =>
      let replacing := s.replacing r
      let deadline :=
        if replacing then (s.latestIntent r.control).bind Intent.deadline else r.deadline
      let s := s.retire r.control
      let item := s.newIntent r state deadline
      let s := { s with
        counter := s.counter + 1
        intents := s.intents.append item
        latest := s.latest.set r.control item.id
        active := s.active.set item.id item
        actions := if replacing then s.actions else s.actions.set r.control 0 }
      (.ok item, s.record item .requested)

/-- `cancel` (lines 309–318). -/
def cancel (s : Engine) (control : Control) (now : Option ℚ) : Engine :=
  let s := { s with now := now.getD s.now }
  match s.latest.get? control with
  | none => s
  | some id =>
    if (s.intent id).any fun item => ¬ item.stage.terminal then
      s.update id .cancelled (some .cancelledByCaller)
    else s

/-! ## Observations -/

/-- An observation older than the current one (lines 322–326). -/
def stale (s : Engine) (state : SpaState) : Bool :=
  s.state.any fun old =>
    state.epoch < old.epoch ∨
      (state.epoch = old.epoch ∧ (state.sequence < old.sequence ∨ state.observedAt < old.observedAt))

/-- `previous[0] != values`. -/
def sameValues (a b : List (Option Value)) : Bool :=
  a.map (Option.map Value.norm) = b.map (Option.map Value.norm)

/-- The resynchronization part of `observe` (lines 331–346): whether the
    observation may be used, and the state. -/
def settle (cfg : EngineConfig) (s : Engine) (state : SpaState) : Bool × Engine :=
  match s.resyncEpoch with
  | none => (true, s)
  | some resync =>
    if state.epoch ≤ resync ∨ ¬ state.available then (false, s)
    else
      let values := s.latest.keys.map state.value
      let candidate : Settling := ⟨values, state.observedAt, state.sequence, state.epoch⟩
      match s.settling with
      | none => (false, { s with settling := some candidate })
      | some previous =>
        if ¬ sameValues previous.values values ∨ previous.epoch ≠ state.epoch then
          (false, { s with settling := some candidate })
        else if state.observedAt - previous.observedAt < cfg.resyncSettle ∨
            state.sequence ≤ previous.sequence then
          (false, s)
        else (true, { s with resyncEpoch := none, settling := none })

/-- `_pump_off_retained_low` (lines 405–418). -/
def pumpOffRetainedLow (pending : Transaction) (state : SpaState) : Bool :=
  pending.action.intent.control = .pump1 ∧ pending.action.intent.desired.pyEq (.pump .off) ∧
    pending.action.startingValue.pyEq (.pump .high) ∧ state.controlsSafe ∧
    state.pump1IsCirculation ∧ Value.shows (state.value .pump1) (.pump .low)

/-- `_reminder_acknowledged` (lines 421–428). -/
def reminderAcknowledged (intent : Intent) (state : SpaState) : Bool :=
  state.controlsSafe ∧
    (state.status.reminder = .none ∨
      (state.status.routineReminder ∧ state.status.reminderCode ≠ intent.reminderCode))

/-- The observation shows what the transaction was sent for (lines 361–369). -/
def showsOutcome (pending : Transaction) (state : SpaState) : Bool :=
  pumpOffRetainedLow pending state ∨
    (if pending.action.intent.control = .ackReminder then
      reminderAcknowledged pending.action.intent state
    else
      Value.shows (state.value pending.action.intent.control) pending.action.expected ∨
        Value.shows (state.value pending.action.intent.control) pending.action.intent.desired)

/-- The condition under which an observation completes the transaction in flight
    (lines 348–370). -/
def completes (cfg : EngineConfig) (pending : Transaction) (state : SpaState) : Bool :=
  state.available ∧ state.epoch = pending.action.epoch ∧ pending.action.sequence < state.sequence ∧
    state.observedAt - pending.sentAt ≥ cfg.confirmationGuard ∧
    (pending.action.intent.control ≠ .filters ∨
      state.filtersAt.any fun t => pending.sentAt < t) ∧
    showsOutcome pending state

/-- The completed record (lines 378–386). -/
def completion (pending : Transaction) (state : SpaState) (now : ℚ) : Transaction :=
  let retainedLow := pumpOffRetainedLow pending state
  { pending with
    result := if retainedLow then .failed else .verified
    resultingValue := state.value pending.action.intent.control
    completedAt := some now
    reason := if retainedLow then some .retainedLow else none }

/-- The confirmation part of `observe` (lines 347–394). -/
def confirm (cfg : EngineConfig) (s : Engine) (state : SpaState) (now : ℚ) : Engine :=
  match s.inflight with
  | none => s
  | some pending =>
    if ¬ completes cfg pending state then s
    else
      let record := completion pending state now
      let s := { s with history := s.history.setLast record, inflight := none }
      if pumpOffRetainedLow pending state ∨ pending.action.intent.control = .ackReminder then
        match s.intent pending.action.intent.id with
        | none => s
        | some current =>
          if current.stage.terminal then s else s.update current.id record.result record.reason
      else s

/-- One iteration of the final loop of `observe` (lines 395–402). -/
def verifyOne (state : SpaState) (s : Engine) (entry : Control × ℕ) : Engine :=
  match s.intent entry.2 with
  | none => s
  | some item =>
    if ¬ item.stage.terminal ∧ state.safeFor entry.1 ∧ Value.shows (state.value entry.1) item.desired ∧
        s.inflight = none then
      s.update entry.2 .verified none
    else s

/-- An observation that is not stale becomes the current one (lines 321 and
    327–330); a change of epoch suspends the engine first. -/
def arrive (cfg : EngineConfig) (s : Engine) (state : SpaState) (now : ℚ) : Engine :=
  let s := if s.state.any fun old => old.epoch ≠ state.epoch then s.suspend now else { s with now }
  { s.tick cfg now with state := some state }

/-- The final loop of `observe` (lines 395–402). -/
def verifyLatest (s : Engine) (state : SpaState) : Engine :=
  s.latest.entries.foldl (verifyOne state) s

/-- `observe` (lines 320–402). -/
def observe (cfg : EngineConfig) (s : Engine) (state : SpaState) (now : ℚ) : Engine :=
  if s.stale state then { s with now }
  else
    match (s.arrive cfg state now).settle cfg state with
    | (false, s) => s
    | (true, s) => (s.confirm cfg state now).verifyLatest state

/-! ## Transmission -/

/-- What `next_action` makes of one goal (lines 440–483). -/
inductive Proposal where
  /-- `continue` without a change. -/
  | skip
  /-- `_update(…)`, then `continue`. -/
  | close (stage : Stage) (reason : Option Reason)
  | act (action : Action)

/-- The body of the loop of `next_action` for one goal that is not terminal.
    `plan` only succeeds on a known value, as the source asserts. -/
def propose (cfg : EngineConfig) (state : SpaState) (spent : ℕ) (now : ℚ) (item : Intent)
    (control : Control) : Proposal :=
  if control = .ackReminder ∧ state.status.reminderCode ≠ item.reminderCode then
    .close .cancelled (some .reminderChanged)
  else if ¬ state.safeFor control then .skip
  else if Value.shows (state.value control) item.desired then .close .verified none
  else if now < item.notBefore then .skip
  else if item.deadline.any fun d => d - now < cfg.confirmationTimeout then
    .close .failed (some .insufficientDeadline)
  else if cfg.maxActions ≤ spent then .close .failed (some .budgetExhausted)
  else
    match plan state control item.desired, state.value control with
    | .error e, _ => .close .failed (some (.planning e))
    | .ok _, none => .skip
    | .ok (frame, expected), some value =>
      .act ⟨item, state.epoch, state.sequence, value, expected, frame, now⟩

/-- The loop of `next_action` over the goals in insertion order. -/
def nextActionLoop (cfg : EngineConfig) (state : SpaState) (now : ℚ) :
    List (Control × ℕ) → Engine → Option Action × Engine
  | [], s => (none, s)
  | (control, id) :: rest, s =>
    match s.intent id with
    | none => nextActionLoop cfg state now rest s
    | some item =>
      if item.stage.terminal then nextActionLoop cfg state now rest s
      else
        match propose cfg state ((s.actions.get? control).getD 0) now item control with
        | .skip => nextActionLoop cfg state now rest s
        | .close stage reason => nextActionLoop cfg state now rest (s.update id stage reason)
        | .act action => (some action, s.update id .waitingForBus none)

/-- `next_action` (lines 430–483). -/
def nextAction (cfg : EngineConfig) (s : Engine) (now : ℚ) : Option Action × Engine :=
  let s := s.tick cfg now
  match s.resyncEpoch, s.inflight, s.state with
  | none, none, some state =>
    if state.available ∧ fresh cfg now state.observedAt then
      nextActionLoop cfg state now s.latest.entries s
    else (none, s)
  | _, _, _ => (none, s)

/-- The errors `sent` raises. -/
inductive SentError where
  /-- `RuntimeError("A physical transaction is already in flight")`. -/
  | inFlight
  /-- `ValueError("Stale physical action or invalid transmission receipt")`. -/
  | staleAction
deriving DecidableEq

/-- The receipt fits the current observation and goal (lines 490–501). -/
def receiptValid (s : Engine) (action : Action) (at_ : ℚ) (ctsAt : Option ℚ) : Bool :=
  (s.state.any fun state =>
    state.safeFor action.intent.control ∧ action.epoch = state.epoch ∧
      action.sequence = state.sequence) ∧
  s.latest.get? action.intent.control = some action.intent.id ∧
  ((s.intent action.intent.id).any fun current => current.stage = .waitingForBus) ∧
  ¬ at_ < action.preparedAt ∧ ¬ ctsAt.any fun c => at_ < c

/-- `sent` (lines 485–510). -/
def sent (cfg : EngineConfig) (s : Engine) (action : Action) (at_ : ℚ) (ctsAt : Option ℚ) :
    Except SentError Unit × Engine :=
  let s := { s with now := at_ }
  if s.inflight ≠ none then (.error .inFlight, s)
  else if ¬ s.receiptValid action at_ ctsAt then (.error .staleAction, s)
  else
    let control := action.intent.control
    let transaction : Transaction := { action, ctsAt, sentAt := at_ }
    let s := { s with
      inflight := some transaction
      actions := s.actions.set control ((s.actions.get? control).getD 0 + 1)
      history := s.history.append transaction }
    let s := (s.update action.intent.id .sent none).update action.intent.id .waitingForState none
    (.ok (), s.tick cfg at_)

end Engine

/-! ## The engine as a machine -/

/-- A call of the engine's interface. -/
inductive EngineOp where
  | request (r : Engine.Request)
  | cancel (control : Control) (now : Option ℚ)
  | joined (id : ℕ) (now : ℚ)
  | observe (state : SpaState) (now : ℚ)
  | nextAction (now : ℚ)
  | sent (action : Action) (at_ : ℚ) (ctsAt : Option ℚ)
  | tick (now : ℚ)
  | suspend (now : ℚ)

/-- What a call returns or raises. -/
inductive EngineOut where
  | requested (result : Except Engine.RequestError Intent)
  | action (action : Option Action)
  | receipt (result : Except Engine.SentError Unit)
  | done
deriving DecidableEq

/-- One call. -/
def Engine.step (cfg : EngineConfig) (s : Engine) : EngineOp → Engine × EngineOut
  | .request r => ((s.request cfg r).2, .requested (s.request cfg r).1)
  | .cancel control now => (s.cancel control now, .done)
  | .joined id now => (s.joined id now, .done)
  | .observe state now => (s.observe cfg state now, .done)
  | .nextAction now => ((s.nextAction cfg now).2, .action (s.nextAction cfg now).1)
  | .sent action at_ ctsAt =>
    ((s.sent cfg action at_ ctsAt).2, .receipt (s.sent cfg action at_ ctsAt).1)
  | .tick now => (s.tick cfg now, .done)
  | .suspend now => (s.suspend now, .done)

/-- A fresh engine and its calls. -/
def engineMachine (cfg : EngineConfig) : Machine Engine EngineOp EngineOut where
  init := {}
  step := Engine.step cfg

@[simp] theorem engineMachine_step (cfg : EngineConfig) (s : Engine) (op : EngineOp) :
    (engineMachine cfg).step s op = s.step cfg op := rfl

end BalboaRs485
