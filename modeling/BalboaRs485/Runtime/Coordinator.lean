import BalboaRs485.Runtime.Admission

/-!
# The coordinator and its commands

Model of `async_command` and `_cancel_pending` in `coordinator.py`, over the runtime it owns
and everything else that is done to that runtime. `async_command` suspends at one await, in
`wait_for_intent`; a step is one stretch of a call of it, a step of the runtime, or a change
of the options. `callers` is a history: the calls that are at their await.
-/

namespace BalboaRs485

/-! ## State -/

/-- `PUMP_COMMAND_TIMEOUT`. -/
def pumpCommandTimeout : ℚ := 30

/-- `PUMP_COALESCE_WINDOW`. -/
def pumpCoalesceWindow : ℚ := 3 / 20

/-- A call of `async_command` at its await: its control, and the goal it waits for. -/
structure CommandCall where
  control : Control
  id : ℕ
deriving DecidableEq

/-- `SpaCoordinator`, as far as commands go. -/
structure SpaCoordinator (ρ : Type) where
  runtime : SpaRuntime ρ
  /-- `_opened`. -/
  opened : Bool := false
  /-- `controls_enabled`. -/
  enabled : Bool := false
  pending : Dict Control ℕ := .empty
  waiters : Dict ℕ ℕ := .empty
  deadlines : Dict ℕ ℚ := .empty
  /-- The calls at their await, by their task. -/
  callers : Dict ℕ CommandCall := .empty

/-- The exceptions that end a call of `async_command`. -/
inductive CommandError where
  | stopped
  | disabled
  | request (e : System.RequestError)
  /-- `AssertionError`: the goal has no deadline. -/
  | assertion
  /-- `KeyError`: an entry to delete is missing. -/
  | key
  /-- The `ValueError` of `wait_for_intent`. -/
  | unknown
  | timeout
  | cancelled
  /-- The exception of a connection that has stopped. -/
  | connection
  /-- `ServiceValidationError`. -/
  | replaced
  | unverified (stage : Stage) (reason : Option Reason)
deriving DecidableEq

namespace SpaCoordinator

variable {ρ : Type}

/-- What happens to the coordinator. -/
inductive Op (ρ : Type) where
  | asyncOpen
  | asyncClose
  /-- The options have changed. -/
  | enable (enabled : Bool)
  | asyncOptionsUpdated
  /-- A task calls `async_command`. -/
  | asyncCommand (task : ℕ) (control : Control) (desired : Value)
  /-- The task looks again at what it waits for. -/
  | wake (task : ℕ)
  /-- The await of the task times out. -/
  | timeout (task : ℕ)
  /-- The task is cancelled. -/
  | cancel (task : ℕ)
  /-- The connection has stopped. -/
  | stop (task : ℕ)
  /-- Anything else is done to the runtime. -/
  | runtime (op : SpaRuntime.Op ρ)

/-- What a step returns or raises. -/
inductive Out where
  | done
  /-- The call waits. -/
  | waiting
  /-- The call has ended. -/
  | ended (result : Except CommandError Unit)
deriving DecidableEq

variable (cfg : RuntimeConfig) (s : SpaCoordinator ρ)

/-! ## `async_command` -/

/-- `self.runtime.engine`. -/
def engine : Engine := s.runtime.commands.engine

/-- Replace the engine. -/
def setEngine (engine : Engine) : SpaCoordinator ρ :=
  { s with runtime := s.runtime.setEngine engine }

/-- The pending goal that a pump command joins (lines 83–95). -/
def joinable (control : Control) (desired : Value) : Option Intent :=
  ((s.pending.get? control).bind s.engine.intent).filter fun intent =>
    control.isPump ∧ intent.desired.pyEq desired ∧ ¬ intent.stage.terminal

/-- The request of a command that joins nothing (lines 96–103). -/
def commandRequest (control : Control) (desired : Value) : SpaRequest ρ where
  control
  desired
  deadline := some (s.runtime.time + if control.isPump then pumpCommandTimeout else 20)
  deferFor := if control.isPump then pumpCoalesceWindow else 0
  replacePending := control.isPump

/-- A call registers for a goal and waits (lines 109–113). -/
def register (task : ℕ) (control : Control) (intent : Intent) : SpaCoordinator ρ × Out :=
  match intent.deadline with
  | none => (s, .ended (.error .assertion))
  | some deadline =>
    ({ s with
        deadlines := if s.deadlines.contains intent.id then s.deadlines
          else s.deadlines.set intent.id deadline
        waiters := s.waiters.set intent.id ((s.waiters.get? intent.id).getD 0 + 1)
        pending := s.pending.set control intent.id
        callers := s.callers.set task ⟨control, intent.id⟩ },
      .waiting)

/-- `async_command` up to its await (lines 77–114). -/
def asyncCommand (task : ℕ) (control : Control) (desired : Value) : SpaCoordinator ρ × Out :=
  if ¬ s.opened then (s, .ended (.error .stopped))
  else if ¬ s.enabled then (s, .ended (.error .disabled))
  else
    match s.joinable control desired with
    | some intent =>
      (s.setEngine (s.engine.joined intent.id s.runtime.time)).register task control intent
    | none =>
      match s.runtime.request cfg (s.commandRequest control desired) none with
      | (.error e, runtime) => ({ s with runtime }, .ended (.error (.request e)))
      | (.ok intent, runtime) => { s with runtime }.register task control intent

/-- The tables after the `finally` (lines 129–135); `none` is a `KeyError`. -/
def leave (call : CommandCall) : Option (SpaCoordinator ρ) :=
  match s.waiters.get? call.id with
  | none => none
  | some n =>
    if n ≠ 1 then some { s with waiters := s.waiters.set call.id (n - 1) }
    else if ¬ s.deadlines.contains call.id then none
    else some { s with
      waiters := s.waiters.pop call.id
      deadlines := s.deadlines.pop call.id
      pending := if s.pending.get? call.control = some call.id then s.pending.pop call.control
        else s.pending }

/-- The call of a task ends. -/
def exit (task : ℕ) (call : CommandCall) (result : Except CommandError Unit) :
    SpaCoordinator ρ × Out :=
  match s.leave call with
  | none => ({ s with callers := s.callers.pop task }, .ended (.error .key))
  | some s => ({ s with callers := s.callers.pop task }, .ended result)

/-- What a call returns or raises when its goal has ended (lines 137–144). -/
def conclude (result : Intent) : Except CommandError Unit :=
  if result.stage = .superseded then .error .replaced
  else if result.stage ≠ .verified then .error (.unverified result.stage result.reason)
  else .ok ()

/-- The end of `wait_for_intent`. -/
def wakeCall (task : ℕ) (call : CommandCall) : SpaCoordinator ρ × Out :=
  match s.engine.intent call.id with
  | none => s.exit task call (.error .unknown)
  | some result =>
    if result.stage.terminal then s.exit task call (conclude result) else (s, .waiting)

/-- `engine.cancel`, if the goal of the call is the pending one (lines 122–125). -/
def abandon (call : CommandCall) : SpaCoordinator ρ :=
  if s.pending.get? call.control = some call.id then
    s.setEngine (s.engine.cancel call.control (some s.runtime.time))
  else s

/-- `wait_for_intent` times out: it looks once more, after a tick. -/
def timeoutCall (task : ℕ) (call : CommandCall) : SpaCoordinator ρ × Out :=
  let s := s.setEngine (s.engine.tick cfg.engine s.runtime.time)
  match s.engine.intent call.id with
  | none => s.exit task call (.error .unknown)
  | some result =>
    if result.stage.terminal then s.exit task call (conclude result)
    else (s.abandon call).exit task call (.error .timeout)

/-- A task is cancelled (lines 119–127). -/
def cancelCall (task : ℕ) (call : CommandCall) : SpaCoordinator ρ × Out :=
  if s.waiters.get? call.id = some 1 then
    (s.abandon call).exit task call (.error .cancelled)
  else s.exit task call (.error .cancelled)

/-! ## `_cancel_pending` -/

/-- One pass of the loop (lines 70–75). -/
def cancelEntry (s : SpaCoordinator ρ) (entry : Control × ℕ) : SpaCoordinator ρ :=
  if (s.engine.intent entry.2).any fun intent => ¬ intent.stage.terminal then
    s.setEngine (s.engine.cancel entry.1 (some s.runtime.time))
  else s

/-- `_cancel_pending` (lines 68–75). -/
def cancelPending : SpaCoordinator ρ := s.pending.entries.foldl cancelEntry s

/-! ## Steps -/

/-- One step. -/
def step : Op ρ → SpaCoordinator ρ × Out
  | .asyncOpen => ({ s with opened := true }, .done)
  | .asyncClose => ({ s with opened := false }.cancelPending, .done)
  | .enable enabled => ({ s with enabled }, .done)
  | .asyncOptionsUpdated => (if s.enabled then s else s.cancelPending, .done)
  | .asyncCommand task control desired =>
    if s.callers.contains task then (s, .done) else s.asyncCommand cfg task control desired
  | .wake task =>
    match s.callers.get? task with
    | none => (s, .done)
    | some call => s.wakeCall task call
  | .timeout task =>
    match s.callers.get? task with
    | none => (s, .done)
    | some call => s.timeoutCall cfg task call
  | .cancel task =>
    match s.callers.get? task with
    | none => (s, .done)
    | some call => s.cancelCall task call
  | .stop task =>
    match s.callers.get? task with
    | none => (s, .done)
    | some call => s.exit task call (.error .connection)
  | .runtime op => ({ s with runtime := (s.runtime.step cfg op).1 }, .done)

/-- The machine of a coordinator in a world. -/
def machine (cfg : RuntimeConfig) (world : ρ) : Machine (SpaCoordinator ρ) (Op ρ) Out where
  init := { runtime := { world } }
  step := fun s => s.step cfg

/-- The coordinator after the first `n` steps of a run. -/
def coordinatorAt (cfg : RuntimeConfig) (world : ρ) (run : List (Op ρ)) (n : ℕ) :
    SpaCoordinator ρ :=
  (machine cfg world).stateAt run n

end SpaCoordinator

end BalboaRs485
