import BalboaRs485.Protocol.Settings
import BalboaRs485.Runtime.Guards
import BalboaRs485.Runtime.Runner

/-!
# The runtime and its filter edits

Model of `SpaRuntime` in `runtime.py` for callers of any kind. `System` is the runtime
with one session runner; here the callers are anybody. A predicate that a caller passes
as `valid` is a function of the snapshot of the connection and of the world around the
runtime, a type `ρ` of which nothing is known: a call answers and may change it, and
between the calls it changes freely.

`async_update_filter` holds `_filter_lock` and suspends at three awaits; `FilterTask`
says where. A step is one stretch of it, a callback of the connection or a call of
somebody else, in any order. `grants` is a history: every request that was accepted.
-/

namespace BalboaRs485

/-! ## Predicates -/

/-- A closure behind `valid`. -/
abbrev Predicate (ρ : Type) := Snapshot → ρ → Bool × ρ

/-- `clock_valid` (lines 282–285) and `admitted` (lines 340–341): in the epoch the closure was
    made in, the answer of the caller. -/
def Predicate.within {ρ : Type} (epoch : ℕ) (valid : Option (Predicate ρ)) : Predicate ρ :=
  fun snapshot r =>
    if snapshot.epoch = epoch then
      match valid with
      | none => (true, r)
      | some valid => valid snapshot r
    else (false, r)

/-! ## State -/

/-- The arguments of `request`. -/
structure SpaRequest (ρ : Type) where
  control : Control
  desired : Value
  valid : Option (Predicate ρ) := none
  deadline : Option ℚ := none
  deferFor : ℚ := 0
  replacePending : Bool := false

namespace SpaRequest

variable {ρ : Type}

/-- The controls whose commands expire with their connection (lines 274–279). -/
def expires (control : Control) : Bool :=
  control = .clockTime ∨ control = .soak ∨ control = .normalOperation ∨ control = .ackReminder

/-- The guard of a request that is made in an epoch (lines 274–287). -/
def guard (r : SpaRequest ρ) (epoch : ℕ) : Option (Predicate ρ) :=
  if expires r.control then some (Predicate.within epoch r.valid) else r.valid

/-- The arguments of `engine.request` (lines 288–295). -/
def engineRequest (r : SpaRequest ρ) (now : ℚ) : Engine.Request where
  control := r.control
  desired := r.desired
  now
  deadline := r.deadline
  deferFor := r.deferFor
  replacePending := r.replacePending

end SpaRequest

/-- The arguments of `async_update_filter`. -/
structure FilterEdit (ρ : Type) where
  index : ℤ
  start : Option ℤ := none
  stop : Option ℤ := none
  enabled : Option Bool := none
  valid : Option (Predicate ρ) := none

/-- The filter lock, and where its holder waits. -/
inductive FilterTask (ρ : Type) where
  | free
  /-- For the end of the metadata queries. -/
  | idling (edit : FilterEdit ρ) (epoch : ℕ)
  /-- For the fresh read. -/
  | reading (edit : FilterEdit ρ) (epoch generation : ℕ)
  /-- In `wait_for_intent`. -/
  | writing (edit : FilterEdit ρ) (id : ℕ)

/-- An accepted request: its intent, its arguments, the epoch it was made in, and the filter
    edit that has made it, if it was one. -/
structure Grant (ρ : Type) where
  id : ℕ
  request : SpaRequest ρ
  epoch : ℕ
  edit : Option (FilterEdit ρ)

/-- `SpaRuntime`, and the world its callers live in. -/
structure SpaRuntime (ρ : Type) where
  commands : Commands (Predicate ρ) := {}
  /-- `connection.snapshot`. -/
  snapshot : Snapshot := {}
  /-- `asyncio.get_running_loop().time()`. -/
  time : ℚ := 0
  world : ρ
  task : FilterTask ρ := .free
  grants : List (Grant ρ) := []

/-- The exceptions that end a filter edit. -/
inductive FilterError where
  | unavailable
  | changed
  | metadata (e : CommandsError)
  | unread
  | settings (e : SettingsError)
  | disabled
  | request (e : System.RequestError)
  | unknown
  | unverified
  /-- `TimeoutError`. -/
  | timeout
  /-- `asyncio.CancelledError`, or the exception of a connection that has stopped. -/
  | stopped
deriving DecidableEq

/-- The messages they are raised with. -/
def FilterError.text : FilterError → String
  | unavailable => "Filter controls are unavailable"
  | changed => "Connection changed while waiting for filter read"
  | metadata _ => "Metadata query already pending or not synchronized"
  | unread => "A fresh filter read could not be verified"
  | settings e => e.text
  | disabled => "Filter controls were disabled during readback"
  | request e => e.text
  | unknown => "Intent is unknown or no longer in bounded history"
  | unverified => "Filter change was not verified; read current settings"
  | timeout => ""
  | stopped => ""

namespace SpaRuntime

variable {ρ : Type}

/-- What happens to the runtime. -/
inductive Op (ρ : Type) where
  | clock (time : ℚ)
  /-- Something happens outside. -/
  | world (world : ρ)
  /-- The connection has changed. -/
  | publish (snapshot : Snapshot)
  | update (now : ℚ)
  | prepare (now : ℚ)
  | sent (message : Transmission) (at_ : ℚ) (ctsAt : Option ℚ)
  | received (message : Message) (epoch : ℕ) (at_ : ℚ)
  | disconnected (now : ℚ)
  | request (r : SpaRequest ρ)
  | cancel (control : Control) (now : Option ℚ)
  | joined (id : ℕ) (now : ℚ)
  /-- The `engine.tick` of `wait_for_intent`. -/
  | waited (now : ℚ)
  | asyncUpdateFilter (edit : FilterEdit ρ)
  /-- The filter edit looks again at what it waits for. -/
  | wake
  /-- The await of the filter edit times out. -/
  | timeout (now : ℚ)
  /-- The filter edit is cancelled, or the connection has stopped. -/
  | stop

/-- What a step returns or raises. -/
inductive Out (ρ : Type) where
  | done
  /-- What `prepare` has returned, and the predicates it has called. -/
  | handed (message : Option Transmission) (calls : List (Commands.GuardCall (Predicate ρ) ρ))
  | receipt (result : Except CommandsError Unit)
  | requested (result : Except System.RequestError Intent)
  /-- The filter edit has ended. -/
  | edited (result : Except FilterError Unit)
  /-- The filter edit waits. -/
  | waiting

variable (cfg : RuntimeConfig) (w : SpaRuntime ρ)

/-- `state` (lines 250–252). -/
def state : Option SpaState := w.commands.engine.state

/-- Replace the engine. -/
def setEngine (engine : Engine) : SpaRuntime ρ :=
  { w with commands := { w.commands with engine } }

/-- A predicate is called. -/
def callGuard (_ : Control) (guard : Predicate ρ) (r : ρ) : Bool × Predicate ρ × ρ :=
  ((guard w.snapshot r).1, guard, (guard w.snapshot r).2)

/-- `prepare`. -/
def prepare (now : ℚ) : SpaRuntime ρ × Out ρ :=
  ({ w with
      commands := (w.commands.prepare cfg w.callGuard w.world now).2.1
      world := (w.commands.prepare cfg w.callGuard w.world now).2.2 },
    .handed (w.commands.prepare cfg w.callGuard w.world now).1
      (w.commands.guardCalls w.callGuard w.world))

/-! ## `request` -/

/-- `replacing_pump` (lines 264–271). -/
def replacingPump (r : SpaRequest ρ) : Bool :=
  r.replacePending ∧ r.control.isPump ∧
    (w.commands.engine.latestIntent r.control).any fun existing => ¬ existing.stage.terminal

/-- `request` (lines 254–300), made for a filter edit or not. -/
def request (r : SpaRequest ρ) (edit : Option (FilterEdit ρ)) :
    Except System.RequestError Intent × SpaRuntime ρ :=
  if ¬ w.snapshot.available ∧ ¬ w.replacingPump r then (.error .notReady, w)
  else
    match w.commands.request cfg (r.engineRequest w.time) (r.guard w.snapshot.epoch) with
    | (.error e, commands) => (.error (.engine e), { w with commands })
    | (.ok intent, commands) =>
      (.ok intent, { w with
        commands
        grants := w.grants ++ [⟨intent.id, r, w.snapshot.epoch, edit⟩] })

/-! ## `async_update_filter` -/

/-- The filter edit returns or raises, and leaves the lock. -/
def finish (result : Except FilterError Unit) : SpaRuntime ρ × Out ρ :=
  ({ w with task := .free }, .edited result)

/-- The filter edit waits. -/
def await (task : FilterTask ρ) : SpaRuntime ρ × Out ρ := ({ w with task }, .waiting)

/-- The `finally` (lines 349–352). -/
def abandonWrite (id : ℕ) : SpaRuntime ρ :=
  match w.commands.engine.intent id with
  | none => w
  | some current =>
    if current.stage = .verified then w else w.setEngine (w.commands.engine.cancel .filters none)

/-- The end of `wait_for_intent`, and what follows it (lines 345–352 and 354–379). -/
def awaitWrite (edit : FilterEdit ρ) (id : ℕ) : SpaRuntime ρ × Out ρ :=
  match w.commands.engine.intent id with
  | none => w.finish (.error .unknown)
  | some result =>
    if ¬ result.stage.terminal then w.await (.writing edit id)
    else if result.stage = .verified then w.finish (.ok ())
    else (w.abandonWrite id).finish (.error .unverified)

/-- The request of the edited record (lines 343–352). -/
def writeEdit (edit : FilterEdit ρ) (epoch : ℕ) (desired : FilterSchedule) :
    SpaRuntime ρ × Out ρ :=
  match w.request cfg
      { control := .filters
        desired := .filters desired
        valid := some (Predicate.within epoch edit.valid) } (some edit) with
  | (.error e, w) => w.finish (.error (.request e))
  | (.ok intent, w) => w.awaitWrite edit intent.id

/-- The edited record is only requested if the caller still agrees (lines 337–342). -/
def admitEdit (edit : FilterEdit ρ) (epoch : ℕ) (desired : FilterSchedule) :
    SpaRuntime ρ × Out ρ :=
  if (Predicate.within epoch edit.valid w.snapshot w.world).1 then
    { w with world := (Predicate.within epoch edit.valid w.snapshot w.world).2 }.writeEdit
      cfg edit epoch desired
  else
    { w with world := (Predicate.within epoch edit.valid w.snapshot w.world).2 }.finish
      (.error .disabled)

/-- The record that was read is edited (lines 327–342). -/
def applyEdit (edit : FilterEdit ρ) (epoch : ℕ) : SpaRuntime ρ × Out ρ :=
  if w.snapshot.epoch ≠ epoch ∨ ¬ w.commands.refreshSuccess then w.finish (.error .unread)
  else
    match w.state.bind SpaState.filters with
    | none => w.finish (.error .unread)
    | some filters =>
      match filters.schedule.update edit.index edit.start edit.stop edit.enabled with
      | .error e => w.finish (.error (.settings e))
      | .ok desired => w.admitEdit cfg edit epoch desired

/-- The second `wait_for` (lines 323–326). -/
def awaitRead (edit : FilterEdit ρ) (epoch generation : ℕ) : SpaRuntime ρ × Out ρ :=
  if w.snapshot.epoch ≠ epoch ∨ w.commands.refreshVersion ≠ generation then
    w.applyEdit cfg edit epoch
  else w.await (.reading edit epoch generation)

/-- The fresh read is asked for (lines 321–322). -/
def askRead (edit : FilterEdit ρ) (epoch : ℕ) : SpaRuntime ρ × Out ρ :=
  match w.commands.refreshFilters with
  | (.error e, commands) => { w with commands }.finish (.error (.metadata e))
  | (.ok (), commands) => { w with commands }.awaitRead cfg edit epoch w.commands.refreshVersion

/-- The first `wait_for` (lines 316–320). -/
def awaitIdle (edit : FilterEdit ρ) (epoch : ℕ) : SpaRuntime ρ × Out ρ :=
  if w.snapshot.epoch ≠ epoch then w.finish (.error .changed)
  else if w.commands.metadataIdle then w.askRead cfg edit epoch
  else w.await (.idling edit epoch)

/-- The caller's first answer (lines 313–314). -/
def enterEdit (edit : FilterEdit ρ) : SpaRuntime ρ × Out ρ :=
  match edit.valid with
  | none => w.awaitIdle cfg edit w.snapshot.epoch
  | some valid =>
    if (valid w.snapshot w.world).1 then
      { w with world := (valid w.snapshot w.world).2 }.awaitIdle cfg edit w.snapshot.epoch
    else { w with world := (valid w.snapshot w.world).2 }.finish (.error .unavailable)

/-- `async_update_filter` (lines 302–352), behind `async with self._filter_lock`: it starts
    when the lock is free. -/
def asyncUpdateFilter (edit : FilterEdit ρ) : SpaRuntime ρ × Out ρ :=
  match w.task with
  | .free => if w.snapshot.available then w.enterEdit cfg edit else w.finish (.error .unavailable)
  | _ => (w, .done)

/-- The filter edit looks at what it waits for. -/
def wake : SpaRuntime ρ × Out ρ :=
  match w.task with
  | .free => (w, .done)
  | .idling edit epoch => w.awaitIdle cfg edit epoch
  | .reading edit epoch generation => w.awaitRead cfg edit epoch generation
  | .writing edit id => w.awaitWrite edit id

/-- The await of the filter edit times out. `wait_for_intent` looks once more, after a tick
    (lines 371–376). -/
def timeout (now : ℚ) : SpaRuntime ρ × Out ρ :=
  match w.task with
  | .free => (w, .done)
  | .idling _ _ => w.finish (.error .timeout)
  | .reading _ _ _ => w.finish (.error .timeout)
  | .writing edit id =>
    if ((w.commands.engine.tick cfg.engine now).intent id).any fun item => ¬ item.stage.terminal then
      ((w.setEngine (w.commands.engine.tick cfg.engine now)).abandonWrite id).finish
        (.error .timeout)
    else (w.setEngine (w.commands.engine.tick cfg.engine now)).awaitWrite edit id

/-- The await of the filter edit raises. -/
def stop : SpaRuntime ρ × Out ρ :=
  match w.task with
  | .free => (w, .done)
  | .idling _ _ => w.finish (.error .stopped)
  | .reading _ _ _ => w.finish (.error .stopped)
  | .writing _ id => (w.abandonWrite id).finish (.error .stopped)

/-! ## Steps -/

/-- A snapshot of the connection; its epoch never falls. -/
def publish (snapshot : Snapshot) : SpaRuntime ρ :=
  if snapshot.epoch < w.snapshot.epoch then w else { w with snapshot }

/-- One step. -/
def step : Op ρ → SpaRuntime ρ × Out ρ
  | .clock time => ({ w with time }, .done)
  | .world world => ({ w with world }, .done)
  | .publish snapshot => (w.publish snapshot, .done)
  | .update now => ({ w with commands := w.commands.update cfg w.snapshot now }, .done)
  | .prepare now => w.prepare cfg now
  | .sent message at_ ctsAt =>
    ({ w with commands := (w.commands.sent cfg message at_ ctsAt).2 },
      .receipt (w.commands.sent cfg message at_ ctsAt).1)
  | .received message epoch at_ =>
    ({ w with commands := w.commands.received cfg message epoch at_ }, .done)
  | .disconnected now => ({ w with commands := w.commands.disconnected now }, .done)
  | .request r => ((w.request cfg r none).2, .requested (w.request cfg r none).1)
  | .cancel control now => (w.setEngine (w.commands.engine.cancel control now), .done)
  | .joined id now => (w.setEngine (w.commands.engine.joined id now), .done)
  | .waited now => (w.setEngine (w.commands.engine.tick cfg.engine now), .done)
  | .asyncUpdateFilter edit => w.asyncUpdateFilter cfg edit
  | .wake => w.wake cfg
  | .timeout now => w.timeout cfg now
  | .stop => w.stop

/-- The machine of a runtime in a world. -/
def machine (cfg : RuntimeConfig) (world : ρ) : Machine (SpaRuntime ρ) (Op ρ) (Out ρ) where
  init := { world }
  step := fun w => w.step cfg

/-- The runtime after the first `n` steps of a run. -/
def spaAt (cfg : RuntimeConfig) (world : ρ) (run : List (Op ρ)) (n : ℕ) : SpaRuntime ρ :=
  (machine cfg world).stateAt run n

/-- The runtime of a `System` makes its requests as this one does. -/
theorem system_request (cfg : RuntimeConfig) (w : System) (r : System.Request)
    (h : w.snapshot.available = true ∨ w.replacingPump r = true) :
    (w.request cfg r).2.commands =
      (w.commands.request cfg (w.engineRequest r) (w.guardOf r)).2 := by
  unfold System.request Commands.request
  rw [if_neg (by rcases h with h | h <;> simp [h])]
  rcases w.commands.engine.request cfg.engine (w.engineRequest r) with ⟨e | intent, engine⟩
  · rfl
  · show ({ w.commands with engine, guards := w.attachGuard r intent.id } : Commands Guard) = _
    unfold System.attachGuard
    cases w.guardOf r <;> rfl

end SpaRuntime

end BalboaRs485
