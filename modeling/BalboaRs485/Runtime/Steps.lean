import BalboaRs485.Runtime.Runner
import BalboaRs485.Transport.Slots

/-!
# What one step of the system can do

The methods of the runner are inverted once, here; the invariants of the modules
behind this one are case analyses over the result.

* `step_case`: every step leaves the runner to itself (`Env`), is a request of
  another caller, or is one stretch of a coroutine.
* `pursue_case`: what `async_tick` makes of the goal of an active session.
* `systemAt_engine`: the engine only changes by calls of its interface, so what
  holds of every run of `engineMachine` holds of the engine of a system.
-/

namespace BalboaRs485

namespace System

variable {cfg : RuntimeConfig} {w w' : System}

/-! ## Pausing -/

/-- A call of `cancel`. -/
def CancelOp : EngineOp → Prop
  | .cancel _ _ => True
  | _ => False

/-- `pause` cancels at most one goal. -/
theorem pause_engine (cfg : EngineConfig) (w : System) :
    Engine.Calls cfg CancelOp w.commands.engine w.pause.commands.engine := by
  show Engine.Calls cfg CancelOp w.commands.engine w.cancelIntent.commands.engine
  unfold cancelIntent
  split
  · exact .refl _
  · next item _ =>
    split
    · exact .refl _
    · exact Engine.Calls.one (.cancel item.control none) trivial

theorem cancelIntent_rest (w : System) :
    w.cancelIntent = w.setEngine w.cancelIntent.commands.engine := by
  unfold cancelIntent
  split
  · rfl
  · split <;> rfl

/-- `pause` forgets the intent and the attempt. -/
theorem pause_eq (w : System) :
    w.pause = { w.setEngine w.pause.commands.engine with
      runner := { w.runner with intent := none, attempt := none } } := by
  have h := cancelIntent_rest w
  unfold pause
  rw [h]
  rfl

@[simp] theorem pause_runner (w : System) :
    w.pause.runner = { w.runner with intent := none, attempt := none } := by
  rw [pause_eq]

@[simp] theorem pause_lock (w : System) : w.pause.lock = w.lock := by
  rw [pause_eq]; rfl

@[simp] theorem pause_requests (w : System) : w.pause.requests = w.requests := by
  rw [pause_eq]; rfl

@[simp] theorem pause_snapshot (w : System) : w.pause.snapshot = w.snapshot := by
  rw [pause_eq]; rfl

@[simp] theorem pause_enabled (w : System) : w.pause.enabled = w.enabled := by
  rw [pause_eq]; rfl

/-! ## Requests -/

/-- A call of `request`. -/
def RequestOp : EngineOp → Prop
  | .request _ => True
  | _ => False

/-- `runtime.request` is refused, or is a call of `engine.request`. -/
theorem request_case (cfg : RuntimeConfig) (w : System) (r : Request) :
    (w.request cfg r = (.error .notReady, w)) ∨
      ((w.request cfg r).2.commands.engine =
          (w.commands.engine.request cfg.engine (w.engineRequest r)).2 ∧
        (w.request cfg r).1 =
          (w.commands.engine.request cfg.engine (w.engineRequest r)).1.mapError
            RequestError.engine) := by
  unfold request
  split
  · exact Or.inl rfl
  · right
    split
    · next e engine he => rw [he]; exact ⟨rfl, rfl⟩
    · next intent engine he => rw [he]; exact ⟨rfl, rfl⟩

/-- `runtime.request` leaves everything but the participant alone. -/
structure SameRest (w w' : System) : Prop where
  runner : w'.runner = w.runner
  lock : w'.lock = w.lock
  requests : w'.requests = w.requests
  snapshot : w'.snapshot = w.snapshot
  enabled : w'.enabled = w.enabled

theorem request_rest (cfg : RuntimeConfig) (w : System) (r : Request) :
    SameRest w (w.request cfg r).2 := by
  unfold request
  split
  · exact ⟨rfl, rfl, rfl, rfl, rfl⟩
  · split <;> exact ⟨rfl, rfl, rfl, rfl, rfl⟩

theorem request_engine (cfg : RuntimeConfig) (w : System) (r : Request) :
    Engine.Calls cfg.engine RequestOp w.commands.engine (w.request cfg r).2.commands.engine := by
  rcases request_case cfg w r with h | ⟨h, -⟩
  · rw [h]
    exact .refl _
  · rw [h]
    exact Engine.Calls.one (.request (w.engineRequest r)) trivial

/-! ## The goal of an active session -/

/-- What `async_tick` makes of the goal of an active session. -/
inductive PursueCase (cfg : RuntimeConfig) (w : System) (session : SessionIntent) : System → Prop
  /-- The controls are disabled or unavailable, or the goal is refused. -/
  | paused (reason : BlockedBy)
      (h : w.enabled = false ∨ w.snapshot.available = false ∨
        (w.settled = true ∧ ∃ e, session.goal w.state = .error e)) :
      PursueCase cfg w session (w.pause.block (some reason))
  /-- A transaction or a resynchronization is awaited. -/
  | awaited (h : w.settled = false) :
      PursueCase cfg w session (w.block (some .waitingForVerification))
  /-- The goal is observed. -/
  | observed (goal : Control × Value) (hgoal : session.goal w.state = .ok goal)
      (h : ∃ state, w.state = some state ∧ Value.shows (state.value goal.1) goal.2 = true) :
      PursueCase cfg w session { w with runner := { w.runner with
        attempt := some (w.attemptAt session goal)
        blockedReason := none } }
  /-- The goal was requested before. -/
  | remembered (goal : Control × Value) (hgoal : session.goal w.state = .ok goal)
      (h : ∀ state, w.state = some state → Value.shows (state.value goal.1) goal.2 = false)
      (hsame : w.runner.attempt.any (w.attemptAt session goal).same = true) :
      PursueCase cfg w session (w.block (some w.progress))
  /-- The goal is requested now. -/
  | requested (goal : Control × Value) (hgoal : session.goal w.state = .ok goal)
      (hready : w.enabled = true ∧ w.snapshot.available = true ∧ w.settled = true)
      (h : ∀ state, w.state = some state → Value.shows (state.value goal.1) goal.2 = false)
      (hsame : w.runner.attempt.any (w.attemptAt session goal).same = false) :
      PursueCase cfg w session (w.submit cfg (w.attemptAt session goal))

theorem pursue_case (cfg : RuntimeConfig) (w : System) (session : SessionIntent) :
    PursueCase cfg w session (w.pursueSession cfg session) := by
  unfold pursueSession
  split
  · next h => exact .paused _ (Or.inl (by simpa using h))
  next henabled =>
  split
  · next h => exact .paused _ (Or.inr (Or.inl (by simpa using h)))
  next havailable =>
  split
  · next h => exact .awaited (by simpa using h)
  next hsettled =>
  have hready : w.enabled = true ∧ w.snapshot.available = true ∧ w.settled = true := by
    simpa using And.intro henabled (And.intro havailable hsettled)
  split
  · next e he => exact .paused _ (Or.inr (Or.inr ⟨hready.2.2, e, he⟩))
  · next goal hgoal =>
    unfold pursueGoal
    split
    · next h => exact .observed goal hgoal (by simpa [Option.any_eq_true, attemptAt] using h)
    · next hunseen =>
      have hunseen : ∀ state, w.state = some state →
          Value.shows (state.value goal.1) goal.2 = false := by
        intro state hs
        simpa [hs, attemptAt] using hunseen
      split
      · next h => exact .requested goal hgoal hready hunseen (by simpa using h)
      · next h => exact .remembered goal hgoal hunseen (by simpa using h)

/-- What a submitted request leaves behind. -/
inductive SubmitCase (cfg : RuntimeConfig) (w : System) (attempt : Attempt) : System → Prop
  | rejected (e : RequestError) (w' : System)
      (h : w.request cfg (goalRequest attempt) = (.error e, w')) :
      SubmitCase cfg w attempt { w'.pause.block (some .unsupportedState) with
        requests := w'.requests ++ [⟨attempt, none⟩] }
  | accepted (intent : Intent) (w' : System)
      (h : w.request cfg (goalRequest attempt) = (.ok intent, w')) :
      SubmitCase cfg w attempt { w' with
        requests := w'.requests ++ [⟨attempt, some intent.id⟩]
        runner := { w'.runner with
          intent := some intent.id
          attempt := some attempt
          blockedReason := some .waitingForVerification } }

theorem submit_case (cfg : RuntimeConfig) (w : System) (attempt : Attempt) :
    SubmitCase cfg w attempt (w.submit cfg attempt) := by
  unfold submit
  split
  · next e w' h => exact .rejected e w' h
  · next intent w' h => exact .accepted intent w' h

/-! ## Entering the lock -/

theorem writable_ok {r : Runner} (h : r.writable = .ok ()) :
    r.closed = false ∧ r.storageFailed = false := by
  unfold Runner.writable at h
  split at h
  · cases h
  · next hc =>
    split at h
    · cases h
    · next hs => exact ⟨by simpa using hc, by simpa using hs⟩

theorem replace_ok {next : Option SessionIntent} {task : Task} (h : w.replace next task = .ok w') :
    w.runner.writable = .ok () ∧ w' = { w.pause with lock := .saving next task } := by
  unfold replace at h
  split at h
  · cases h
  · next hw => cases h; exact ⟨hw, rfl⟩

/-- What a coroutine other than `async_tick` does up to its first `await`: nothing, or
    it pauses the runner and saves, or it applies a manual change. -/
inductive Entered (w : System) : System → Prop
  | same : Entered w w
  | saving (next : Option SessionIntent) (task : Task) (hw : w.runner.writable = .ok ())
      (ht : task ≠ .tick) : Entered w { w.pause with lock := .saving next task }
  | applying (control : Control) (desired : Value) :
      Entered w { w with lock := .applying control desired }

theorem entered_of_replace {next : Option SessionIntent} {task : Task} (ht : task ≠ .tick)
    (h : w.replace next task = .ok w') : Entered w w' := by
  obtain ⟨hw, rfl⟩ := replace_ok h
  exact .saving next task hw ht

theorem startWith_entered {session : Except SessionError SessionIntent}
    (h : w.startWith session = .ok w') : Entered w w' := by
  unfold startWith at h
  split at h
  · cases h
  split at h
  · cases h
  split at h
  · cases h
  split at h
  · cases h
  · exact entered_of_replace (by simp) h

theorem asyncCancel_entered (h : w.asyncCancel = .ok w') : Entered w w' := by
  unfold asyncCancel at h
  split at h
  · cases h
  · cases h
  · exact entered_of_replace (by simp) h

theorem asyncAdjust_entered {seconds : ℚ} (h : w.asyncAdjust seconds = .ok w') : Entered w w' := by
  unfold asyncAdjust at h
  split at h
  · cases h
  · cases h
  · split at h
    · cases h
    · split at h
      · cases h
      · exact entered_of_replace (by simp) h

theorem asyncAbandon_entered (h : w.asyncAbandon = .ok w') : Entered w w' := by
  unfold asyncAbandon at h
  split at h
  · cases h
  · cases h; exact .same
  · exact entered_of_replace (by simp) h

theorem asyncManualChange_entered {control : Control} {desired : Value}
    (h : w.asyncManualChange control desired = .ok w') : Entered w w' := by
  unfold asyncManualChange at h
  split at h
  · cases h
  split at h
  · cases h
  split at h
  · cases h
  split at h
  · cases h
  split at h
  · cases h
  · cases h; exact .applying control desired
  · unfold changeDuring at h
    split at h
    · split at h
      · cases h; exact .applying control desired
      · cases h
    · split at h
      · split at h
        · cases h
        · exact entered_of_replace (by simp) h
      · exact entered_of_replace (by simp) h

/-! ## Steps -/

/-- The observation that `update` shows the engine, if it is accepted. -/
def observed (cfg : RuntimeConfig) (w : System) (now : ℚ) : Option SpaState :=
  ((w.commands.manageQueries cfg w.snapshot now).observation w.snapshot).filter
    fun o => ¬ w.commands.engine.stale o

/-- A step that leaves the runner to itself. The latch of its guards may close. -/
structure Env (cfg : RuntimeConfig) (w : System) (op : Op) (w' : System) : Prop where
  engine : Engine.Calls cfg.engine Engine.NoRequest w.commands.engine w'.commands.engine
  state : w'.state = w.state ∨ w'.state = Engine.offline w.state ∨
    ∃ now o, op = .update now ∧ w.observed cfg now = some o ∧ w'.state = some o
  runner : w'.runner = { w.runner with expired := w'.runner.expired }
  lock : w'.lock = w.lock
  requests : w'.requests = w.requests
  epoch : w.snapshot.epoch ≤ w'.snapshot.epoch
  enabled : w'.enabled = w.enabled ∨ op = .enable w'.enabled

theorem Env.refl (cfg : RuntimeConfig) (w : System) (op : Op) : Env cfg w op w :=
  ⟨.refl _, Or.inl rfl, rfl, rfl, rfl, le_rfl, Or.inl rfl⟩

/-- The participant only changes the engine by calls that are no requests. -/
theorem env_commands {op : Op} {c : Commands Guard}
    (h : Engine.Calls cfg.engine (fun o => Engine.NoRequest o ∧ Engine.NoObserve o)
      w.commands.engine c.engine) : Env cfg w op { w with commands := c } where
  engine := h.mono fun _ ho => ho.1
  state := (h.mono fun _ ho => ho.2).state.imp_right Or.inl
  runner := rfl
  lock := rfl
  requests := rfl
  epoch := le_rfl
  enabled := Or.inl rfl

theorem env_engineOp {op : Op} (engineOp : EngineOp) (h : Engine.NoRequest engineOp)
    (h' : Engine.NoObserve engineOp) :
    Env cfg w op (w.setEngine (w.commands.engine.step cfg.engine engineOp).1) :=
  env_commands (Engine.Calls.one engineOp ⟨h, h'⟩)

theorem env_update (now : ℚ) :
    Env cfg w (.update now) { w with commands := w.commands.update cfg w.snapshot now } := by
  obtain ⟨o, ho, heq⟩ | ⟨-, heq⟩ := Commands.update_engine cfg w.commands w.snapshot now
  · have hcall : w.commands.engine.observe cfg.engine o now =
        (w.commands.engine.step cfg.engine (.observe o now)).1 := rfl
    refine ⟨?_, ?_, rfl, rfl, rfl, le_rfl, Or.inl rfl⟩
    · rw [heq, hcall]
      exact Engine.Calls.one _ (by intro r; simp)
    · have hstate : ({ w with commands := w.commands.update cfg w.snapshot now } : System).state =
          (w.commands.engine.step cfg.engine (.observe o now)).1.state :=
        congrArg Engine.state (heq.trans hcall)
      rw [hstate]
      rcases Engine.step_state cfg.engine w.commands.engine (.observe o now) with
        h | h | ⟨o', now', hop, hst, h⟩
      · exact Or.inl h
      · exact Or.inr (Or.inl h)
      · cases hop
        refine Or.inr (Or.inr ⟨now, o, rfl, ?_, h⟩)
        simp [observed, ho, hst]
  · refine env_commands ?_
    rw [heq]
    exact (Engine.Calls.one (.tick now) ⟨by intro r; simp, by intro o t; simp⟩).trans
      (Engine.Calls.one (.suspend now) ⟨by intro r; simp, by intro o t; simp⟩)

theorem callGuard_owner (answers : Control → Bool) (control : Control) (guard : Guard) (r : Runner) :
    (w.callGuard answers control guard r).2.2 =
      { r with expired := (w.callGuard answers control guard r).2.2.expired } := by
  unfold callGuard
  split
  · rfl
  · split
    · rfl
    · rfl
    · dsimp only
      unfold latch
      split <;> rfl

theorem env_prepare (answers : Control → Bool) (now : ℚ) :
    Env cfg w (.prepare answers now) (w.prepare cfg answers now).2 := by
  have hcalls := Commands.prepare_engine cfg w.commands (w.callGuard answers) w.runner now
  have howner : (w.prepare cfg answers now).2.runner =
      { w.runner with expired := (w.prepare cfg answers now).2.runner.expired } := by
    refine Commands.admitGuards_owner w.commands (w.callGuard answers)
      (P := fun r => r = { w.runner with expired := r.expired }) ?_ _ _ rfl
    intro control guard r hr
    rw [callGuard_owner]
    generalize (w.callGuard answers control guard r).2.2.expired = expired
    rw [hr]
  have hboth : Engine.Calls cfg.engine (fun o => Engine.NoRequest o ∧ Engine.NoObserve o)
      w.commands.engine (w.prepare cfg answers now).2.commands.engine :=
    hcalls.mono fun _ h => ⟨h.noRequest, h.noObserve⟩
  exact ⟨hboth.mono fun _ h => h.1, (hboth.mono fun _ h => h.2).state.imp_right Or.inl, howner, rfl,
    rfl, le_rfl, Or.inl rfl⟩

/-- A call of a coroutine other than `async_tick`. -/
def Op.enters : Op → Bool
  | .asyncStart _ _ _ _ | .asyncStartBathing _ _ _ | .asyncCancel | .asyncAdjust _ | .asyncAbandon
  | .asyncManualChange _ _ => true
  | _ => false

/-- **What one step can do.** -/
inductive StepCase (cfg : RuntimeConfig) (w : System) : Op → System → Prop
  | env {op : Op} {w' : System} (h : Env cfg w op w') : StepCase cfg w op w'
  /-- Another caller requests a value. -/
  | foreign (r r' : Request) (guarded : Bool) (h : r'.caller = none ∨ r'.caller = some .other) :
      StepCase cfg w (.request r guarded) (w.request cfg r').2
  /-- A coroutine other than `async_tick` takes the lock. -/
  | entered {op : Op} {w' : System} (hop : op.enters = true) (hlock : w.lock = .free)
      (h : Entered w w') : StepCase cfg w op w'
  /-- `async_tick` saves a changed record. -/
  | ticked (session : SessionIntent) (updated : Option SessionIntent) (hlock : w.lock = .free)
      (hsession : w.runner.session = some session) (hopen : w.runner.closed = false)
      (hstorage : w.runner.storageFailed = false)
      (hrec : session.reconcile (w.tickNow session) (if w.settled then w.state else none) =
        .ok updated)
      (hne : updated ≠ some session) :
      StepCase cfg w .asyncTick { w.pause with lock := .saving updated .tick }
  /-- `async_tick` keeps the record and pursues its goal. -/
  | pursued (session : SessionIntent) (hlock : w.lock = .free)
      (hsession : w.runner.session = some session) (hopen : w.runner.closed = false)
      (hstorage : w.runner.storageFailed = false)
      (hrec : session.reconcile (w.tickNow session) (if w.settled then w.state else none) =
        .ok (some session)) :
      StepCase cfg w .asyncTick (w.pursueSession cfg session)
  | resumed (next : Option SessionIntent) (task : Task) (hlock : w.lock = .saving next task) :
      StepCase cfg w (.saved .returned) (w.resume cfg next task)
  | failed (next : Option SessionIntent) (task : Task) (outcome : SaveOutcome)
      (hlock : w.lock = .saving next task) (h : outcome ≠ .returned) :
      StepCase cfg w (.saved outcome) w.storageFails
  | released (control : Control) (desired : Value) (hlock : w.lock = .applying control desired) :
      StepCase cfg w .applied { w with lock := .free }
  | paused : StepCase cfg w .pause w.pause
  | closed : StepCase cfg w .close w.close

/-- A coroutine that cannot enter, or raises, changes nothing. -/
theorem enter_case {op : Op} (hop : op.enters = true) (body : Except RunnerError System)
    (h : ∀ w', body = .ok w' → Entered w w') : StepCase cfg w op (w.enter body).1 := by
  unfold enter
  split
  · exact .env (.refl cfg w op)
  · next hlock =>
    split
    · exact .env (.refl cfg w op)
    · next w' => exact .entered hop (not_not.mp hlock) (h w' rfl)

theorem asyncTick_case : StepCase cfg w .asyncTick (w.enter (w.asyncTick cfg)).1 := by
  unfold enter
  split
  · exact .env (.refl cfg w _)
  next hlock =>
  have hlock : w.lock = .free := not_not.mp hlock
  unfold asyncTick
  split
  · exact .env (.refl cfg w _)
  · next w' hbody =>
    split at hbody
    · cases hbody; exact .env (.refl cfg w _)
    next session hsession =>
    split at hbody
    · cases hbody; exact .env (.refl cfg w _)
    next hopen =>
    obtain ⟨hclosed, hstorage⟩ := not_or.mp hopen
    have hclosed : w.runner.closed = false := by simpa using hclosed
    have hstorage : w.runner.storageFailed = false := by simpa using hstorage
    split at hbody
    · cases hbody
    next updated hrec =>
    split at hbody
    · next hne =>
      obtain ⟨-, rfl⟩ := replace_ok hbody
      exact .ticked session updated hlock hsession hclosed hstorage hrec hne
    · next hsame =>
      obtain rfl := not_not.mp hsame
      cases hbody
      have hpursue : w.pursue cfg = w.pursueSession cfg session := by
        unfold pursue
        rw [hsession]
      rw [hpursue]
      exact .pursued session hlock hsession hclosed hstorage hrec

theorem step_case (cfg : RuntimeConfig) (w : System) (op : Op) :
    StepCase cfg w op (w.step cfg op).1 := by
  cases op with
  | clock wall time =>
    exact .env ⟨.refl _, Or.inl rfl, rfl, rfl, rfl, le_rfl, Or.inl rfl⟩
  | enable enabled =>
    exact .env ⟨.refl _, Or.inl rfl, rfl, rfl, rfl, le_rfl, Or.inr rfl⟩
  | publish snapshot =>
    simp only [step]
    unfold publish
    split
    · exact .env (.refl cfg w _)
    · next h => exact .env ⟨.refl _, Or.inl rfl, rfl, rfl, rfl, not_lt.mp h, Or.inl rfl⟩
  | update now => exact .env (env_update now)
  | prepare answers now => exact .env (env_prepare answers now)
  | sent message at_ ctsAt =>
    refine .env (env_commands ?_)
    rcases (Commands.sent_engine cfg w.commands message at_ ctsAt).1 with h | ⟨action, h⟩
    · rw [h]
      exact .refl _
    · rw [h]
      exact Engine.Calls.one (.sent action at_ ctsAt) ⟨by intro r; simp, by intro o t; simp⟩
  | received message epoch at_ =>
    refine .env (env_commands ?_)
    rw [(Commands.received_engine cfg w.commands message epoch at_).1]
    exact .refl _
  | disconnected now =>
    exact .env (env_commands (Engine.Calls.one (.suspend now)
      ⟨by intro r; simp, by intro o t; simp⟩))
  | request r guarded =>
    refine .foreign r _ guarded ?_
    cases guarded
    · exact Or.inl rfl
    · exact Or.inr rfl
  | cancel control now =>
    exact .env (env_engineOp (.cancel control now) (by intro r; simp) (by intro o t; simp))
  | joined id now =>
    exact .env (env_engineOp (.joined id now) (by intro r; simp) (by intro o t; simp))
  | waited now => exact .env (env_engineOp (.tick now) (by intro r; simp) (by intro o t; simp))
  | refreshFilters =>
    refine .env (env_commands ?_)
    rw [(Commands.refreshFilters_engine w.commands).1]
    exact .refl _
  | asyncStart endTime target maintenance unit =>
    exact enter_case rfl _ fun _ => startWith_entered
  | asyncStartBathing endTime minimumC operationId =>
    exact enter_case rfl _ fun _ => startWith_entered
  | asyncCancel => exact enter_case rfl _ fun _ => asyncCancel_entered
  | asyncAdjust seconds => exact enter_case rfl _ fun _ => asyncAdjust_entered
  | asyncAbandon => exact enter_case rfl _ fun _ => asyncAbandon_entered
  | asyncManualChange control desired =>
    exact enter_case rfl _ fun _ => asyncManualChange_entered
  | asyncTick => exact asyncTick_case
  | saved outcome =>
    simp only [step]
    unfold saved
    split
    · next record task hlock => exact .resumed record task hlock
    · next record task hlock => exact .failed record task _ hlock (by simp)
    · next record task hlock => exact .failed record task _ hlock (by simp)
    · exact .env (.refl cfg w _)
  | applied =>
    simp only [step]
    unfold applied
    split
    · next control desired hlock => exact .released control desired hlock
    · exact .env (.refl cfg w _)
  | pause => exact .paused
  | close => exact .closed

/-! ## The engine of a system -/

theorem pursueSession_engine (w : System) (session : SessionIntent) :
    Engine.Calls cfg.engine (fun _ => True) w.commands.engine
      (w.pursueSession cfg session).commands.engine := by
  have hpause : ∀ w : System, Engine.Calls cfg.engine (fun _ => True) w.commands.engine
      w.pause.commands.engine := fun w => (pause_engine cfg.engine w).mono fun _ _ => trivial
  have hcase := pursue_case cfg w session
  generalize w.pursueSession cfg session = w' at hcase
  cases hcase with
  | paused => exact hpause w
  | awaited | observed | remembered => exact .refl _
  | requested goal =>
    have hcase := submit_case cfg w (w.attemptAt session goal)
    generalize w.submit cfg (w.attemptAt session goal) = w' at hcase
    have hreq : ∀ r, Engine.Calls cfg.engine (fun _ => True) w.commands.engine
        (w.request cfg r).2.commands.engine :=
      fun r => (request_engine cfg w r).mono fun _ _ => trivial
    cases hcase with
    | rejected e w' h => exact (h ▸ hreq _).trans (hpause w')
    | accepted intent w' h =>
      have hr := hreq (goalRequest (w.attemptAt session goal))
      rw [h] at hr
      exact hr

/-- One step is a sequence of calls of the engine's interface. -/
theorem step_engine (w : System) (op : Op) :
    Engine.Calls cfg.engine (fun _ => True) w.commands.engine
      (w.step cfg op).1.commands.engine := by
  have hpause : ∀ w : System, Engine.Calls cfg.engine (fun _ => True) w.commands.engine
      w.pause.commands.engine := fun w => (pause_engine cfg.engine w).mono fun _ _ => trivial
  have hcase := step_case cfg w op
  generalize (w.step cfg op).1 = w' at hcase
  cases hcase with
  | env h => exact h.engine.mono fun _ _ => trivial
  | foreign r r' guarded => exact (request_engine cfg w r').mono fun _ _ => trivial
  | entered _ _ h =>
    cases h with
    | same => exact .refl _
    | saving => exact hpause w
    | applying => exact .refl _
  | ticked => exact hpause w
  | pursued session => exact pursueSession_engine w session
  | resumed next task =>
    cases task with
    | finish => exact .refl _
    | apply => exact .refl _
    | tick =>
      show Engine.Calls cfg.engine (fun _ => True) w.commands.engine
        ((w.stores next .free).pursue cfg).commands.engine
      unfold pursue
      split
      · exact .refl _
      · exact pursueSession_engine (w.stores next .free) _
  | failed => exact .refl _
  | released => exact .refl _
  | paused => exact hpause w
  | closed => exact hpause { w with runner := { w.runner with closed := true } }

/-- **The engine of a system is an engine**: what the steps have made of it is a run of
    `engineMachine`. -/
theorem systemAt_engine (cfg : RuntimeConfig) (start : Start) (run : List Op) (n : ℕ) :
    Engine.Calls cfg.engine (fun _ => True) {} (systemAt cfg start run n).commands.engine :=
  (machine cfg start).stateAt_invariant
    (P := fun w => Engine.Calls cfg.engine (fun _ => True) {} w.commands.engine) (.refl _)
    (fun w op h => h.trans (step_engine w op)) run n

/-- The goals of its engine are represented as in every run of the engine. -/
theorem systemAt_goals (cfg : RuntimeConfig) (start : Start) (run : List Op) (n : ℕ) :
    Engine.IntentRep (systemAt cfg start run n).commands.engine ∧
      Engine.Pending (systemAt cfg start run n).commands.engine :=
  (systemAt_engine cfg start run n).rep Engine.intentRep_init Engine.pending_init

end System

end BalboaRs485
