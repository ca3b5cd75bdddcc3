import BalboaRs485.Runtime.Expiry
import BalboaRs485.Runtime.SessionFile

/-!
# The session controller and its store

Model of `SessionController` in `custom_components/balboa_rs485/sessions.py`: what stands behind
`save` of the runner, and where its first session comes from.

`SessionController` is a `System`, its runtime and its runner, with the file of its store. `_save`
is cut at its awaits: its record may reach the file at any time from the call of `async_save` on,
also after the await has raised or was cancelled, or never, and the process may stop at any time.
What the next one loads is in the file; no write of a process lands after the next one has started.

* `step_identified`: the sessions of a runner can be stored.
* `Sound.step`: the file holds the session of the runner, or the one that was saved last.
* `session_durable`: no session is lost, in runs with any number of new starts.
-/

namespace BalboaRs485

/-! ## Model -/

/-- A runner, the store of its `SessionController`, and the session `async_save` was called with
    last. -/
structure SessionController where
  system : System
  /-- `coordinator.connection_data`. -/
  connection : Dict String Stored
  file : SessionFile
  attempt : Option (Option SessionIntent) := none
  /-- `hass.state in _STOPPING`. -/
  stopping : Bool := false

/-- What a process starts with. -/
structure ControllerStart where
  connection : Dict String Stored
  /-- The file can be accessed. -/
  readable : Bool := true
  wall : ℚ := 0
  time : ℚ := 0

/-- What happens to it. -/
inductive ControllerOp where
  /-- A step of the runner and what runs beside it, other than the end of a save. -/
  | run (op : System.Op)
  /-- The record reaches the file. -/
  | land
  | saved (result : SaveEnd)
  | stop
  /-- The process stops, and starts again; what it has not written by then is never written. -/
  | restart (s : ControllerStart)

namespace SessionController

variable (w : SessionController)

/-- `_save` up to its first await (lines 80–88), if the runner has just taken the lock to save:
    while Home Assistant is stopping it raises. -/
def save (before : Lock) : SessionController :=
  match before, w.system.lock with
  | .free, .saving next _ => { w with attempt := if w.stopping then none else some next }
  | _, _ => w

/-- The runner's side of a step. `uuid4` draws 128 bits, and `_enabled` is false while Home
    Assistant is stopping (lines 37–41). -/
def admitted : System.Op → System.Op
  | .asyncStartBathing endTime minimumC operationId =>
    .asyncStartBathing endTime minimumC (operationId % 16 ^ 32)
  | .enable enabled => .enable (enabled && !w.stopping)
  | op => op

/-- A step of the runner. -/
def run (cfg : RuntimeConfig) (op : System.Op) : SessionController :=
  ({ w with system := (w.system.step cfg (w.admitted op)).1 } : SessionController).save
    w.system.lock

/-- The record of `_save` reaches the file. -/
def land : SessionController :=
  match w.attempt with
  | none => w
  | some next => { w with file := .stored w.connection next }

/-- How `_save` ends (lines 88–92). -/
def outcome : SaveEnd → System.SaveOutcome
  | .raised => .raised
  | .cancelled => .cancelled
  | .read => if w.attempt.any fun next => w.file.shows w.connection next then .returned else .raised

/-- `__init__` and `async_load` (lines 33–78). -/
def start (file : SessionFile) (s : ControllerStart) : SessionController :=
  match if s.readable then file.load s.connection else .error .unreadable with
  | .ok session => { system := .make session s.wall s.time, connection := s.connection, file }
  | .error _ =>
    { system :=
        { System.make none s.wall s.time with
          runner :=
            { session := none, storageFailed := true, blockedReason := some .storageError } }
      connection := s.connection
      file }

/-- One step. -/
def step (cfg : RuntimeConfig) : ControllerOp → SessionController
  | .run (.saved _) => w
  | .run op => w.run cfg op
  | .land => w.land
  | .saved result => { w with system := (w.system.step cfg (.saved (w.outcome result))).1 }
  | .stop => { w with stopping := true, system := (w.system.step cfg (.enable false)).1 }
  | .restart s => start w.file s

/-- The machine of a controller that finds `file`. -/
def machine (cfg : RuntimeConfig) (file : SessionFile) (s : ControllerStart) :
    Machine SessionController ControllerOp Unit where
  init := start file s
  step w op := (w.step cfg op, ())

/-- The controller after the first `n` steps of a run. -/
def controllerAt (cfg : RuntimeConfig) (file : SessionFile) (s : ControllerStart)
    (run : List ControllerOp) (n : ℕ) : SessionController :=
  (machine cfg file s).stateAt run n

end SessionController

/-! ## What the runner saves -/

namespace RangeSession

variable {s s' : RangeSession}

theorem cancel_id (s : RangeSession) : s.cancel.operationId = s.operationId := by
  unfold cancel
  split <;> rfl

theorem adjust_id {now seconds : ℚ} (h : s.adjust now seconds = .ok s') :
    s'.operationId = s.operationId := by
  unfold adjust at h
  split at h
  · cases h
  split at h
  · cases h
  split at h
  · cases h
  next updated hupdated =>
  cases h
  have hid : updated.operationId = s.operationId := by rw [make_ok hupdated]
  split
  · exact updated.cancel_id.trans hid
  · exact hid

theorem reconcile_id {now : ℚ} {o : Option SpaState} (h : s.reconcile now o = .ok (some s')) :
    s'.operationId = s.operationId := by
  have hcurrent : (s.current now).operationId = s.operationId := by
    unfold current
    split
    · exact s.cancel_id
    · rfl
  obtain hkept | ⟨state, -, -, -, -, hadvance⟩ := s.reconcile_case now o
  · rw [hkept] at h
    cases h
    exact hcurrent
  · cases advance_case (hadvance ▸ h) with
    | kept => exact hcurrent
    | captured _ _ _ _ hr | targetSet _ _ hr | enabled _ _ hr | heated _ _ hr
    | highRestored _ _ hr | rangeRestored _ _ _ hr =>
      rw [hr]
      exact hcurrent

end RangeSession

namespace SessionIntent

variable {s s' : SessionIntent}

theorem Identified.cancel (h : s.Identified) : s.cancel.Identified := by
  cases s with
  | session s => trivial
  | range s => exact (RangeSession.cancel_id s).trans_lt h

theorem Identified.adjust (h : s.Identified) {now seconds : ℚ}
    (hadjust : s.adjust now seconds = .ok s') : s'.Identified := by
  cases s with
  | session s =>
    obtain ⟨t, -, rfl⟩ := map_eq_ok_iff.mp hadjust
    trivial
  | range s =>
    obtain ⟨t, ht, rfl⟩ := map_eq_ok_iff.mp hadjust
    exact (RangeSession.adjust_id ht).trans_lt h

theorem Identified.reconcile (h : s.Identified) {now : ℚ} {o : Option SpaState}
    (hreconcile : s.reconcile now o = .ok (some s')) : s'.Identified := by
  cases s with
  | session s =>
    obtain ⟨t, -, rfl⟩ := Option.map_eq_some_iff.mp (Except.ok.inj hreconcile)
    trivial
  | range s =>
    obtain ⟨next, hnext, hmap⟩ := map_eq_ok_iff.mp hreconcile
    obtain ⟨t, rfl, rfl⟩ := Option.map_eq_some_iff.mp hmap
    exact (RangeSession.reconcile_id hnext).trans_lt h

end SessionIntent

namespace System

variable {cfg : RuntimeConfig} {w : System}

/-- What a coroutine other than `async_tick` saves first. -/
inductive Saves (w : System) : Op → Option SessionIntent → Prop where
  | started {endTime target maintenance : ℚ} {unit : TemperatureUnit} (s : Session) :
      Saves w (.asyncStart endTime target maintenance unit) (some (.session s))
  | bathing {endTime minimumC : ℚ} {operationId : ℕ} {s : RangeSession}
      (h : RangeSession.start w.wall endTime minimumC operationId w.state = .ok s) :
      Saves w (.asyncStartBathing endTime minimumC operationId) (some (.range s))
  | cancelled {s : SessionIntent} (h : w.runner.session = some s) :
      Saves w .asyncCancel (some s.cancel)
  | adjusted {s s' : SessionIntent} {seconds : ℚ} (h : w.runner.session = some s)
      (hadjust : s.adjust w.wall seconds = .ok s') : Saves w (.asyncAdjust seconds) (some s')
  | released {s : RangeSession} {control : Control} {desired : Value}
      (h : w.runner.session = some (.range s)) :
      Saves w (.asyncManualChange control desired) (some (.range s.releaseTarget))
  | forgotten (op : Op) : Saves w op none

theorem startWith_saves {session : Except SessionError SessionIntent} {w' : System}
    (h : w.startWith session = .ok w') {next : Option SessionIntent} {task : Task}
    (hlock : w'.lock = .saving next task) : ∃ s, session = .ok s ∧ next = some s := by
  unfold startWith at h
  split at h
  · cases h
  split at h
  · cases h
  split at h
  · cases h
  split at h
  · cases h
  obtain ⟨-, rfl⟩ := replace_ok h
  cases hlock
  exact ⟨_, rfl, rfl⟩

theorem replace_saves {next next' : Option SessionIntent} {task task' : Task} {w' : System}
    (h : w.replace next task = .ok w') (hlock : w'.lock = .saving next' task') : next' = next := by
  obtain ⟨-, rfl⟩ := replace_ok h
  cases hlock
  rfl

theorem asyncManualChange_saves {control : Control} {desired : Value} {w' : System}
    (h : w.asyncManualChange control desired = .ok w') {next : Option SessionIntent} {task : Task}
    (hlock : w'.lock = .saving next task) : Saves w (.asyncManualChange control desired) next := by
  unfold asyncManualChange at h
  split at h
  · cases h
  split at h
  · cases h
  split at h
  · cases h
  split at h
  · cases h
  split at h
  · cases h
  · cases h
    cases hlock
  next session _ hsession =>
  unfold changeDuring at h
  split at h
  · split at h
    · cases h
      cases hlock
    · cases h
  · split at h
    · split at h
      · cases h
      · rw [replace_saves h hlock]
        exact .released hsession
    · rw [replace_saves h hlock]
      exact .forgotten _

/-- **What a coroutine saves**, if it takes the lock to save. -/
theorem entered_saves {op : Op} (hop : op.enters = true) (hfree : w.lock = .free)
    {next : Option SessionIntent} {task : Task}
    (hlock : (w.step cfg op).1.lock = .saving next task) :
    Saves w op next := by
  have henter : ∀ body : Except RunnerError System, (w.enter body).1.lock = .saving next task →
      ∃ w', body = .ok w' ∧ w'.lock = .saving next task := by
    intro body hl
    unfold enter at hl
    rw [if_neg (not_not.mpr hfree)] at hl
    cases body with
    | error e =>
      rw [show w.lock = _ from hl] at hfree
      cases hfree
    | ok w' => exact ⟨w', rfl, hl⟩
  cases op with
  | asyncStart endTime target maintenance unit =>
    obtain ⟨w', hbody, hl⟩ := henter _ hlock
    obtain ⟨s, hs, rfl⟩ := startWith_saves hbody hl
    obtain ⟨t, -, rfl⟩ := map_eq_ok_iff.mp hs
    exact .started t
  | asyncStartBathing endTime minimumC operationId =>
    obtain ⟨w', hbody, hl⟩ := henter _ hlock
    obtain ⟨s, hs, rfl⟩ := startWith_saves hbody hl
    obtain ⟨t, ht, rfl⟩ := map_eq_ok_iff.mp hs
    exact .bathing ht
  | asyncCancel =>
    obtain ⟨w', hbody, hl⟩ := henter _ hlock
    unfold asyncCancel at hbody
    split at hbody
    · cases hbody
    · cases hbody
    next s _ hsession =>
    rw [replace_saves hbody hl]
    exact .cancelled hsession
  | asyncAdjust seconds =>
    obtain ⟨w', hbody, hl⟩ := henter _ hlock
    unfold asyncAdjust at hbody
    split at hbody
    · cases hbody
    · cases hbody
    next s _ hsession =>
    split at hbody
    · cases hbody
    split at hbody
    · cases hbody
    next adjusted hadjust =>
    rw [replace_saves hbody hl]
    exact .adjusted hsession hadjust
  | asyncAbandon =>
    obtain ⟨w', hbody, hl⟩ := henter _ hlock
    unfold asyncAbandon at hbody
    split at hbody
    · cases hbody
    · cases hbody
      rw [hl] at hfree
      cases hfree
    · rw [replace_saves hbody hl]
      exact .forgotten _
  | asyncManualChange control desired =>
    obtain ⟨w', hbody, hl⟩ := henter _ hlock
    exact asyncManualChange_saves hbody hl
  | _ => cases hop

/-- The session, and the one that is being saved, can be stored. -/
structure Identified (w : System) : Prop where
  session : ∀ s ∈ w.runner.session, s.Identified
  saving : ∀ next task, w.lock = .saving next task → ∀ s ∈ next, s.Identified

/-- The identifier of a new bathing session has 128 bits. -/
def Op.Drawn : Op → Prop
  | .asyncStartBathing _ _ operationId => operationId < 16 ^ 32
  | _ => True

theorem Saves.identified {op : Op} {next : Option SessionIntent} (h : Saves w op next)
    (hw : Identified w) (hop : op.Drawn) : ∀ s ∈ next, s.Identified := by
  rintro s rfl
  cases h with
  | started s => trivial
  | @bathing endTime minimumC operationId s h =>
    have hid : s.operationId = operationId := by
      cases hstate : w.state with
      | none =>
        rw [hstate] at h
        cases h
      | some state =>
        rw [hstate] at h
        obtain ⟨target, -, -, -, hrecord⟩ := RangeSession.start_ok h
        rw [hrecord]
        rfl
    exact hid.trans_lt hop
  | cancelled h => exact (hw.session _ h).cancel
  | adjusted h hadjust => exact (hw.session _ h).adjust hadjust
  | @released s _ _ h =>
    have hs : (SessionIntent.range s).Identified := hw.session _ h
    exact hs

/-- **Every session of the runner can be stored.** -/
theorem step_identified (h : Identified w) {op : Op} (hop : op.Drawn) :
    Identified (w.step cfg op).1 := by
  have hsession := (step_requests cfg w op).1
  have hcase := step_case cfg w op
  have hsaves : op.enters = true → w.lock = .free → ∀ next task,
      (w.step cfg op).1.lock = .saving next task → Saves w op next :=
    fun henters hfree _ _ => entered_saves henters hfree
  generalize (w.step cfg op).1 = w' at hcase hsession hsaves
  have hwritten : ∀ s ∈ w'.runner.session, s.Identified := by
    rw [hsession]
    unfold written
    split
    · next next task hlock => exact h.saving next task hlock
    · exact h.session
  refine ⟨hwritten, ?_⟩
  cases hcase with
  | env he => exact fun next task hl => h.saving next task (he.lock ▸ hl)
  | foreign r r' => exact fun next task hl => h.saving next task ((request_rest cfg w r').lock ▸ hl)
  | entered henters hlock hent =>
    exact fun next task hl => (hsaves henters hlock next task hl).identified h hop
  | ticked session updated hlock hs hopen hstorage hrec =>
    rintro next task hl s rfl
    cases hl
    exact (h.session session hs).reconcile hrec
  | pursued session hlock =>
    intro next task hl
    rw [(pursueSession_spec cfg w session).2.2.1, hlock] at hl
    cases hl
  | resumed next task hlock =>
    exact fun next' task' hl => absurd hl ((resume_spec cfg w next task).2 next' task')
  | failed => exact fun _ _ hl => by cases hl
  | released => exact fun _ _ hl => by cases hl
  | paused => exact fun next task hl => h.saving next task (pause_lock w ▸ hl)
  | closed =>
    intro next task hl
    unfold close at hl
    rw [pause_lock] at hl
    exact h.saving next task hl

/-! ## Steps and the storage -/

theorem pursueSession_failed (cfg : RuntimeConfig) (w : System) (session : SessionIntent) :
    (w.pursueSession cfg session).runner.storageFailed = w.runner.storageFailed := by
  have hcase := pursue_case cfg w session
  generalize w.pursueSession cfg session = w' at hcase
  cases hcase with
  | paused reason => simp [block]
  | awaited | observed | remembered => rfl
  | requested goal =>
    have hsubmit := submit_case cfg w (w.attemptAt session goal)
    generalize w.submit cfg (w.attemptAt session goal) = w' at hsubmit
    have hrest := request_rest cfg w (goalRequest (w.attemptAt session goal))
    cases hsubmit with
    | rejected e w' h =>
      rw [h] at hrest
      have hfailed : w'.runner.storageFailed = w.runner.storageFailed :=
        congrArg Runner.storageFailed hrest.runner
      simpa [block] using hfailed
    | accepted intent w' h =>
      rw [h] at hrest
      have hfailed : w'.runner.storageFailed = w.runner.storageFailed :=
        congrArg Runner.storageFailed hrest.runner
      exact hfailed

/-- A step that ends no save keeps the session; it may begin one. -/
inductive StorageCase (w w' : System) : Prop where
  | kept (session : w'.runner.session = w.runner.session)
      (failed : w'.runner.storageFailed = w.runner.storageFailed)
      (lock : ∀ next task, w'.lock = .saving next task ↔ w.lock = .saving next task)
  | begun (next : Option SessionIntent) (task : Task) (free : w.lock = .free)
      (lock : w'.lock = .saving next task) (session : w'.runner.session = w.runner.session)
      (failed : w.runner.storageFailed = false) (failed' : w'.runner.storageFailed = false)

theorem step_storage (cfg : RuntimeConfig) {op : Op} (hop : ∀ outcome, op ≠ .saved outcome) :
    StorageCase w (w.step cfg op).1 := by
  have hcase := step_case cfg w op
  generalize (w.step cfg op).1 = w' at hcase
  cases hcase with
  | env he =>
    refine .kept ?_ ?_ fun next task => by rw [he.lock]
    · rw [he.runner]
    · rw [he.runner]
  | foreign r r' =>
    have hrest := request_rest cfg w r'
    exact .kept (by rw [hrest.runner]) (by rw [hrest.runner]) fun next task => by rw [hrest.lock]
  | entered henters hlock hent =>
    cases hent with
    | same => exact .kept rfl rfl fun _ _ => Iff.rfl
    | saving next task hw =>
      have hfailed := (writable_ok hw).2
      exact .begun next task hlock rfl (by simp) hfailed (by simpa using hfailed)
    | applying => exact .kept rfl rfl fun _ _ => by simp [hlock]
  | ticked session updated hlock _ _ hstorage =>
    exact .begun updated .tick hlock rfl (by simp) hstorage (by simpa using hstorage)
  | pursued session hlock =>
    obtain ⟨-, hsession, hl, -⟩ := pursueSession_spec cfg w session
    exact .kept hsession (pursueSession_failed cfg w session) fun next task => by rw [hl]
  | resumed => exact absurd rfl (hop _)
  | failed => exact absurd rfl (hop _)
  | released control desired hlock => exact .kept rfl rfl fun _ _ => by simp [hlock]
  | paused => exact .kept (by simp) (by simp) fun next task => by rw [pause_lock]
  | closed =>
    refine .kept (by simp [close]) (by simp [close]) fun next task => ?_
    unfold close
    rw [pause_lock]

/-- What remains of a save that has returned. -/
theorem resume_failed (cfg : RuntimeConfig) (w : System) (next : Option SessionIntent)
    (task : Task) : (w.resume cfg next task).runner.storageFailed = w.runner.storageFailed := by
  have hstores : ∀ lock, (w.stores next lock).runner.storageFailed = w.runner.storageFailed := by
    intro lock
    unfold stores
    dsimp only
    split <;> rfl
  cases task with
  | finish => exact hstores .free
  | apply control desired => exact hstores (.applying control desired)
  | tick =>
    show ((w.stores next .free).pursue cfg).runner.storageFailed = _
    unfold pursue
    split
    · exact hstores .free
    · exact (pursueSession_failed cfg _ _).trans (hstores .free)

/-- A step that requests a goal leaves the runner with its storage intact and nothing to save. -/
theorem step_requested (cfg : RuntimeConfig) (hdead : w.runner.storageFailed = true → Dead w)
    (op : Op) :
    (w.step cfg op).1.requests = w.requests ∨
      (w.step cfg op).1.runner.storageFailed = false ∧
        ∀ next task, (w.step cfg op).1.lock ≠ .saving next task := by
  have hcase := step_case cfg w op
  generalize (w.step cfg op).1 = w' at hcase
  cases hcase with
  | env he => exact Or.inl he.requests
  | foreign r r' => exact Or.inl (request_rest cfg w r').requests
  | entered henters hlock hent =>
    left
    cases hent with
    | same => rfl
    | saving => exact pause_requests w
    | applying => rfl
  | ticked => exact Or.inl (pause_requests w)
  | pursued session hlock _ _ hstorage =>
    obtain ⟨-, -, hl, -⟩ := pursueSession_spec cfg w session
    refine Or.inr ⟨(pursueSession_failed cfg w session).trans hstorage, fun next task hs => ?_⟩
    rw [hl, hlock] at hs
    cases hs
  | resumed next task hlock =>
    have hstorage : w.runner.storageFailed = false := by
      by_contra hfailed
      exact (hdead (by simpa using hfailed)).lock next task hlock
    exact Or.inr ⟨(resume_failed cfg w next task).trans hstorage, (resume_spec cfg w next task).2⟩
  | failed => exact Or.inl rfl
  | released => exact Or.inl rfl
  | paused => exact Or.inl (pause_requests w)
  | closed => exact Or.inl (pause_requests _)

end System

namespace SessionController

variable {cfg : RuntimeConfig} {w : SessionController}

/-! ## What the file holds -/

/-- The session of the file. -/
def loaded (w : SessionController) : Except LoadError (Option SessionIntent) :=
  w.file.load w.connection

/-- The session could not be loaded, and nothing was saved since. -/
structure Refused (w : SessionController) : Prop where
  failed : w.system.runner.storageFailed = true
  session : w.system.runner.session = none
  attempt : w.attempt = none

/-- The file holds the session of the runner, or the one that was saved last. -/
structure Durable (w : SessionController) : Prop where
  file : ∃ session, w.loaded = .ok session ∧
    (session = w.system.runner.session ∨ w.attempt = some session)
  attempt : ∀ next ∈ w.attempt, ∀ s ∈ next, s.Identified
  saving : ∀ next task, w.system.lock = .saving next task →
    w.system.runner.storageFailed = false ∧ ∀ next' ∈ w.attempt, next' = next
  settled : w.system.runner.storageFailed = false →
    (∀ next task, w.system.lock ≠ .saving next task) →
      w.loaded = .ok w.system.runner.session ∧ ∀ next ∈ w.attempt, next = w.system.runner.session

/-- The invariant of a session controller. -/
structure Sound (w : SessionController) : Prop where
  owns : System.Owns w.system
  identified : System.Identified w.system
  dead : w.system.runner.storageFailed = true → System.Dead w.system
  stored : w.Refused ∨ w.Durable

/-! ## Steps -/

theorem Sound.systemStep (h : Sound w) (cfg : RuntimeConfig) {op : System.Op} (hop : op.Drawn) :
    System.Owns (w.system.step cfg op).1 ∧ System.Identified (w.system.step cfg op).1 :=
  ⟨System.step_owns h.owns op, System.step_identified h.identified hop⟩

theorem admitted_drawn (w : SessionController) (op : System.Op) : (w.admitted op).Drawn := by
  cases op with
  | asyncStartBathing endTime minimumC operationId => exact Nat.mod_lt _ (by norm_num)
  | _ => trivial

/-- A runner that has not begun to save. -/
theorem Durable.kept (h : w.Durable) {s : System}
    (hsession : s.runner.session = w.system.runner.session)
    (hfailed : s.runner.storageFailed = w.system.runner.storageFailed)
    (hlock : ∀ next task, s.lock = .saving next task ↔ w.system.lock = .saving next task) :
    Durable { w with system := s } where
  file := by
    obtain ⟨session, hload, hsaved⟩ := h.file
    exact ⟨session, hload, by rwa [hsession]⟩
  attempt := h.attempt
  saving next task hl := by
    rw [hfailed]
    exact h.saving next task ((hlock next task).mp hl)
  settled hok hl := by
    rw [hsession]
    rw [hfailed] at hok
    exact h.settled hok fun next task hw => hl next task ((hlock next task).mpr hw)

/-- A runner that has begun to save. -/
theorem Durable.begun (h : w.Durable) {s : System} {next : Option SessionIntent} {task : Task}
    (hfree : w.system.lock = .free) (hlock : s.lock = .saving next task)
    (hsession : s.runner.session = w.system.runner.session)
    (hfailed : w.system.runner.storageFailed = false) (hfailed' : s.runner.storageFailed = false)
    (hnext : ∀ s ∈ next, s.Identified) {attempt : Option (Option SessionIntent)}
    (hattempt : ∀ next' ∈ attempt, next' = next) :
    Durable { w with system := s, attempt } where
  file := by
    obtain ⟨hload, -⟩ := h.settled hfailed fun next task hl => by rw [hfree] at hl; cases hl
    exact ⟨_, hload, Or.inl hsession.symm⟩
  attempt next' h' := by
    rw [hattempt next' h']
    exact hnext
  saving next' task' hl := by
    rw [hlock] at hl
    cases hl
    exact ⟨hfailed', hattempt⟩
  settled _ hl := absurd hlock (hl next task)

/-- A runner that has not begun to save has no new record. -/
theorem save_kept {s : System}
    (hlock : ∀ next task, s.lock = .saving next task ↔ w.system.lock = .saving next task) :
    ({ w with system := s } : SessionController).save w.system.lock = { w with system := s } := by
  unfold save
  split
  · next next task hfree hsaving =>
    rw [(hlock next task).mp hsaving] at hfree
    cases hfree
  · rfl

theorem admitted_not_saved (w : SessionController) {op : System.Op}
    (hop : ∀ outcome, op ≠ .saved outcome) : ∀ outcome, w.admitted op ≠ .saved outcome := by
  unfold admitted
  split
  · simp
  · simp
  · exact hop

/-- A step of the runner that ends no save. -/
theorem Sound.run (h : Sound w) {op : System.Op} (hop : ∀ outcome, op ≠ .saved outcome) :
    Sound (w.run cfg op) := by
  have hadmitted := w.admitted_not_saved hop
  obtain ⟨howns, hidentified⟩ := h.systemStep cfg (w.admitted_drawn op)
  have hcase : System.StorageCase w.system (w.system.step cfg (w.admitted op)).1 :=
    System.step_storage cfg hadmitted
  have hdead := fun h : System.Dead w.system => System.step_dead cfg h (w.admitted op)
  unfold SessionController.run
  generalize (w.system.step cfg (w.admitted op)).1 = s at *
  cases hcase with
  | kept hsession hfailed hlock =>
    rw [save_kept hlock]
    refine ⟨howns, hidentified, fun hs => (hdead (h.dead (hfailed ▸ hs))).1, ?_⟩
    obtain hrefused | hdurable := h.stored
    · exact Or.inl
        ⟨hfailed.trans hrefused.failed, hsession.trans hrefused.session, hrefused.attempt⟩
    · exact Or.inr (hdurable.kept hsession hfailed hlock)
  | begun next task hfree hlock hsession hfailed hfailed' =>
    have hsave : ({ w with system := s } : SessionController).save w.system.lock =
        { w with system := s, attempt := if w.stopping then none else some next } := by
      unfold save
      simp only [hfree, hlock]
    rw [hsave]
    refine ⟨howns, hidentified, fun hs => ?_, ?_⟩
    · rw [hfailed'] at hs
      cases hs
    · obtain hrefused | hdurable := h.stored
      · rw [hrefused.failed] at hfailed
        cases hfailed
      · refine Or.inr (hdurable.begun hfree hlock hsession hfailed hfailed'
          (hidentified.saving next task hlock) ?_)
        intro next' hnext'
        split at hnext'
        · cases hnext'
        · exact (Option.some.inj hnext').symm

/-- A save that has returned was read back. -/
theorem outcome_returned {result : SaveEnd} (h : w.outcome result = .returned) :
    ∃ next, w.attempt = some next ∧ w.file.shows w.connection next = true := by
  unfold outcome at h
  split at h
  · cases h
  · cases h
  · split at h
    · next hread =>
      cases hattempt : w.attempt with
      | none =>
        rw [hattempt] at hread
        cases hread
      | some next =>
        rw [hattempt] at hread
        exact ⟨next, rfl, hread⟩
    · cases h

/-- Where nothing is being saved, no save ends. -/
theorem saved_idle (h : ¬ ∃ next task, w.system.lock = .saving next task)
    (outcome : System.SaveOutcome) : (w.system.step cfg (.saved outcome)).1 = w.system := by
  simp only [System.step]
  unfold System.saved
  split
  · next next task hl => exact absurd ⟨next, task, hl⟩ h
  · next next task hl => exact absurd ⟨next, task, hl⟩ h
  · next next task hl => exact absurd ⟨next, task, hl⟩ h
  · rfl

/-- **The end of a save**: the session is the one that was read back, or the runner has failed
    and the file holds either. -/
theorem Sound.saved (h : Sound w) (result : SaveEnd) : Sound (w.step cfg (.saved result)) := by
  have hdrawn : System.Op.Drawn (.saved (w.outcome result)) := trivial
  obtain ⟨howns, hidentified⟩ := h.systemStep cfg hdrawn
  show Sound { w with system := (w.system.step cfg (.saved (w.outcome result))).1 }
  by_cases hsaving : ∃ next task, w.system.lock = .saving next task
  · obtain ⟨next, task, hlock⟩ := hsaving
    have hdurable : w.Durable := by
      obtain hrefused | hdurable := h.stored
      · exact absurd hlock ((h.dead hrefused.failed).lock next task)
      · exact hdurable
    obtain ⟨hfailed, hnext⟩ := hdurable.saving next task hlock
    obtain ⟨session, hload, hsession⟩ := hdurable.file
    by_cases hreturned : w.outcome result = .returned
    · obtain ⟨next', hattempt, hshows⟩ := outcome_returned hreturned
      obtain rfl := hnext next' hattempt
      have hstep : (w.system.step cfg (.saved (w.outcome result))).1 =
          w.system.resume cfg next' task := by
        simp only [System.step, System.saved, hreturned, hlock]
      rw [hstep] at howns hidentified ⊢
      obtain ⟨hnew, hfree⟩ := System.resume_spec cfg w.system next' task
      have hok := (System.resume_failed cfg w.system next' task).trans hfailed
      have hread := SessionFile.load_of_shows hload hshows (hdurable.attempt next' hattempt)
      have hcurrent : w.loaded = .ok (w.system.resume cfg next' task).runner.session := by
        rw [hnew, ← hread]
        exact hload
      refine ⟨howns, hidentified, fun hs => ?_, Or.inr ?_⟩
      · rw [show _ = false from hok] at hs
        cases hs
      · refine ⟨⟨_, hcurrent, Or.inl rfl⟩, hdurable.attempt, fun next task hl => ?_, fun _ _ => ?_⟩
        · exact absurd hl (hfree next task)
        · exact ⟨hcurrent, fun next hn => (hnext next hn).trans hnew.symm⟩
    · have hstep : (w.system.step cfg (.saved (w.outcome result))).1 = w.system.storageFails := by
        cases houtcome : w.outcome result with
        | returned => exact absurd houtcome hreturned
        | raised => simp only [System.step, System.saved, hlock]
        | cancelled => simp only [System.step, System.saved, hlock]
      rw [hstep] at howns hidentified ⊢
      have hdead : System.Dead w.system.storageFails :=
        ⟨rfl, h.owns.saving next task hlock, by simp [System.storageFails]⟩
      refine ⟨howns, hidentified, fun _ => hdead, Or.inr ?_⟩
      refine ⟨⟨session, hload, hsession⟩, hdurable.attempt, fun next task hl => ?_, fun hs _ => ?_⟩
      · exact absurd hl (hdead.lock next task)
      · cases hs
  · rw [saved_idle hsaving]
    exact h

theorem Sound.stopped (h : Sound w) : Sound { w with stopping := true } :=
  ⟨h.owns, h.identified, h.dead,
    h.stored.imp (fun hr => ⟨hr.failed, hr.session, hr.attempt⟩)
      fun hd => ⟨hd.file, hd.attempt, hd.saving, hd.settled⟩⟩

/-- The record of a save reaches the file. -/
theorem Sound.land (h : Sound w) : Sound w.land := by
  unfold SessionController.land
  split
  · exact h
  · next next hattempt =>
    obtain hrefused | hdurable := h.stored
    · rw [hrefused.attempt] at hattempt
      cases hattempt
    have hload : (SessionFile.stored w.connection next).load w.connection = .ok next :=
      SessionFile.load_stored (hdurable.attempt next hattempt)
    refine ⟨h.owns, h.identified, h.dead, Or.inr ?_⟩
    refine ⟨⟨next, hload, Or.inr hattempt⟩, hdurable.attempt, hdurable.saving, fun hok hl => ?_⟩
    obtain ⟨-, hlast⟩ := hdurable.settled hok hl
    exact ⟨hlast next hattempt ▸ hload, hlast⟩

theorem owns_make {s : System} (hengine : s.commands.engine = {}) (hrequests : s.requests = [])
    (hintent : s.runner.intent = none) : System.Owns s := by
  have hnone : ∀ q, q ∉ s.requests := by simp [hrequests]
  refine System.Knows.owns ⟨?_, ?_, ?_, ?_, ?_⟩ ?_ ?_
  · exact hengine ▸ Engine.intentRep_init
  · exact hengine ▸ Engine.pending_init
  · exact fun q hq => absurd hq (hnone q)
  · exact fun q hq => absurd hq (hnone q)
  · exact fun q hq => absurd hq (hnone q)
  · exact fun q id item hheld => hnone q hheld.mem
  · exact fun _ _ _ => hintent

/-- A new start is sound, whatever the file holds. -/
theorem sound_start (file : SessionFile) (s : ControllerStart) : Sound (start file s) := by
  unfold start
  split
  · next session hload =>
    have hfile : file.load s.connection = .ok session := by
      split at hload
      · exact hload
      · cases hload
    have hfree : ∀ next task, (System.make session s.wall s.time).lock ≠ .saving next task := by
      simp [System.make]
    refine ⟨owns_make rfl rfl rfl, ⟨SessionFile.load_identified hfile, ?_⟩, ?_, Or.inr ?_⟩
    · exact fun next task hl => absurd hl (hfree next task)
    · exact fun hs => by cases hs
    · exact
        { file := ⟨session, hfile, Or.inl rfl⟩
          attempt := fun next hn => by cases hn
          saving := fun next task hl => absurd hl (hfree next task)
          settled := fun _ _ => ⟨hfile, fun next hn => by cases hn⟩ }
  · refine ⟨owns_make rfl rfl rfl, ⟨?_, ?_⟩, fun _ => ⟨rfl, rfl, ?_⟩, Or.inl ⟨rfl, rfl, rfl⟩⟩
    · exact fun s hs => by cases hs
    · exact fun next task hl => by cases hl
    · exact fun next task hl => by cases hl

/-- To be disabled is to save nothing. -/
theorem run_enable (cfg : RuntimeConfig) (w : SessionController) :
    w.run cfg (.enable false) = { w with system := (w.system.step cfg (.enable false)).1 } := by
  unfold SessionController.run save
  split
  · next next task hfree hsaving =>
    rw [show w.system.lock = _ from hsaving] at hfree
    cases hfree
  · rfl

/-- **One step** keeps the invariant. -/
theorem Sound.step (h : Sound w) (op : ControllerOp) : Sound (w.step cfg op) := by
  cases op with
  | run op =>
    by_cases hop : ∃ outcome, op = .saved outcome
    · obtain ⟨outcome, rfl⟩ := hop
      exact h
    · have hstep : w.step cfg (.run op) = w.run cfg op := by
        cases op with
        | saved outcome => exact absurd ⟨outcome, rfl⟩ hop
        | _ => rfl
      rw [hstep]
      exact h.run fun outcome ho => hop ⟨outcome, ho⟩
  | land => exact h.land
  | saved result => exact h.saved result
  | stop =>
    have hrun : Sound (w.run cfg (.enable false)) := h.run nofun
    rw [run_enable] at hrun
    exact hrun.stopped
  | restart s => exact sound_start w.file s

theorem Sound.requested_of (h : Sound w) {w' : SessionController} (h' : Sound w')
    {op : System.Op} (hsystem : w'.system = (w.system.step cfg op).1) :
    ∀ q ∈ w'.system.requests.drop w.system.requests.length, w'.loaded = .ok (some q.record) := by
  intro q hq
  obtain ⟨-, new, hrequests, hnew⟩ := System.step_requests cfg w.system op
  obtain hsame | ⟨hok, hl⟩ := System.step_requested cfg h.dead op
  · rw [hsystem, hsame, List.drop_length] at hq
    cases hq
  · rw [hsystem, hrequests, List.drop_left] at hq
    obtain ⟨hsession, -⟩ := hnew q hq
    rw [← hsystem] at hok hl hsession
    obtain hrefused | hdurable := h'.stored
    · rw [hrefused.failed] at hok
      cases hok
    · exact hsession ▸ (hdurable.settled hok hl).1

theorem run_system (cfg : RuntimeConfig) (w : SessionController) (op : System.Op) :
    (w.run cfg op).system = (w.system.step cfg (w.admitted op)).1 ∧
      (w.run cfg op).file = w.file := by
  unfold run save
  split <;> exact ⟨rfl, rfl⟩

/-- **What a step requests is on the disk.** -/
theorem Sound.requested (h : Sound w) (op : ControllerOp) :
    ∀ q ∈ (w.step cfg op).system.requests.drop w.system.requests.length,
      (w.step cfg op).loaded = .ok (some q.record) := by
  have hsound : Sound (w.step cfg op) := h.step op
  have hsame : (w.step cfg op).system = w.system →
      ∀ q ∈ (w.step cfg op).system.requests.drop w.system.requests.length,
        (w.step cfg op).loaded = .ok (some q.record) := by
    intro hs q hq
    rw [hs, List.drop_length] at hq
    cases hq
  cases op with
  | run op =>
    cases op with
    | saved outcome => exact hsame rfl
    | _ => exact h.requested_of hsound (run_system cfg w _).1
  | land =>
    refine hsame ?_
    show w.land.system = w.system
    unfold SessionController.land
    split <;> rfl
  | saved result => exact h.requested_of hsound rfl
  | stop => exact h.requested_of hsound rfl
  | restart s =>
    intro q hq
    have hempty : (start w.file s).system.requests = [] := by
      unfold start
      split <;> rfl
    rw [show (w.step cfg (.restart s)).system.requests = [] from hempty, List.drop_nil] at hq
    cases hq

/-- A store that could not be loaded is not written. -/
theorem Refused.file (h : w.Refused) (op : ControllerOp) : (w.step cfg op).file = w.file := by
  cases op with
  | run op =>
    cases op with
    | saved outcome => rfl
    | _ => exact (run_system cfg w _).2
  | land =>
    show w.land.file = w.file
    unfold SessionController.land
    rw [h.attempt]
  | saved result => rfl
  | stop => rfl
  | restart s =>
    show (start w.file s).file = w.file
    unfold start
    split <;> rfl

/-- What a start that fails to load leaves. -/
theorem refused_start {file : SessionFile} {s : ControllerStart}
    (h : (start file s).system.runner.storageFailed = true) : (start file s).Refused := by
  unfold start at h ⊢
  split at h
  · cases h
  · exact ⟨rfl, rfl, rfl⟩

theorem Refused.run (h : w.Refused) {op : System.Op} (hop : ∀ outcome, op ≠ .saved outcome) :
    (w.run cfg op).Refused := by
  have hcase : System.StorageCase w.system (w.system.step cfg (w.admitted op)).1 :=
    System.step_storage cfg (w.admitted_not_saved hop)
  unfold SessionController.run
  generalize (w.system.step cfg (w.admitted op)).1 = s at hcase
  cases hcase with
  | kept hsession hfailed hlock =>
    rw [save_kept hlock]
    exact ⟨hfailed.trans h.failed, hsession.trans h.session, h.attempt⟩
  | begun _ _ _ _ _ hfailed => exact absurd (hfailed.symm.trans h.failed) (by decide)

/-- Nor is it loaded later, before the next start. -/
theorem Refused.step (h : w.Refused) (hsound : Sound w) {op : ControllerOp}
    (hop : ∀ s, op ≠ .restart s) : (w.step cfg op).Refused := by
  cases op with
  | run op =>
    cases op with
    | saved outcome => exact h
    | _ => exact h.run nofun
  | land =>
    show w.land.Refused
    unfold SessionController.land
    rw [h.attempt]
    exact h
  | saved result =>
    have hidle : ¬ ∃ next task, w.system.lock = .saving next task := fun ⟨next, task, hlock⟩ =>
      (hsound.dead h.failed).lock next task hlock
    show Refused { w with system := (w.system.step cfg (.saved (w.outcome result))).1 }
    rw [saved_idle hidle]
    exact h
  | stop =>
    have hrun : (w.run cfg (.enable false)).Refused := h.run nofun
    rw [run_enable] at hrun
    exact ⟨hrun.failed, hrun.session, hrun.attempt⟩
  | restart s => exact absurd rfl (hop s)

/-- The file holds the session of the runner, and while a save is in progress that one or the
    one that is being saved. -/
structure Restorable (w : SessionController) : Prop where
  settled : w.system.runner.storageFailed = false →
    (∀ next task, w.system.lock ≠ .saving next task) → w.loaded = .ok w.system.runner.session
  saving : ∀ next task, w.system.lock = .saving next task →
    w.loaded = .ok w.system.runner.session ∨ w.loaded = .ok next

theorem Sound.restorable (h : Sound w) : w.Restorable where
  settled hok hl := by
    obtain hrefused | hdurable := h.stored
    · rw [hrefused.failed] at hok
      cases hok
    · exact (hdurable.settled hok hl).1
  saving next task hl := by
    obtain hrefused | hdurable := h.stored
    · exact absurd hl ((h.dead hrefused.failed).lock next task)
    · obtain ⟨session, hload, rfl | hattempt⟩ := hdurable.file
      · exact Or.inl hload
      · rw [(hdurable.saving next task hl).2 session hattempt] at hload
        exact Or.inr hload

/-- `w'` runs from the session that `w` had, or the one that it saved last. -/
structure Restores (w w' : SessionController) : Prop where
  intact : w'.system.runner.storageFailed = false
  session : w'.system.runner.session = w.system.runner.session ∨
    w.attempt = some w'.system.runner.session

/-- **A new start restores** what the file held. -/
theorem Sound.restores (h : Sound w) (hloaded : ¬ w.Refused) {s : ControllerStart}
    (hreadable : s.readable = true) (hconnection : s.connection = w.connection) :
    Restores w (start w.file s) := by
  obtain ⟨session, hload, hsession⟩ := (h.stored.resolve_left hloaded).file
  have hstart : (start w.file s).system = System.make session s.wall s.time := by
    unfold start
    rw [if_pos hreadable, hconnection, show w.file.load w.connection = .ok session from hload]
  constructor
  · rw [hstart]
    rfl
  · rw [hstart]
    exact hsession

/-! ## Runs -/

variable {file : SessionFile} {s : ControllerStart} {run : List ControllerOp}

theorem controllerAt_sound (cfg : RuntimeConfig) (file : SessionFile) (s : ControllerStart)
    (run : List ControllerOp) (n : ℕ) : Sound (controllerAt cfg file s run n) :=
  (machine cfg file s).stateAt_invariant (sound_start file s) (fun _ op h => h.step op) run n

theorem controllerAt_succ {n : ℕ} {op : ControllerOp} (h : run[n]? = some op) :
    controllerAt cfg file s run (n + 1) = (controllerAt cfg file s run n).step cfg op :=
  (machine cfg file s).stateAt_succ h

theorem controllerAt_succ_none {n : ℕ} (h : run[n]? = none) :
    controllerAt cfg file s run (n + 1) = controllerAt cfg file s run n :=
  (machine cfg file s).stateAt_succ_none h

/-- From step `m` to step `n` the process does not start again. -/
def SameStart (run : List ControllerOp) (m n : ℕ) : Prop :=
  ∀ k, m ≤ k → k < n → ∀ s, run[k]? ≠ some (.restart s)

/-- At step `n` the process has just started. -/
def StartsAt (run : List ControllerOp) : ℕ → Prop
  | 0 => True
  | n + 1 => ∃ s, run[n]? = some (.restart s)

/-- So ends every start that fails to load. -/
theorem refused_at {n : ℕ} (hstart : StartsAt run n)
    (h : (controllerAt cfg file s run n).system.runner.storageFailed = true) :
    (controllerAt cfg file s run n).Refused := by
  cases n with
  | zero => exact refused_start h
  | succ n =>
    obtain ⟨s', hop⟩ := hstart
    rw [controllerAt_succ hop] at h ⊢
    exact refused_start h

theorem controllerAt_refused {m n : ℕ} (hmn : m ≤ n) (hsame : SameStart run m n)
    (h : (controllerAt cfg file s run m).Refused) :
    (controllerAt cfg file s run n).Refused ∧
      (controllerAt cfg file s run n).file = (controllerAt cfg file s run m).file := by
  refine (machine cfg file s).stateAt_frozen (fun k op hm hk hop hw => ?_) hmn h
  rw [Machine.stateAt_succ _ hop]
  refine ⟨hw.step (controllerAt_sound cfg file s run k) ?_, hw.file op⟩
  rintro s' rfl
  exact hsame k hm hk s' hop

/-- **The session survives**, in every run of a runner, its store and any number of new starts.
    Unless its store has failed, the file holds the session of the runner, and while a save is in
    progress that one or the one that is being saved. Whenever a goal is requested of the spa, the
    file holds the record it was computed from. A new start with the same connection has the
    session of the last one, or the one that was saved last. From a start whose load has failed
    until the next start, nothing is written. -/
theorem session_durable (cfg : RuntimeConfig) (file : SessionFile) (s : ControllerStart)
    (run : List ControllerOp) (n : ℕ) :
    (controllerAt cfg file s run n).Restorable ∧
    (∀ q ∈ (controllerAt cfg file s run (n + 1)).system.requests.drop
        (controllerAt cfg file s run n).system.requests.length,
      (controllerAt cfg file s run (n + 1)).loaded = .ok (some q.record)) ∧
    (∀ s', run[n]? = some (.restart s') → s'.readable = true →
      s'.connection = (controllerAt cfg file s run n).connection →
        ¬ (controllerAt cfg file s run n).Refused →
          Restores (controllerAt cfg file s run n) (controllerAt cfg file s run (n + 1))) ∧
    (∀ m ≤ n, SameStart run m n → (controllerAt cfg file s run m).Refused →
      (controllerAt cfg file s run (n + 1)).file = (controllerAt cfg file s run m).file) ∧
    (StartsAt run n → (controllerAt cfg file s run n).system.runner.storageFailed = true →
      (controllerAt cfg file s run n).Refused) := by
  have hsound := controllerAt_sound cfg file s run n
  refine ⟨hsound.restorable, fun q hq => ?_, fun s' hop hreadable hconnection hloaded => ?_,
    fun m hmn hsame hrefused => ?_, refused_at⟩
  · cases hop : run[n]? with
    | none =>
      rw [controllerAt_succ_none hop, List.drop_length] at hq
      cases hq
    | some op =>
      rw [controllerAt_succ hop] at hq ⊢
      exact hsound.requested op q hq
  · rw [controllerAt_succ hop]
    exact hsound.restores hloaded hreadable hconnection
  · obtain ⟨hlast, hfile⟩ := controllerAt_refused hmn hsame hrefused
    cases hop : run[n]? with
    | none => rw [controllerAt_succ_none hop, hfile]
    | some op =>
      rw [controllerAt_succ hop, ← hfile]
      exact hlast.file op

end SessionController

end BalboaRs485
