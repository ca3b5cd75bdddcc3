import BalboaRs485.Runtime.Closures
import BalboaRs485.Runtime.Profile

/-!
# A session that has run out

The wall clock of the runner may be set back, so that a session whose end was seen is not
over by the clock any more. Three things keep it over: the flag of the closure that has
seen the end, `_expired`, and the record that a tick has begun to save.

* `Sees`: a tick, or a call of a guard, sees the end of a session that is still heating.
* `Expiring`: what holds from there until the runner has no session; `step_expiring` is its
  step lemma.
* `expiry_latched`: nothing of the heating phase is handed out any more, the session cannot
  be adjusted, and every record that is saved restores.
-/

namespace BalboaRs485

/-! ## Records -/

namespace SessionIntent

/-- Nothing is left of a session but its restoration. -/
def Over (next : Option SessionIntent) : Prop := ∀ s, next = some s → s.phase = .restoring

theorem over_none : Over none := by
  intro s h
  cases h

theorem over_some {s : SessionIntent} (h : s.phase = .restoring) : Over (some s) := by
  rintro s' ⟨⟩
  exact h

theorem reconcile_over {s : SessionIntent} {now : ℚ} (h : s.phase = .restoring ∨ s.endTime ≤ now)
    (o : Option SpaState) : ∃ next, s.reconcile now o = .ok next ∧ Over next := by
  cases s with
  | session s =>
    refine ⟨_, rfl, fun s' hs' => ?_⟩
    obtain ⟨next, hnext, rfl⟩ := Option.map_eq_some_iff.mp hs'
    exact Session.reconcile_over h o next hnext
  | range s =>
    obtain ⟨next, hnext, hover⟩ := RangeSession.reconcile_over h o
    refine ⟨next.map .range, ?_, fun s' hs' => ?_⟩
    · show (s.reconcile now o).map _ = _
      rw [hnext]
      rfl
    · obtain ⟨s₁, hs₁, rfl⟩ := Option.map_eq_some_iff.mp hs'
      exact hover s₁ hs₁

theorem cancel_phase (s : SessionIntent) : s.cancel.phase = .restoring := by
  cases s with
  | session s => rfl
  | range s => exact s.cancel_phase

/-- A session that restores cannot be adjusted. -/
theorem adjust_restoring {s : SessionIntent} (h : s.phase = .restoring) (now seconds : ℚ) :
    ∃ e, s.adjust now seconds = .error e := by
  have hended : ∀ s : Session, s.phase = .restoring → s.adjust now seconds = .error .ended := by
    intro s hs
    unfold Session.adjust
    rw [if_pos (Or.inl hs)]
  cases s with
  | session s =>
    refine ⟨.ended, ?_⟩
    show (s.adjust now seconds).map _ = _
    rw [hended s h]
    rfl
  | range s =>
    show ∃ e, (s.adjust now seconds).map _ = .error e
    unfold RangeSession.adjust
    cases hmake : Session.make
        ⟨s.startTime, s.endTime, s.minimum, s.maintenance, s.unit, s.phase⟩ with
    | error e => exact ⟨e, rfl⟩
    | ok session =>
      have hphase : session.phase = .restoring := by
        rw [Session.make_ok hmake]
        exact h
      dsimp only
      rw [hended session hphase]
      exact ⟨.ended, rfl⟩

end SessionIntent

namespace System

open SessionIntent

variable {cfg : RuntimeConfig} {w w' : System}

/-! ## What sees the end -/

/-- A step in which the runner sees that the end of its session has come, while the session
    still heats: a tick reads such a clock (line 218), or `prepare` calls a closure of the
    session at such a time (lines 194–198). -/
inductive Sees (w : System) : Op → SessionIntent → Prop
  | tick {s : SessionIntent} (hlock : w.lock = .free) (hopen : w.runner.closed = false)
      (hstorage : w.runner.storageFailed = false) (hsession : w.runner.session = some s)
      (hheating : s.phase ≠ .restoring) (hend : s.endTime ≤ w.tickNow s) : Sees w .asyncTick s
  | guard {s : SessionIntent} {epoch : ℕ} {expired : Bool} (answers : Control → Bool) (now : ℚ)
      (call : Commands.GuardCall Guard Runner)
      (hcall : call ∈ w.commands.guardCalls (w.callGuard answers) w.runner)
      (hcaller : call.guard.caller = some (.session s epoch expired))
      (hsession : w.runner.session = some s) (hheating : s.phase ≠ .restoring)
      (hend : s.endTime ≤ w.wall) : Sees w (.prepare answers now) s

/-- What was seen is not forgotten: by the record, by `_expired`, by a storage that has
    failed, or by the tick that is saving. -/
def Latched (w : System) : Prop :=
  ∀ s, w.runner.session = some s → s.phase = .restoring ∨ w.runner.expired = true ∨
    w.runner.storageFailed = true ∨ ∃ next, w.lock = .saving next .tick

/-- The end of the session was seen. -/
structure Expiring (w : System) : Prop where
  latched : Latched w
  saving : ∀ next task, w.lock = .saving next task → Over next
  held : ∀ q id item, Held w q id item → q.record.phase = .restoring

/-! ## The flag -/

theorem callGuard_expired (answers : Control → Bool) (control : Control) (guard : Guard) (r : Runner)
    (h : r.expired = true) : (w.callGuard answers control guard r).2.2.expired = true := by
  unfold callGuard
  split
  · exact h
  split
  · exact h
  · exact h
  · show (latch r _ _).expired = true
    unfold latch
    split
    · show (r.expired || _) = true
      rw [h]
      rfl
    · exact h

theorem submit_expired (cfg : RuntimeConfig) (w : System) (attempt : Attempt) :
    (w.submit cfg attempt).runner.expired = w.runner.expired := by
  have hcase := submit_case cfg w attempt
  generalize w.submit cfg attempt = w' at hcase
  have hrest := request_rest cfg w (goalRequest attempt)
  cases hcase with
  | rejected e w' h =>
    rw [h] at hrest
    have hsame : w'.runner.expired = w.runner.expired := congrArg Runner.expired hrest.runner
    show w'.pause.runner.expired = w.runner.expired
    rw [pause_runner]
    exact hsame
  | accepted intent w' h =>
    rw [h] at hrest
    have hsame : w'.runner.expired = w.runner.expired := congrArg Runner.expired hrest.runner
    exact hsame

/-- `_expired` is only reset with the session. -/
theorem step_expired (h : w.runner.expired = true) (op : Op) :
    (w.step cfg op).1.runner.expired = true ∨ (w.step cfg op).1.runner.session = none := by
  have hcase := step_guards cfg w op
  generalize (w.step cfg op).1 = w' at hcase
  cases hcase with
  | calm hcalm => exact hcalm.expired.imp_left fun hsame => hsame.trans h
  | prepared answers now =>
    left
    exact Commands.admitGuards_owner w.commands (w.callGuard answers)
      (P := fun r => r.expired = true) (callGuard_expired answers) _ _ h
  | foreign r =>
    left
    rw [(request_rest cfg w r).runner]
    exact h
  | submitted w₀ attempt hcalm =>
    rw [submit_expired, (submit_spec cfg w₀ attempt).2.1]
    exact hcalm.expired.imp_left fun hsame => hsame.trans h

/-! ## The coroutines -/

/-- A tick is late for a session that is over. -/
theorem Expiring.reconcile (h : Expiring w) {s : SessionIntent} (hsession : w.runner.session = some s)
    (hlock : w.lock = .free) (hstorage : w.runner.storageFailed = false) (o : Option SpaState) :
    ∃ next, s.reconcile (w.tickNow s) o = .ok next ∧ Over next := by
  refine reconcile_over ?_ o
  rcases h.latched s hsession with hphase | hexpired | hfailed | ⟨next, hsaving⟩
  · exact Or.inl hphase
  · right
    unfold tickNow
    rw [if_pos hexpired]
    exact le_max_right _ _
  · rw [hstorage] at hfailed
    cases hfailed
  · rw [hlock] at hsaving
    cases hsaving

theorem Expiring.asyncAdjust (h : Expiring w) (hlock : w.lock = .free) (seconds : ℚ) :
    ∃ e, w.asyncAdjust seconds = .error e := by
  unfold System.asyncAdjust
  cases hwritable : w.runner.writable with
  | error e => exact ⟨e, rfl⟩
  | ok _ =>
    cases hsession : w.runner.session with
    | none => exact ⟨.noSession, rfl⟩
    | some s =>
      dsimp only
      rcases h.latched s hsession with hphase | hexpired | hfailed | ⟨next, hsaving⟩
      · obtain ⟨e, he⟩ := adjust_restoring hphase w.wall seconds
        rw [he]
        split
        · exact ⟨_, rfl⟩
        · exact ⟨_, rfl⟩
      · rw [if_pos hexpired]
        exact ⟨.ended, rfl⟩
      · rw [(writable_ok hwritable).2] at hfailed
        cases hfailed
      · rw [hlock] at hsaving
        cases hsaving

theorem replace_over {next : Option SessionIntent} {task : Task} (hover : Over next)
    (h : w.replace next task = .ok w') :
    ∀ next' task', w'.lock = .saving next' task' → Over next' := by
  obtain ⟨-, rfl⟩ := replace_ok h
  rintro next' task' ⟨⟩
  exact hover

theorem applying_over {control : Control} {desired : Value} :
    ∀ next task, ({ w with lock := .applying control desired } : System).lock = .saving next task →
      Over next := by
  rintro next task ⟨⟩

/-- What a manual change saves first is over. -/
theorem asyncManualChange_over {control : Control} {desired : Value}
    (h : w.asyncManualChange control desired = .ok w') :
    ∀ next task, w'.lock = .saving next task → Over next := by
  unfold asyncManualChange at h
  split at h
  · cases h
  split at h
  · cases h
  split at h
  · cases h
  split at h
  · cases h
  split at h
  · cases h
  · cases h
    exact applying_over
  unfold changeDuring at h
  split at h
  · split at h
    · cases h
      exact applying_over
    · cases h
  · split at h
    · split at h
      · cases h
      · exact replace_over (over_some rfl) h
    · exact replace_over over_none h

/-- **What a coroutine saves** of a session whose end was seen is over. -/
theorem Expiring.entered (h : Expiring w) {s : SessionIntent} (hsession : w.runner.session = some s)
    (hlock : w.lock = .free) {op : Op} (hop : op.enters = true) :
    ∀ next task, (w.step cfg op).1.lock = .saving next task → Over next := by
  have henter : ∀ body : Except RunnerError System,
      (∀ w', body = .ok w' → ∀ next task, w'.lock = .saving next task → Over next) →
      ∀ next task, (w.enter body).1.lock = .saving next task → Over next := by
    intro body hbody next task hl
    unfold enter at hl
    rw [if_neg (not_not.mpr hlock)] at hl
    cases body with
    | error e => exact h.saving next task hl
    | ok w' => exact hbody w' rfl next task hl
  have hactive : ∀ session w', w.startWith session ≠ .ok w' := by
    intro session w' hstart
    unfold startWith at hstart
    rw [if_pos (by rw [hsession]; simp : w.runner.session ≠ none)] at hstart
    split at hstart
    · cases hstart
    · split at hstart
      · cases hstart
      · cases hstart
  cases op with
  | asyncStart endTime target maintenance unit =>
    exact henter _ fun w' hstart => absurd hstart (hactive _ w')
  | asyncStartBathing endTime minimumC operationId =>
    exact henter _ fun w' hstart => absurd hstart (hactive _ w')
  | asyncCancel =>
    refine henter _ fun w' hcancel => ?_
    unfold asyncCancel at hcancel
    split at hcancel
    · cases hcancel
    · cases hcancel
    · exact replace_over (over_some (cancel_phase _)) hcancel
  | asyncAdjust seconds =>
    refine henter _ fun w' hadjust => ?_
    obtain ⟨e, he⟩ := h.asyncAdjust hlock seconds
    rw [he] at hadjust
    cases hadjust
  | asyncAbandon =>
    refine henter _ fun w' habandon => ?_
    unfold asyncAbandon at habandon
    split at habandon
    · cases habandon
    · cases habandon
      exact h.saving
    · exact replace_over over_none habandon
  | asyncManualChange control desired =>
    exact henter _ fun w' hchange => asyncManualChange_over hchange
  | _ => cases hop

/-! ## Steps -/

/-- What can still be sent could be sent before, or was requested for the record that the
    session has now. -/
theorem Expiring.held_step (h : Expiring w) (howns : Owns w) (op : Op)
    (hnew : Over (w.step cfg op).1.runner.session ∨ (w.step cfg op).1.requests = w.requests) :
    ∀ q id item, Held (w.step cfg op).1 q id item → q.record.phase = .restoring := by
  intro q id item' hheld
  have hold : q ∈ w.requests → q.record.phase = .restoring := by
    intro hq
    have hcalls : Engine.Calls cfg.engine (fun _ => True) w.commands.engine
        (w.step cfg op).1.commands.engine := step_engine w op
    obtain ⟨item, hbefore, -⟩ :=
      howns.toKnows.held hcalls hq hheld.accepted hheld.intent hheld.pending
    exact h.held q id item hbefore
  obtain ⟨-, new, hrequests, hrecord⟩ := step_requests cfg w op
  have hmem := hheld.mem
  rcases hnew with hover | hsame
  · rw [hrequests] at hmem
    rcases List.mem_append.mp hmem with hq | hq
    · exact hold hq
    · exact hover q.record (hrecord q hq).1
  · exact hold (hsame ▸ hmem)

/-- The latch closes over a step that keeps the session, the storage and the lock. -/
theorem Latched.congr (h : Latched w) (hsession : w'.runner.session = w.runner.session)
    (hexpired : w.runner.expired = true → w'.runner.expired = true ∨ w'.runner.session = none)
    (hstorage : w'.runner.storageFailed = w.runner.storageFailed)
    (hlock : w'.lock = w.lock ∨ ∀ next, w.lock ≠ .saving next .tick) : Latched w' := by
  intro s hs
  rw [hsession] at hs
  rcases h s hs with hphase | hexp | hfailed | ⟨next, hsaving⟩
  · exact Or.inl hphase
  · rcases hexpired hexp with hexp | hnone
    · exact Or.inr (Or.inl hexp)
    · rw [hsession, hs] at hnone
      cases hnone
  · exact Or.inr (Or.inr (Or.inl (hstorage.trans hfailed)))
  · rcases hlock with hsame | hne
    · exact Or.inr (Or.inr (Or.inr ⟨next, hsame.trans hsaving⟩))
    · exact absurd hsaving (hne next)

theorem latched_over (h : Over w.runner.session) : Latched w := fun s hs => Or.inl (h s hs)

/-- A record that has been saved is the session, and nothing else is being saved. -/
theorem resume_spec (cfg : RuntimeConfig) (w : System) (next : Option SessionIntent) (task : Task) :
    (w.resume cfg next task).runner.session = next ∧
      ∀ next' task', (w.resume cfg next task).lock ≠ .saving next' task' := by
  cases task with
  | finish => exact ⟨stores_session w next .free, by rintro next' task' ⟨⟩⟩
  | apply control desired =>
    exact ⟨stores_session w next (.applying control desired), by rintro next' task' ⟨⟩⟩
  | tick =>
    show ((w.stores next .free).pursue cfg).runner.session = next ∧
      ∀ next' task', ((w.stores next .free).pursue cfg).lock ≠ .saving next' task'
    unfold pursue
    split
    · exact ⟨stores_session w next .free, by rintro next' task' ⟨⟩⟩
    · next session _ =>
      obtain ⟨-, hs, hl, -⟩ := pursueSession_spec cfg (w.stores next .free) session
      rw [hs, hl]
      exact ⟨stores_session w next .free, by rintro next' task' ⟨⟩⟩

/-- **A session whose end was seen stays over**, as long as there is one. -/
theorem step_expiring (h : Expiring w) (howns : Owns w) {s : SessionIntent}
    (hsession : w.runner.session = some s) (op : Op) : Expiring (w.step cfg op).1 := by
  have hexpired : w.runner.expired = true → (w.step cfg op).1.runner.expired = true ∨
      (w.step cfg op).1.runner.session = none := fun hexp => step_expired hexp op
  have hentered : op.enters = true → w.lock = .free →
      ∀ next task, (w.step cfg op).1.lock = .saving next task → Over next :=
    fun hop hlock => h.entered hsession hlock hop
  have hheld : Over (w.step cfg op).1.runner.session ∨ (w.step cfg op).1.requests = w.requests →
      ∀ q id item, Held (w.step cfg op).1 q id item → q.record.phase = .restoring :=
    h.held_step howns op
  have hcase := step_case cfg w op
  generalize (w.step cfg op).1 = w' at hcase hexpired hentered hheld ⊢
  have hfree : w.lock = .free → ∀ next, w.lock ≠ .saving next .tick := by
    intro hlock next hsaving
    rw [hlock] at hsaving
    cases hsaving
  have hpaused : ∀ lock, ({ w.pause with lock } : System).requests = w.requests :=
    fun _ => pause_requests w
  cases hcase with
  | env he =>
    refine ⟨h.latched.congr ?_ hexpired ?_ (Or.inl he.lock), ?_, hheld (Or.inr he.requests)⟩
    · rw [he.runner]
    · rw [he.runner]
    · rw [he.lock]
      exact h.saving
  | foreign r r' =>
    have hrest := request_rest cfg w r'
    refine ⟨h.latched.congr ?_ hexpired ?_ (Or.inl hrest.lock), ?_, hheld (Or.inr hrest.requests)⟩
    · rw [hrest.runner]
    · rw [hrest.runner]
    · rw [hrest.lock]
      exact h.saving
  | entered hop hlock hent =>
    refine ⟨?_, hentered hop hlock, ?_⟩
    · cases hent with
      | same => exact h.latched
      | saving next task =>
        exact h.latched.congr (by rw [pause_runner]) hexpired (by rw [pause_runner])
          (Or.inr (hfree hlock))
      | applying => exact h.latched.congr rfl hexpired rfl (Or.inr (hfree hlock))
    · refine hheld (Or.inr ?_)
      cases hent with
      | same => rfl
      | saving next task => exact hpaused _
      | applying => rfl
  | ticked session updated hlock hsession' hopen hstorage hrec hne =>
    obtain ⟨next, hnext, hover⟩ := h.reconcile hsession' hlock hstorage
      (if w.settled then w.state else none)
    obtain rfl := Except.ok.inj (hnext.symm.trans hrec)
    refine ⟨fun s _ => Or.inr (Or.inr (Or.inr ⟨next, rfl⟩)), ?_, hheld (Or.inr (hpaused _))⟩
    rintro next' task ⟨⟩
    exact hover
  | pursued session hlock hsession' hopen hstorage hrec =>
    obtain ⟨next, hnext, hover⟩ := h.reconcile hsession' hlock hstorage
      (if w.settled then w.state else none)
    obtain rfl := Except.ok.inj (hnext.symm.trans hrec)
    obtain ⟨-, hsame, hsamelock, -⟩ := pursueSession_spec cfg w session
    rw [hsame, hsession'] at hheld
    refine ⟨latched_over ?_, ?_, hheld (Or.inl hover)⟩
    · rw [hsame, hsession']
      exact hover
    · rw [hsamelock]
      exact h.saving
  | resumed next task hlock =>
    have hover : Over next := h.saving next task hlock
    obtain ⟨hsame, hsaving⟩ := resume_spec cfg w next task
    rw [hsame] at hheld
    refine ⟨latched_over ?_, ?_, hheld (Or.inl hover)⟩
    · rw [hsame]
      exact hover
    · exact fun next' task' hl => absurd hl (hsaving next' task')
  | failed next task outcome hlock =>
    refine ⟨fun s _ => Or.inr (Or.inr (Or.inl rfl)), ?_, hheld (Or.inr rfl)⟩
    rintro next' task' ⟨⟩
  | released control desired hlock =>
    refine ⟨h.latched.congr rfl hexpired rfl (Or.inr fun next hl => ?_), ?_, hheld (Or.inr rfl)⟩
    · rw [hlock] at hl
      cases hl
    · rintro next' task' ⟨⟩
  | paused =>
    refine ⟨h.latched.congr (by rw [pause_runner]) hexpired (by rw [pause_runner])
      (Or.inl (pause_lock w)), ?_, hheld (Or.inr (pause_requests w))⟩
    rw [pause_lock]
    exact h.saving
  | closed =>
    refine ⟨h.latched.congr ?_ hexpired ?_ (Or.inl (pause_lock _)), ?_,
      hheld (Or.inr (pause_requests _))⟩
    · unfold close
      rw [pause_runner]
    · unfold close
      rw [pause_runner]
    · have hlock : w.close.lock = w.lock := pause_lock _
      rw [hlock]
      exact h.saving

/-! ## The end is seen -/

/-- A tick of an open runner: it saves what has changed, or pursues the goal. -/
theorem asyncTick_step (cfg : RuntimeConfig) {s : SessionIntent} {next : Option SessionIntent}
    (hlock : w.lock = .free) (hopen : w.runner.closed = false)
    (hstorage : w.runner.storageFailed = false)
    (hsession : w.runner.session = some s)
    (hrec : s.reconcile (w.tickNow s) (if w.settled then w.state else none) = .ok next) :
    (next ≠ some s → (w.step cfg .asyncTick).1 = { w.pause with lock := .saving next .tick }) ∧
      (next = some s → (w.step cfg .asyncTick).1 = w.pursueSession cfg s) := by
  have hbody : w.asyncTick cfg =
      if next ≠ some s then w.replace next .tick else .ok (w.pursue cfg) := by
    unfold asyncTick
    rw [hsession]
    dsimp only
    rw [if_neg (by rw [hopen, hstorage]; simp), hrec]
  have hstep : (w.step cfg .asyncTick).1 = (w.enter (w.asyncTick cfg)).1 := rfl
  rw [hstep, hbody]
  unfold enter
  rw [if_neg (not_not.mpr hlock)]
  constructor
  · intro hne
    have hwritable : w.runner.writable = .ok () := by
      unfold Runner.writable
      rw [if_neg (by rw [hopen]; simp), if_neg (by rw [hstorage]; simp)]
    rw [if_pos hne]
    unfold replace
    rw [hwritable]
  · intro heq
    rw [if_neg (not_not.mpr heq)]
    show w.pursue cfg = _
    unfold pursue
    rw [hsession]

/-- A closure whose flag is up only lets a restoration pass. -/
theorem sessionValid_ended {record : SessionIntent} (h : record.phase ≠ .restoring)
    (runner : Runner) (epoch : ℕ) : w.sessionValid runner record epoch true = false := by
  simp [sessionValid, h]

/-- Behind a `prepare` at the end of the session nothing of its heating can be sent. -/
theorem prepare_ended (hattached : Attached w) (howns : Owns w) {s : SessionIntent}
    (hsession : w.runner.session = some s) (hend : s.endTime ≤ w.wall) (answers : Control → Bool)
    (now : ℚ) : ∀ q id item, Held (w.prepare cfg answers now).2 q id item →
      q.record.phase = .restoring := by
  intro q id item' hheld
  by_contra hheating
  have hq : q ∈ w.requests := hheld.mem
  obtain ⟨item, hbefore, -⟩ := hheld.earlier howns.toKnows
    (Commands.prepare_engine cfg w.commands (w.callGuard answers) w.runner now) rfl
  have hrecord : q.record = s :=
    Option.some.inj ((howns.held q id item hbefore).2.symm.trans hsession)
  obtain ⟨call, hcall, -, ⟨expired, hguard⟩, hyes⟩ := Commands.prepare_guardCalls cfg
    (hattached.guarded q hq id hheld.accepted) howns.rep howns.pending w.runner now hheld.intent
    hheld.pending
  have hanswer := Commands.guardCalls_answer (w.callGuard answers) w.commands w.runner call hcall
  rw [hyes, hguard] at hanswer
  have hflag : (expired || decide (q.record.endTime ≤ w.wall)) = true := by
    rw [hrecord, decide_eq_true hend, Bool.or_true]
  have hvalid : true =
      w.sessionValid call.owner q.record q.epoch (expired || decide (q.record.endTime ≤ w.wall)) :=
    hanswer
  rw [hflag, sessionValid_ended hheating] at hvalid
  cases hvalid

/-- A closure that is called at the end of the session sets `_expired`. -/
theorem prepare_latches {s : SessionIntent} (hsession : w.runner.session = some s)
    (hend : s.endTime ≤ w.wall) (answers : Control → Bool) (now : ℚ)
    {call : Commands.GuardCall Guard Runner}
    (hcall : call ∈ w.commands.guardCalls (w.callGuard answers) w.runner) {epoch : ℕ}
    {expired : Bool} (hguard : call.guard = ⟨none, some (.session s epoch expired)⟩) :
    (w.prepare cfg answers now).2.runner.expired = true := by
  have hlogged := Commands.admitGuards_owner w.commands (Commands.logged (w.callGuard answers))
    (P := fun r => r.1.session = some s ∧ ((∃ call ∈ r.2, ∃ epoch expired,
      call.guard = ⟨none, some (.session s epoch expired)⟩) → r.1.expired = true))
    (fun control guard r hr => ?_) w.commands.guards.entries (w.runner, [])
    ⟨hsession, by rintro ⟨call, hnone, -⟩; cases hnone⟩
  · have hsame := (Commands.admitGuards_logged (w.callGuard answers) w.commands.guards.entries
      w.commands w.runner []).2
    have hexpired := hlogged.2 ⟨call, hcall, epoch, expired, hguard⟩
    rw [hsame] at hexpired
    exact hexpired
  · obtain ⟨hs, hlog⟩ := hr
    constructor
    · have howner := callGuard_owner (w := w) answers control guard r.1
      exact (congrArg Runner.session howner).trans hs
    · rintro ⟨call, hmem, epoch, expired, hguard⟩
      rcases List.mem_append.mp hmem with hmem | hmem
      · exact callGuard_expired answers control guard r.1 (hlog ⟨call, hmem, epoch, expired, hguard⟩)
      · rw [List.mem_singleton.mp hmem] at hguard
        have hguard : guard = ⟨none, some (.session s epoch expired)⟩ := hguard
        have hflag : (expired || decide (s.endTime ≤ w.wall)) = true := by
          rw [decide_eq_true hend, Bool.or_true]
        show (w.callGuard answers control guard r.1).2.2.expired = true
        rw [hguard]
        show (latch r.1 s (expired || decide (s.endTime ≤ w.wall))).expired = true
        unfold latch
        rw [if_pos hs, hflag]
        exact Bool.or_true _

/-- **The latch closes** in the step that sees the end. -/
theorem Sees.expiring {op : Op} {s : SessionIntent} (h : Sees w op s) (howns : Owns w)
    (hattached : Attached w) : Expiring (w.step cfg op).1 := by
  cases h with
  | tick hlock hopen hstorage hsession hheating hend =>
    obtain ⟨next, hrec, hover⟩ := reconcile_over (Or.inr hend) (if w.settled then w.state else none)
    have hne : next ≠ some s := fun heq => hheating (hover s heq)
    rw [(asyncTick_step cfg hlock hopen hstorage hsession hrec).1 hne]
    refine ⟨fun s _ => Or.inr (Or.inr (Or.inr ⟨next, rfl⟩)), ?_, ?_⟩
    · rintro next' task ⟨⟩
      exact hover
    · intro q id item hheld
      exact absurd ⟨hheld.mem, hheld.accepted, hheld.intent, hheld.pending⟩
        (howns.pause_rests q id item)
  | guard answers now call hcall hcaller hsession hheating hend =>
    have hof : call.guard.ofSession = true := by
      unfold Guard.ofSession
      rw [hcaller]
    obtain ⟨q, id, item, hheld, expired, hguard⟩ :=
      guardCall_held hattached howns.toKnows answers hcall hof
    obtain ⟨hintent, hrecord⟩ := howns.held q id item hheld
    obtain rfl := Option.some.inj (hrecord.symm.trans hsession)
    refine ⟨fun s _ => Or.inr (Or.inl (prepare_latches hsession hend answers now hcall hguard)), ?_,
      prepare_ended hattached howns hsession hend answers now⟩
    intro next task hl
    -- the runner holds no intent while it saves
    rw [howns.saving next task hl] at hintent
    cases hintent

/-! ## Transmission -/

/-- `prepare` hands out no goal of the heating phase among these requests, whenever and however
    it is called. -/
def Spares (cfg : RuntimeConfig) (w : System) (requests : List SessionRequest) : Prop :=
  ∀ answers now t action, (w.prepare cfg answers now).1 = some t → t.token = .action action →
    ∀ q ∈ requests, q.record.phase ≠ .restoring → q.intent ≠ some action.intent.id

/-- What is handed out can still be sent behind the `prepare`. -/
theorem handed_held (hknows : Knows w) {answers : Control → Bool} {now : ℚ} {t : Transmission}
    {action : Action} (ht : (w.prepare cfg answers now).1 = some t)
    (htoken : t.token = .action action) {q : SessionRequest} (hq : q ∈ w.requests)
    (hid : q.intent = some action.intent.id) :
    ∃ item, Held (w.prepare cfg answers now).2 q action.intent.id item := by
  obtain ⟨item, hi, hlive, -⟩ := Commands.prepare_live cfg hknows.rep hknows.pending ht htoken
  exact ⟨item, hq, hid, hi, hlive⟩

/-- The `prepare` that sees the end hands out nothing of the heating phase. -/
theorem Sees.spared {op : Op} {s : SessionIntent} (h : Sees w op s) (howns : Owns w)
    (hattached : Attached w) {t : Transmission} {action : Action}
    (ht : (w.step cfg op).2 = .handed (some t)) (htoken : t.token = .action action) :
    ∀ q ∈ w.requests, q.record.phase ≠ .restoring → q.intent ≠ some action.intent.id := by
  intro q hq hheating hid
  cases h with
  | tick hlock =>
    have hout : (w.enter (w.asyncTick cfg)).2 = .handed (some t) := ht
    unfold enter at hout
    rw [if_neg (not_not.mpr hlock)] at hout
    split at hout
    · cases hout
    · cases hout
  | guard answers now call hcall hcaller hsession _ hend =>
    obtain ⟨item, hheld⟩ := handed_held howns.toKnows (Out.handed.inj ht) htoken hq hid
    exact hheating (prepare_ended hattached howns hsession hend answers now q _ item hheld)

/-- What cannot be sent now is not handed out later. -/
theorem Expiring.spares (h : Expiring w) (hknows : Knows w) (hknows' : Knows w')
    (hcalls : Engine.Calls cfg.engine (fun _ => True) w.commands.engine w'.commands.engine) :
    Spares cfg w' w.requests := by
  intro answers now t action ht htoken q hq hheating hid
  have hprepare := (Commands.prepare_engine cfg w'.commands (w'.callGuard answers) w'.runner
    now).mono fun _ _ => trivial
  obtain ⟨item', hi', hlive', -⟩ :=
    Commands.prepare_live cfg hknows'.rep hknows'.pending ht htoken
  obtain ⟨item, hbefore, -⟩ := hknows.held (hcalls.trans hprepare) hq hid hi' hlive'
  exact hheating (h.held q _ item hbefore)

/-! ## Runs -/

/-- What is left to a session whose end was seen. -/
structure Ended (cfg : RuntimeConfig) (w : System) : Prop where
  /-- It cannot be adjusted; a call waits for the lock and then raises. -/
  adjust : w.lock = .free → ∀ seconds, ∃ e, (w.step cfg (.asyncAdjust seconds)).2 = .raised e
  /-- A tick that is not stopped at once finds it restoring, or saves a record that is over. -/
  tick : w.lock = .free → w.runner.closed = false → w.runner.storageFailed = false →
    ∀ s, w.runner.session = some s →
      (s.phase = .restoring ∧ (w.step cfg .asyncTick).1.runner.session = some s) ∨
        ∃ next, Over next ∧ (w.step cfg .asyncTick).1.lock = .saving next .tick
  /-- Whatever is being saved is over, and becomes the session if `save` returns. -/
  saved : ∀ next task, w.lock = .saving next task →
    Over next ∧ (w.step cfg (.saved .returned)).1.runner.session = next

theorem Expiring.ended (h : Expiring w) : Ended cfg w where
  adjust := by
    intro hlock seconds
    obtain ⟨e, he⟩ := h.asyncAdjust hlock seconds
    refine ⟨e, ?_⟩
    show (w.enter (w.asyncAdjust seconds)).2 = .raised e
    unfold enter
    rw [if_neg (not_not.mpr hlock), he]
  tick := by
    intro hlock hopen hstorage s hsession
    obtain ⟨next, hrec, hover⟩ := h.reconcile hsession hlock hstorage
      (if w.settled then w.state else none)
    have hstep := asyncTick_step cfg hlock hopen hstorage hsession hrec
    by_cases hne : next = some s
    · left
      rw [hstep.2 hne, (pursueSession_spec cfg w s).2.1]
      exact ⟨hover s hne, hsession⟩
    · right
      rw [hstep.1 hne]
      exact ⟨next, hover, rfl⟩
  saved := by
    intro next task hlock
    refine ⟨h.saving next task hlock, ?_⟩
    have hwritten : w.written (.saved .returned) = some next := by
      unfold written
      rw [hlock]
    rw [(step_requests cfg w (.saved .returned)).1, hwritten]
    rfl

/-- From the step that sees the end until there is no session. -/
theorem expiring_from {start : Start} {run : List Op} {m : ℕ} {op : Op} {s : SessionIntent}
    (hop : run[m]? = some op) (hsees : Sees (systemAt cfg start run m) op s) {k : ℕ} (hk : m < k)
    (hlasts : ∀ j, m < j → j < k → (systemAt cfg start run j).runner.session ≠ none) :
    Expiring (systemAt cfg start run k) := by
  induction k, hk using Nat.le_induction with
  | base =>
    rw [systemAt_succ hop]
    exact hsees.expiring (systemAt_owns cfg start run m) (systemAt_attached cfg start run m)
  | succ k hk ih =>
    have hexpiring := ih fun j hm hj => hlasts j hm (hj.trans (Nat.lt_succ_self k))
    cases hop' : run[k]? with
    | none =>
      rw [systemAt_succ_none hop']
      exact hexpiring
    | some op' =>
      rw [systemAt_succ hop']
      obtain ⟨s', hs'⟩ := Option.ne_none_iff_exists'.mp (hlasts k hk (Nat.lt_succ_self k))
      exact step_expiring hexpiring (systemAt_owns cfg start run k) hs' op'

theorem calls_from (cfg : RuntimeConfig) (start : Start) (run : List Op) {k n : ℕ} (h : k ≤ n) :
    Engine.Calls cfg.engine (fun _ => True) (systemAt cfg start run k).commands.engine
      (systemAt cfg start run n).commands.engine :=
  (machine cfg start).stateAt_invariant_from
    (P := fun w => Engine.Calls cfg.engine (fun _ => True)
      (systemAt cfg start run k).commands.engine w.commands.engine)
    (.refl _) (fun w op hcalls => hcalls.trans (step_engine w op)) n h

/-- **The end of a session is latched**, whatever the wall clock shows afterwards. Once a tick or
    a call of a guard has seen it, `prepare` hands out nothing of the heating phase: neither the
    one that has seen it, nor any later one for what the runner requests until it has no session
    any more. Until then the session cannot be adjusted, and what a tick saves is over. -/
theorem expiry_latched (cfg : RuntimeConfig) (start : Start) (run : List Op) {m : ℕ} {op : Op}
    {s : SessionIntent} (hop : run[m]? = some op)
    (hsees : Sees (systemAt cfg start run m) op s) :
    (∀ t action, ((systemAt cfg start run m).step cfg op).2 = .handed (some t) →
      t.token = .action action → ∀ q ∈ (systemAt cfg start run m).requests,
        q.record.phase ≠ .restoring → q.intent ≠ some action.intent.id) ∧
    ∀ k, m < k →
      (∀ j, m < j → j < k → (systemAt cfg start run j).runner.session ≠ none) →
      Ended cfg (systemAt cfg start run k) ∧
        ∀ n, k ≤ n → Spares cfg (systemAt cfg start run n) (systemAt cfg start run k).requests := by
  have howns := systemAt_owns cfg start run
  refine ⟨fun t action ht htoken => ?_, fun k hk hlasts => ?_⟩
  · exact hsees.spared (howns m) (systemAt_attached cfg start run m) ht htoken
  · have hexpiring := expiring_from hop hsees hk hlasts
    exact ⟨hexpiring.ended, fun n hn => hexpiring.spares (howns k).toKnows (howns n).toKnows
      (calls_from cfg start run hn)⟩

/-- The session requests its target, and its time runs out before the bus is free; then the
    clock is set back. -/
def expiryRun : List Op :=
  sampleOpening (sampleStatus 90 1 true) ++
    [.asyncTick, .clock 3600 0, .prepare (fun _ => true) 0, .clock 1 0]

theorem expiry_latched_sample :
    (systemAt sampleRuntime profileStart expiryRun 13).wall = 1 ∧
      ((systemAt sampleRuntime profileStart expiryRun 13).requests.any fun q =>
        q.record = .range profileSession ∧ q.intent = some 1) = true ∧
      Ended sampleRuntime (systemAt sampleRuntime profileStart expiryRun 13) ∧
      Spares sampleRuntime (systemAt sampleRuntime profileStart expiryRun 13)
        (systemAt sampleRuntime profileStart expiryRun 13).requests := by
  have hcall : (((systemAt sampleRuntime profileStart expiryRun 11).commands.guardCalls
      (callGuard (systemAt sampleRuntime profileStart expiryRun 11) fun _ => true)
      (systemAt sampleRuntime profileStart expiryRun 11).runner).any fun call =>
        call.guard.caller = some (.session (.range profileSession) 1 false)) = true := by
    decide +kernel
  obtain ⟨call, hcall, hcaller⟩ := List.any_eq_true.mp hcall
  have hsees : Sees (systemAt sampleRuntime profileStart expiryRun 11)
      (.prepare (fun _ => true) 0) (.range profileSession) :=
    .guard _ _ call hcall (of_decide_eq_true hcaller) (by decide +kernel) (by decide +kernel)
      (by decide +kernel)
  have hlasts : ∀ j < 13, 11 < j →
      (systemAt sampleRuntime profileStart expiryRun j).runner.session ≠ none := by
    decide +kernel
  have hlatched := (expiry_latched sampleRuntime profileStart expiryRun rfl hsees).2 13 (by decide)
    fun j hm hj => hlasts j hj hm
  exact ⟨by decide +kernel, by decide +kernel, hlatched.1, hlatched.2 13 le_rfl⟩

end System

end BalboaRs485
