import BalboaRs485.Lib.Memo
import BalboaRs485.Runtime.WriteAhead

/-!
# One request for each record and epoch

`async_tick` remembers its last attempt and requests a goal only if the attempt at it is
a new one. Records only move forward and epochs only rise, so an attempt at an older
record or epoch never comes up again, and remembering one is enough. But `pause` forgets
it, and `async_tick` pauses whenever it finds the connection not ready.

* `steady`: a tick does not forget a request it made in this epoch, and is not refused.
* `Remembers`: the invariant. Every request is the one remembered, or past.
* `step_remembers`: what one step makes of it.
* `requested_once`: in every run whose ticks are steady, no attempt is requested twice,
  and a setpoint that was changed afterwards is reported.
* `requested_twice`: a run in which the connection is refreshed between two ticks.
-/

namespace BalboaRs485

/-! ## Records move forward -/

namespace SessionIntent

/-- `b` is a later record of the session of `a`. -/
def Behind : SessionIntent → SessionIntent → Prop
  | session s, session s' => s.phase.rank < s'.phase.rank
  | range s, range s' => s.rank < s'.rank
  | _, _ => False

theorem Behind.ne {a b : SessionIntent} (h : a.Behind b) : a ≠ b := by
  rintro rfl
  cases a <;> exact lt_irrefl _ h

theorem Behind.trans {a b c : SessionIntent} (h : a.Behind b) (h' : b.Behind c) : a.Behind c := by
  cases a <;> cases b <;> cases c <;>
    first
    | exact h.elim
    | exact h'.elim
    | exact lt_trans h h'

theorem reconcile_behind {s s' : SessionIntent} {now : ℚ} {o : Option SpaState}
    (h : s.reconcile now o = .ok (some s')) : s' = s ∨ s.Behind s' := by
  cases s with
  | session s =>
    obtain ⟨t, ht, rfl⟩ := Option.map_eq_some_iff.mp (Except.ok.inj h)
    exact (Session.reconcile_rank ht).imp_left (congrArg session)
  | range s =>
    have h : (s.reconcile now o).map (Option.map range) = .ok (some s') := h
    cases ht : s.reconcile now o with
    | error e => rw [ht] at h; cases h
    | ok t =>
      rw [ht] at h
      obtain ⟨t, rfl, rfl⟩ := Option.map_eq_some_iff.mp (Except.ok.inj h)
      exact (RangeSession.reconcile_rank ht).imp_left (congrArg range)

/-- A goal is admissible on the observation it was computed on. -/
theorem goal_ok {s : SessionIntent} {o : Option SpaState} {g : Control × Value}
    (h : s.goal o = .ok g) :
    ∃ state, o = some state ∧ state.validate g.1 g.2 = .ok () ∧ g.1 ≠ .filters := by
  cases s with
  | session s =>
    obtain ⟨rfl, state, ho, hvalid⟩ := Session.goal_ok h
    exact ⟨state, ho, hvalid, by simp⟩
  | range s =>
    obtain ⟨rfl, state, ho, hvalid, -⟩ := RangeSession.goal_ok h
    refine ⟨state, ho, hvalid, ?_⟩
    unfold RangeSession.goalOf
    split <;> simp

end SessionIntent

/-! ## Admission -/

/-- Only an available state admits anything. -/
theorem SpaState.validate_available {o : SpaState} {control : Control} {desired : Value}
    (h : o.validate control desired = .ok ()) : o.available = true := by
  unfold validate at h
  split at h
  · cases h
  next hsafe =>
  by_contra havailable
  refine hsafe fun hsafe => ?_
  simp [safeFor, controlsSafe, havailable] at hsafe

/-- A request without a deadline is accepted on a fresh state that admits it. -/
theorem Engine.request_accepted (cfg : EngineConfig) {s : Engine} {r : Request} {o : SpaState}
    (hstate : s.state = some o) (hdeadline : r.deadline = none) (hdefer : 0 ≤ r.deferFor)
    (hreplace : r.replacePending = false) (hcontrol : r.control ≠ .filters)
    (hvalid : o.validate r.control r.desired = .ok ()) (hfresh : fresh cfg r.now o.observedAt = true) :
    ∃ item, (s.request cfg r).1 = .ok item := by
  have hadmission : (s.tick cfg r.now).admitOn cfg r = .ok o := by
    have hreplacing : (s.tick cfg r.now).replacing r = false := by simp [replacing, hreplace]
    unfold admitOn
    rw [(tick_core cfg s r.now).1, hstate]
    simp [hreplacing, SpaState.validate_available hvalid, hfresh, hcontrol, hvalid]
  unfold request
  rw [if_neg (by simp [hdeadline, not_lt.mpr hdefer])]
  simp only [hadmission]
  exact ⟨_, rfl⟩

theorem Attempt.same_iff {a b : Attempt} : a.same b = true ↔
    a.record = b.record ∧ a.control = b.control ∧ a.goal.pyEq b.goal = true ∧ a.epoch = b.epoch := by
  simp [same]

theorem Attempt.same_refl (a : Attempt) : a.same a = true := by simp [same]

theorem Attempt.same_comm (a b : Attempt) : a.same b = b.same a := by
  rw [Bool.eq_iff_iff, same_iff, same_iff, Value.pyEq_comm, eq_comm (a := a.record),
    eq_comm (a := a.control), eq_comm (a := a.epoch)]

namespace System

variable {cfg : RuntimeConfig} {w w' : System} {session : SessionIntent}

/-- `runtime.request` accepts a goal on the fresh observation it was computed on. -/
theorem request_accepted {attempt : Attempt} {o : SpaState} (havailable : w.snapshot.available = true)
    (hstate : w.state = some o) (hcontrol : attempt.control ≠ .filters)
    (hvalid : o.validate attempt.control attempt.goal = .ok ())
    (hfresh : Engine.fresh cfg.engine w.time o.observedAt = true) :
    ∃ intent, (w.request cfg (goalRequest attempt)).1 = .ok intent := by
  obtain ⟨item, hitem⟩ := Engine.request_accepted cfg.engine (s := w.commands.engine)
    (r := w.engineRequest (goalRequest attempt)) hstate rfl le_rfl rfl hcontrol hvalid hfresh
  refine ⟨item, ?_⟩
  unfold request
  rw [if_neg (by simp [havailable])]
  split
  · next heq => rw [heq] at hitem; cases hitem
  · next heq => rw [heq] at hitem; rw [Except.ok.inj hitem]

/-! ## Ticks -/

/-- A step of a run in which the controls stay enabled, and nobody starts, changes, ends
    or stops the session. -/
def Op.ticking : Op → Bool
  | .enable enabled => enabled
  | .pause | .close => false
  | op => ¬ op.enters

/-- The system in which a step pursues the goal of the session, if it does. -/
def pursues (w : System) : Op → Option System
  | .asyncTick =>
    w.runner.session.bind fun session =>
      if w.lock = .free ∧ ¬ w.runner.closed ∧ ¬ w.runner.storageFailed ∧
          session.reconcile (w.tickNow session) (if w.settled then w.state else none) =
            .ok (some session) then
        some w
      else none
  | .saved .returned =>
    match w.lock with
    | .saving next .tick => some (w.stores next .free)
    | _ => none
  | _ => none

/-- The calls of `runtime.request` so far. -/
def attempts (w : System) : List Attempt := w.requests.map SessionRequest.toAttempt

/-- The remembered attempt was requested, in this epoch. -/
def requestedNow (w : System) : Bool :=
  w.runner.attempt.any fun a => a.epoch = w.snapshot.epoch ∧ a ∈ w.attempts

/-- The tick pauses: the connection is not ready, or the goal is refused. -/
def pausing (w : System) (session : SessionIntent) : Bool :=
  ¬ w.snapshot.available ∨ (w.settled ∧ ¬ (session.goal w.state).toBool)

/-- The tick requests the goal on an observation that is too old. -/
def outdated (cfg : RuntimeConfig) (w : System) (session : SessionIntent) : Bool :=
  match session.goal w.state with
  | .error _ => false
  | .ok goal =>
    w.snapshot.available ∧ w.settled ∧ ¬ w.runner.attempt.any (w.attemptAt session goal).same ∧
      w.state.any fun state =>
        ¬ Value.shows (state.value goal.1) goal.2 ∧
          ¬ Engine.fresh cfg.engine w.time state.observedAt

/-- A tick that pursues the goal of this system does not forget a request it made in
    this epoch, and its own request is not refused. -/
def steady (cfg : RuntimeConfig) (w : System) : Bool :=
  w.runner.session.all fun session =>
    ¬ (w.requestedNow ∧ w.pausing session) ∧ ¬ w.outdated cfg session

/-! ## The invariant -/

/-- The record of the next goal: the one being saved, if there is one. -/
def upcoming (w : System) : Option SessionIntent :=
  match w.lock with
  | .saving next _ => next
  | _ => w.runner.session

theorem upcoming_congr (hsession : w'.runner.session = w.runner.session)
    (hlock : ∀ next task, w'.lock = .saving next task ↔ w.lock = .saving next task) :
    w'.upcoming = w.upcoming := by
  unfold upcoming
  cases hl : w.lock with
  | saving next task => rw [(hlock next task).mpr hl]
  | free | applying control desired =>
    split
    · next next task hl' => exact absurd ((hlock next task).mp hl') (by simp [hl])
    · exact hsession

/-- An attempt that never comes up again. -/
def Past (w : System) (a : Attempt) : Prop :=
  a.epoch < w.snapshot.epoch ∨ ∀ s, w.upcoming = some s → a.record.Behind s

theorem Past.mono {a : Attempt} (h : w.Past a) (hepoch : w.snapshot.epoch ≤ w'.snapshot.epoch)
    (hupcoming : w'.upcoming = w.upcoming) : w'.Past a := by
  rcases h with hlt | hbehind
  · exact Or.inl (hlt.trans_le hepoch)
  · exact Or.inr (by rw [hupcoming]; exact hbehind)

/-- Every request is the one remembered, or past. -/
structure Remembers (w : System) : Prop where
  guarded : Memo.Guarded Attempt.same w.Past w.attempts w.runner.attempt
  epoch : ∀ a, w.runner.attempt = some a → a.epoch ≤ w.snapshot.epoch
  record : ∀ a, w.runner.attempt = some a → w.runner.session = some a.record
  goal : ∀ a, w.runner.attempt = some a → ∃ o, a.record.goal o = .ok (a.control, a.goal)
  saving : ∀ next task, w.lock = .saving next task → w.runner.attempt = none
  enabled : w.enabled = true

/-- The remembered attempt is kept. -/
theorem Remembers.congr (h : Remembers w) (hrequests : w'.requests = w.requests)
    (hattempt : w'.runner.attempt = w.runner.attempt)
    (hsession : w'.runner.session = w.runner.session)
    (hlock : ∀ next task, w'.lock = .saving next task ↔ w.lock = .saving next task)
    (hepoch : w.snapshot.epoch ≤ w'.snapshot.epoch) (henabled : w'.enabled = true) :
    Remembers w' where
  guarded := by
    have hupcoming := upcoming_congr hsession hlock
    have hattempts : w'.attempts = w.attempts := by
      unfold attempts
      rw [hrequests]
    rw [hattempts, hattempt]
    exact h.guarded.change fun a _ => Or.imp_right fun hpast => hpast.mono hepoch hupcoming
  epoch a ha := (h.epoch a (hattempt ▸ ha)).trans hepoch
  record a ha := hsession.trans (h.record a (hattempt ▸ ha))
  goal a ha := h.goal a (hattempt ▸ ha)
  saving next task hl := hattempt.trans (h.saving next task ((hlock next task).mp hl))
  enabled := henabled

/-- The remembered attempt is forgotten: every request has to be past. -/
theorem Remembers.forget (h : Remembers w) (hrequests : w'.requests = w.requests)
    (hattempt : w'.runner.attempt = none)
    (hpast : ∀ a ∈ w.attempts, w.runner.attempt = some a ∨ w.Past a → w'.Past a)
    (henabled : w'.enabled = w.enabled) : Remembers w' := by
  refine ⟨?_, ?_, ?_, ?_, fun _ _ _ => hattempt, henabled.trans h.enabled⟩
  · have hattempts : w'.attempts = w.attempts := by
      unfold attempts
      rw [hrequests]
    rw [hattempts]
    exact h.guarded.change fun a ha hk => Or.inr (hpast a ha hk)
  all_goals
    intro a ha
    rw [hattempt] at ha
    cases ha

/-! ## Pursuing a goal -/

/-- The remembered attempt is from an earlier epoch, or is the one at the goal. -/
theorem Remembers.attempt_eq (h : Remembers w) (hsession : w.runner.session = some session)
    {goal : Control × Value} (hgoal : session.goal w.state = .ok goal) {a : Attempt}
    (ha : w.runner.attempt = some a) :
    a.epoch < w.snapshot.epoch ∨ a = w.attemptAt session goal := by
  rcases (h.epoch a ha).lt_or_eq with hlt | heq
  · exact Or.inl hlt
  right
  obtain rfl := Option.some.inj ((h.record a ha).symm.trans hsession)
  obtain ⟨o, ho⟩ := h.goal a ha
  have hsame : (a.control, a.goal) = goal := SessionIntent.goal_unique ho hgoal
  rw [← hsame]
  unfold attemptAt
  rw [← heq]

/-- A past attempt is not the one at the goal. -/
theorem Past.not_same {a : Attempt} (h : w.Past a) (hlock : w.lock = .free)
    (hsession : w.runner.session = some session) (goal : Control × Value) :
    a.same (w.attemptAt session goal) = false := by
  by_contra hsame
  obtain ⟨hrecord, -, -, hepoch⟩ := Attempt.same_iff.mp (by simpa using hsame)
  have hupcoming : w.upcoming = some session := by
    unfold upcoming
    rw [hlock]
    exact hsession
  rcases h with hlt | hbehind
  · exact absurd hepoch hlt.ne
  · exact (hbehind session hupcoming).ne hrecord

theorem steady_iff (hsession : w.runner.session = some session) :
    w.steady cfg = true ↔ (w.requestedNow = true → w.pausing session = false) ∧
      w.outdated cfg session = false := by
  unfold steady
  rw [hsession]
  cases w.requestedNow <;> simp

/-- A steady request is accepted. -/
theorem submit_accepted (hsession : w.runner.session = some session)
    (hsteady : w.steady cfg = true) {goal : Control × Value}
    (hgoal : session.goal w.state = .ok goal)
    (hready : w.enabled = true ∧ w.snapshot.available = true ∧ w.settled = true)
    (hunseen : ∀ state, w.state = some state → Value.shows (state.value goal.1) goal.2 = false)
    (hsame : w.runner.attempt.any (w.attemptAt session goal).same = false) :
    ∃ intent, (w.request cfg (goalRequest (w.attemptAt session goal))).1 = .ok intent := by
  obtain ⟨o, ho, hvalid, hcontrol⟩ := SessionIntent.goal_ok hgoal
  refine request_accepted hready.2.1 ho hcontrol hvalid ?_
  have hdated := ((steady_iff hsession).mp hsteady).2
  unfold outdated at hdated
  rw [hgoal] at hdated
  by_contra hfresh
  simp [hready.2.1, hready.2.2, hsame, ho, hunseen o ho, hfresh] at hdated

/-- An accepted request at the goal is remembered; by `hsame` it is a new one. -/
theorem Remembers.accept (h : Remembers w) (hsession : w.runner.session = some session)
    (hlock : w.lock = .free) {goal : Control × Value} (hgoal : session.goal w.state = .ok goal)
    (hsame : w.runner.attempt.any (w.attemptAt session goal).same = false) {intent : Intent}
    (hreq : w.request cfg (goalRequest (w.attemptAt session goal)) = (.ok intent, w')) :
    Remembers { w' with
      requests := w'.requests ++ [⟨w.attemptAt session goal, some intent.id⟩]
      runner := { w'.runner with
        intent := some intent.id
        attempt := some (w.attemptAt session goal)
        blockedReason := some .waitingForVerification } } := by
  have hrest := request_rest cfg w (goalRequest (w.attemptAt session goal))
  rw [hreq] at hrest
  have h' : Remembers w' :=
    h.congr hrest.requests (by rw [hrest.runner]) (by rw [hrest.runner])
      (fun _ _ => by rw [hrest.lock]) (by rw [hrest.snapshot]) (hrest.enabled.trans h.enabled)
  have hsession' : w'.runner.session = some session := by
    rw [hrest.runner]
    exact hsession
  have hlock' : w'.lock = .free := hrest.lock.trans hlock
  have hattempt : w'.attemptAt session goal = w.attemptAt session goal := by
    unfold attemptAt
    rw [hrest.snapshot]
  have hlog : Memo.Guarded Attempt.same w'.Past (w'.attempts ++ [w.attemptAt session goal])
      (some (w.attemptAt session goal)) := by
    refine h'.guarded.append ?_ ?_
    · intro a _ ha
      rw [hrest.runner] at ha
      rcases h.attempt_eq hsession hgoal ha with hlt | rfl
      · exact Or.inl (by rw [hrest.snapshot]; exact hlt)
      · rw [ha, Option.any_some, Attempt.same_refl] at hsame
        cases hsame
    · intro a _ ha
      rw [← hattempt]
      exact ha.not_same hlock' hsession' goal
  exact
    { guarded := by
        show Memo.Guarded Attempt.same w'.Past (List.map _ (w'.requests ++ [_])) _
        rw [List.map_append]
        exact hlog
      epoch := fun a ha => by cases ha; rw [← hattempt]; exact le_rfl
      record := fun a ha => by cases ha; exact hsession'
      goal := fun a ha => by cases ha; exact ⟨_, hgoal⟩
      saving := fun next task hl => by
        have hl : w'.lock = .saving next task := hl
        rw [hlock'] at hl
        cases hl
      enabled := h'.enabled }

theorem Remembers.pursueSession (h : Remembers w) (hsession : w.runner.session = some session)
    (hlock : w.lock = .free) (hsteady : w.steady cfg = true) :
    Remembers (w.pursueSession cfg session) := by
  have hpausing := ((steady_iff hsession).mp hsteady).1
  -- the goal is computed again, and so is the attempt at it
  have hagain : ∀ goal, session.goal w.state = .ok goal → ∀ a ∈ w.attempts,
      w.runner.attempt = some a ∨ w.Past a → some (w.attemptAt session goal) = some a ∨ w.Past a := by
    intro goal hgoal a _ hk
    rcases hk with hk | hk
    · rcases h.attempt_eq hsession hgoal hk with hlt | rfl
      · exact Or.inr (Or.inl hlt)
      · exact Or.inl rfl
    · exact Or.inr hk
  have hcase := pursue_case cfg w session
  generalize w.pursueSession cfg session = w' at hcase
  cases hcase with
  | paused reason hreason =>
    have hpauses : w.pausing session = true := by
      rcases hreason with hoff | hoff | ⟨hsettled, e, he⟩
      · rw [h.enabled] at hoff
        cases hoff
      · simp [pausing, hoff]
      · simp [pausing, hsettled, he, Except.toBool]
    refine h.forget (pause_requests w) (by simp [block]) ?_ (pause_enabled w)
    intro a ha hk
    have hpast : w.Past a := by
      rcases hk with hk | hk
      · refine Or.inl ((h.epoch a hk).lt_of_ne fun heq => ?_)
        have hnow : w.requestedNow = true := by simp [requestedNow, hk, heq, ha]
        rw [hpausing hnow] at hpauses
        cases hpauses
      · exact hk
    refine hpast.mono (by simp [block]) ?_
    unfold upcoming
    simp [block]
  | awaited => exact h.congr rfl rfl rfl (fun _ _ => Iff.rfl) le_rfl h.enabled
  | observed goal hgoal =>
    exact
      { guarded := h.guarded.change (hagain goal hgoal)
        epoch := fun a ha => by cases ha; exact le_rfl
        record := fun a ha => by cases ha; exact hsession
        goal := fun a ha => by cases ha; exact ⟨_, hgoal⟩
        saving := fun next task hl => by rw [hlock] at hl; cases hl
        enabled := h.enabled }
  | remembered goal hgoal => exact h.congr rfl rfl rfl (fun _ _ => Iff.rfl) le_rfl h.enabled
  | requested goal hgoal hready hunseen hsame =>
    have haccepted := submit_accepted hsession hsteady hgoal hready hunseen hsame
    have hcase := submit_case cfg w (w.attemptAt session goal)
    generalize w.submit cfg (w.attemptAt session goal) = w' at hcase
    cases hcase with
    | rejected e w' hreq =>
      obtain ⟨intent, hok⟩ := haccepted
      rw [hreq] at hok
      cases hok
    | accepted intent w' hreq => exact h.accept hsession hlock hgoal hsame hreq

/-- A goal that was requested before is not requested again. -/
theorem Remembers.pursued_again (h : Remembers w) (hsession : w.runner.session = some session)
    (hlock : w.lock = .free) (hsteady : w.steady cfg = true) {goal : Control × Value}
    (hgoal : session.goal w.state = .ok goal) (hsettled : w.settled = true)
    (hunseen : ∀ state, w.state = some state → Value.shows (state.value goal.1) goal.2 = false)
    {a : Attempt} (ha : a ∈ w.attempts) (hsame : a.same (w.attemptAt session goal) = true) :
    w.pursueSession cfg session = w.block (some w.progress) := by
  have hmemo : w.runner.attempt = some a := by
    rcases h.guarded.kept a ha with hk | hk
    · exact hk
    · rw [hk.not_same hlock hsession goal] at hsame
      cases hsame
  have hnow : w.requestedNow = true := by
    have hepoch : a.epoch = w.snapshot.epoch := (Attempt.same_iff.mp hsame).2.2.2
    simp [requestedNow, hmemo, hepoch, ha]
  have hpausing := ((steady_iff hsession).mp hsteady).1 hnow
  have hcase := pursue_case cfg w session
  generalize w.pursueSession cfg session = w' at hcase
  cases hcase with
  | paused reason hreason =>
    exfalso
    rcases hreason with hoff | hoff | ⟨-, e, he⟩
    · rw [h.enabled] at hoff
      cases hoff
    · simp [pausing, hoff] at hpausing
    · rw [hgoal] at he
      cases he
  | awaited hbusy =>
    rw [hsettled] at hbusy
    cases hbusy
  | observed goal' hgoal' hseen =>
    obtain rfl := Except.ok.inj (hgoal.symm.trans hgoal')
    obtain ⟨state, hstate, hshows⟩ := hseen
    rw [hunseen state hstate] at hshows
    cases hshows
  | remembered goal' => rfl
  | requested goal' hgoal' _ _ hnew =>
    obtain rfl := Except.ok.inj (hgoal.symm.trans hgoal')
    rw [hmemo, Option.any_some, Attempt.same_comm, hsame] at hnew
    cases hnew

/-! ## Steps -/

theorem Op.ticking_enters {op : Op} (h : op.ticking = true) : op.enters = false := by
  cases op <;> first | rfl | simp [ticking, enters] at h

/-- A record is replaced by a later one, or by none. -/
theorem Remembers.ticked (h : Remembers w) (hlock : w.lock = .free)
    (hsession : w.runner.session = some session) {now : ℚ} {o : Option SpaState}
    {updated : Option SessionIntent} (hrec : session.reconcile now o = .ok updated)
    (hne : updated ≠ some session) :
    Remembers { w.pause with lock := .saving updated .tick } := by
  refine h.forget (pause_requests w) (by simp) ?_ (pause_enabled w)
  have hbehind : ∀ s, updated = some s → session.Behind s := by
    rintro s rfl
    rcases SessionIntent.reconcile_behind hrec with rfl | hlt
    · exact absurd rfl hne
    · exact hlt
  intro a _ hk
  rcases hk with hk | hlt | hk
  · obtain rfl := Option.some.inj ((h.record a hk).symm.trans hsession)
    exact Or.inr hbehind
  · exact Or.inl (by rw [pause_snapshot]; exact hlt)
  · have hupcoming : w.upcoming = some session := by
      unfold upcoming
      rw [hlock]
      exact hsession
    exact Or.inr fun s hs => (hk session hupcoming).trans (hbehind s hs)

/-- The saved record becomes the session. -/
theorem Remembers.stored (h : Remembers w) {next : Option SessionIntent} {task : Task}
    (hlock : w.lock = .saving next task) {lock : Lock} (hl : ∀ next task, lock ≠ .saving next task) :
    Remembers (w.stores next lock) := by
  have hattempt : (w.stores next lock).runner.attempt = none := by
    have hnone := h.saving next task hlock
    unfold stores
    split <;> exact hnone
  refine h.forget rfl hattempt ?_ rfl
  intro a _ hk
  rcases hk with hk | hk
  · rw [h.saving next task hlock] at hk
    cases hk
  · refine hk.mono le_rfl ?_
    have hbefore : w.upcoming = next := by
      unfold upcoming
      rw [hlock]
    have hafter : (w.stores next lock).upcoming = (w.stores next lock).runner.session := by
      unfold upcoming
      split
      · next n t heq => exact absurd heq (hl n t)
      · rfl
    rw [hbefore, hafter, stores_session]

/-- What a step does that pursues a goal. -/
theorem step_pursues (cfg : RuntimeConfig) {op : Op} (h : w.pursues op = some w') :
    w'.lock = .free ∧ (w.step cfg op).1 = w'.pursue cfg ∧ w'.attempts = w.attempts ∧
      (Remembers w → Remembers w') := by
  unfold pursues at h
  split at h
  · obtain ⟨session, hsession, hw⟩ := Option.bind_eq_some_iff.mp h
    rw [Option.ite_none_right_eq_some] at hw
    obtain ⟨⟨hlock, hclosed, hstorage, hrec⟩, hw⟩ := hw
    obtain rfl := Option.some.inj hw
    refine ⟨hlock, ?_, rfl, id⟩
    have hopen : ¬ (w.runner.closed = true ∨ w.runner.storageFailed = true) :=
      not_or.mpr ⟨hclosed, hstorage⟩
    have htick : w.asyncTick cfg = .ok (w.pursue cfg) := by
      unfold asyncTick
      rw [hsession]
      simp only [hrec, ne_eq, not_true_eq_false, if_false]
      rw [if_neg hopen]
    simp only [step, enter, hlock, htick, ne_eq, not_true_eq_false, if_false]
  · split at h
    · next next hlock =>
      obtain rfl := Option.some.inj h
      refine ⟨rfl, ?_, rfl, fun h => h.stored hlock (by simp)⟩
      simp only [step, saved, hlock, resume]
    · cases h
  · cases h

/-- **Every request stays the one remembered, or past.** -/
theorem step_remembers (h : Remembers w) (howns : Owns w) {op : Op} (hop : op.ticking = true)
    (hsteady : ∀ w', w.pursues op = some w' → w'.steady cfg = true) :
    Remembers (w.step cfg op).1 ∨
      (Dead (w.step cfg op).1 ∧ (w.step cfg op).1.attempts = w.attempts) := by
  by_cases hp : ∃ w', w.pursues op = some w'
  · obtain ⟨w', hp⟩ := hp
    obtain ⟨hlock, hstep, -, hrem⟩ := step_pursues cfg hp
    left
    rw [hstep]
    unfold pursue
    split
    · exact hrem h
    · next session hsession => exact (hrem h).pursueSession hsession hlock (hsteady w' hp)
  have hnone : w.pursues op = none := by
    by_contra hsome
    exact hp (Option.ne_none_iff_exists'.mp hsome)
  have hcase := step_case cfg w op
  generalize (w.step cfg op).1 = w' at hcase ⊢
  cases hcase with
  | env he =>
    left
    refine h.congr he.requests ?_ ?_ (fun _ _ => by rw [he.lock]) he.epoch ?_
    · rw [he.runner]
    · rw [he.runner]
    · rcases he.enabled with heq | rfl
      · exact heq.trans h.enabled
      · exact hop
  | foreign r r' =>
    have hrest := request_rest cfg w r'
    left
    exact h.congr hrest.requests (by rw [hrest.runner]) (by rw [hrest.runner])
      (fun _ _ => by rw [hrest.lock]) (by rw [hrest.snapshot]) (hrest.enabled.trans h.enabled)
  | entered henters =>
    rw [Op.ticking_enters hop] at henters
    cases henters
  | ticked session updated hlock hsession _ _ hrec hne =>
    exact Or.inl (h.ticked hlock hsession hrec hne)
  | pursued session hlock hsession hopen hstorage hrec =>
    simp [pursues, hlock, hsession, hopen, hstorage, hrec] at hnone
  | resumed next task hlock =>
    cases task with
    | finish => exact Or.inl (h.stored hlock (by simp))
    | apply control desired => exact Or.inl (h.stored hlock (by simp))
    | tick => simp [pursues, hlock] at hnone
  | failed next task outcome hlock =>
    right
    refine ⟨⟨rfl, howns.saving next task hlock, by simp [storageFails]⟩, rfl⟩
  | released control desired hlock =>
    exact Or.inl (h.congr rfl rfl rfl (by simp [hlock]) le_rfl h.enabled)
  | paused => cases hop
  | closed => cases hop

/-! ## Runs -/

theorem progress_changed
    (h : ((w.runner.intent.bind w.commands.engine.intent).all fun intent =>
      intent.stage.terminal ∧ intent.stage ≠ .failed) = true) : w.progress = .setpointChanged := by
  unfold progress
  split
  · rfl
  · next intent hintent =>
    rw [hintent] at h
    obtain ⟨hterminal, hfailed⟩ : intent.stage.terminal = true ∧ ¬ intent.stage = .failed := by
      simpa using h
    rw [if_neg hfailed, if_neg (by simpa using hterminal)]

/-- The goal of the session was requested before, for the same record and epoch, and
    another value is observed. -/
structure ChangedSince (w : System) (session : SessionIntent) (goal : Control × Value) : Prop where
  pursued : w.runner.session = some session
  admissible : session.goal w.state = .ok goal
  settled : w.settled = true
  unseen : ∀ state, w.state = some state → Value.shows (state.value goal.1) goal.2 = false
  requested : ∃ a ∈ w.attempts, a.same (w.attemptAt session goal) = true

/-- The ticks of a run are steady. -/
def SteadyRun (cfg : RuntimeConfig) (start : Start) (run : List Op) : Prop :=
  ∀ n op w, run[n]? = some op → (systemAt cfg start run n).pursues op = some w →
    w.steady cfg = true

theorem systemAt_remembers {cfg : RuntimeConfig} {start : Start} {run : List Op}
    (hticks : ∀ op ∈ run, op.ticking = true) (hsteady : SteadyRun cfg start run) (n : ℕ) :
    (systemAt cfg start run n).attempts.Pairwise (fun a b => a.same b = false) ∧
      (Remembers (systemAt cfg start run n) ∨ Dead (systemAt cfg start run n)) := by
  induction n with
  | zero =>
    refine ⟨.nil, Or.inl ⟨.nil, ?_, ?_, ?_, fun _ _ _ => rfl, rfl⟩⟩
    all_goals
      intro a ha
      cases ha
  | succ n ih =>
    cases hop : run[n]? with
    | none => rw [systemAt_succ_none hop]; exact ih
    | some op =>
      rw [systemAt_succ hop]
      obtain ⟨honce, hrem | hdead⟩ := ih
      · rcases step_remembers hrem (systemAt_owns cfg start run n)
          (hticks op (List.mem_of_getElem? hop)) (hsteady n op · hop) with h | ⟨h, heq⟩
        · exact ⟨h.guarded.once, Or.inl h⟩
        · exact ⟨by rw [heq]; exact honce, Or.inr h⟩
      · obtain ⟨h, hrequests, -⟩ := step_dead cfg hdead op
        refine ⟨?_, Or.inr h⟩
        unfold attempts
        rw [hrequests]
        exact honce

/-- **One request for each record, control, goal and epoch**, in every run of steady
    ticks; and a tick that finds another value than the one it has requested does not
    request it again, and reports the change once the command has ended. -/
theorem requested_once (cfg : RuntimeConfig) (start : Start) (run : List Op)
    (hticks : ∀ op ∈ run, op.ticking = true) (hsteady : SteadyRun cfg start run) :
    (∀ n, (systemAt cfg start run n).attempts.Pairwise fun a b => a.same b = false) ∧
      ∀ n op w session goal, run[n]? = some op → (systemAt cfg start run n).pursues op = some w →
        ChangedSince w session goal →
          (systemAt cfg start run (n + 1)).attempts = (systemAt cfg start run n).attempts ∧
          (((w.runner.intent.bind w.commands.engine.intent).all fun intent =>
              intent.stage.terminal ∧ intent.stage ≠ .failed) = true →
            (systemAt cfg start run (n + 1)).runner.blockedReason = some .setpointChanged) := by
  refine ⟨fun n => (systemAt_remembers hticks hsteady n).1, ?_⟩
  intro n op w session goal hop hpursues hchanged
  obtain ⟨hlock, hstep, hattempts, hrem⟩ := step_pursues cfg hpursues
  have hw : Remembers w := by
    rcases (systemAt_remembers hticks hsteady n).2 with h | h
    · exact hrem h
    · exfalso
      unfold pursues at hpursues
      split at hpursues
      · simp [h.failed] at hpursues
      · split at hpursues
        · next next hsaving => exact h.lock next .tick hsaving
        · cases hpursues
      · cases hpursues
  obtain ⟨a, ha, hsame⟩ := hchanged.requested
  have hpursue : w.pursue cfg = w.block (some w.progress) := by
    unfold pursue
    rw [hchanged.pursued]
    exact hw.pursued_again hchanged.pursued hlock (hsteady n op w hop hpursues) hchanged.admissible
      hchanged.settled hchanged.unseen ha hsame
  rw [systemAt_succ hop, hstep, hpursue]
  refine ⟨hattempts, fun hended => ?_⟩
  show some w.progress = _
  rw [progress_changed hended]

/-- A session at 102 °F that goes back to 98 °F. -/
def refreshSession : Session := ⟨⟨0, 3600, 102, 98, .fahrenheit, .preheating⟩, by decide +kernel⟩

/-- The runner is constructed with it. -/
def refreshStart : Start where
  session := some (.session refreshSession)
  wall := 1

/-- The runner requests its goal, and what `prepare` hands out is sent. -/
def requestRun : List Op :=
  let opening := sampleOpening (sampleStatus 98 1 true) ++ [.asyncTick]
  let handed := ((systemAt sampleRuntime refreshStart opening 10).prepare sampleRuntime
    (fun _ => true) 0).1
  opening ++ [.prepare (fun _ => true) 0] ++ handed.toList.map (.sent · 0 none)

/-- The connection shows a setpoint, and the runner ticks. -/
def sampleShown (state : ConnectionState) (target : UInt8) (time : ℕ) : List Op :=
  [.clock 1 time, .publish (sampleSnapshot state (sampleStatus target 1 true) (time + 1) time),
    .update time, .asyncTick]

/-- The goal is reached, and the setpoint is changed at the panel. -/
def panelRun : List Op := requestRun ++ sampleShown .ready 102 1 ++ sampleShown .ready 100 2

theorem requested_once_sample :
    (systemAt sampleRuntime refreshStart panelRun 20).attempts.length = 1 ∧
      (systemAt sampleRuntime refreshStart panelRun 20).runner.blockedReason =
        some .setpointChanged ∧
      (systemAt sampleRuntime refreshStart panelRun 20).attempts.Pairwise
        fun a b => a.same b = false := by
  have hsteps : ∀ n < 20, panelRun[n]?.all (fun op =>
      ((systemAt sampleRuntime refreshStart panelRun n).pursues op).all (steady sampleRuntime)) =
        true := by
    decide +kernel
  refine ⟨by decide +kernel, by decide +kernel,
    (requested_once sampleRuntime refreshStart panelRun (by decide +kernel) ?_).1 20⟩
  intro n op w hop hw
  obtain ⟨hlt, -⟩ := List.getElem?_eq_some_iff.mp hop
  have hlength : panelRun.length = 20 := by decide +kernel
  have hn := hsteps n (hlength ▸ hlt)
  rw [hop, Option.all_some, hw, Option.all_some] at hn
  exact hn

/-- After the change the connection synchronizes again, in the same epoch. -/
def refreshRun : List Op := panelRun ++ sampleShown .synchronizing 100 3 ++ sampleShown .ready 100 4

/-- The refresh makes the runner forget what it has requested: it requests the goal
    again, against the panel. -/
theorem requested_twice :
    (∀ op ∈ refreshRun, op.ticking = true) ∧
      ¬ (systemAt sampleRuntime refreshStart refreshRun 28).attempts.Pairwise
        (fun a b => a.same b = false) := by
  refine ⟨by decide +kernel, ?_⟩
  decide +kernel

end System

end BalboaRs485
