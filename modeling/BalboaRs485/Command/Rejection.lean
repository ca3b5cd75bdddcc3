import BalboaRs485.Command.Budget
import BalboaRs485.Command.Convergence

/-!
# Calls that raise

`request` advances the time before most of its checks; `sent` has only noted the time of
the receipt. Neither has changed anything else when it raises.

* `requestCall`: `request` on whatever numbers a caller gives, finite or not.
* `tick_live`: of the pending goals, time only ends those that are overdue, and a reminder
  acknowledgement of unknown outcome.
* `plan_valueError`: planning a goal that was admitted only raises what `next_action` catches.
* `rejected_intact`: so a refused replacement leaves the goal it was to replace.
-/

namespace BalboaRs485

namespace Engine

/-- The arguments of `request` as a caller gives them; its times are floats. -/
structure Call where
  control : Control
  desired : Desired
  now : ℚ
  deadline : Option Number := none
  deferFor : Number := .finite 0
  replacePending : Bool := false

/-- The deadline and the defer time, if they pass the first check (lines 245–251). -/
def Call.times (c : Call) : Option (Option ℚ × ℚ) :=
  match c.deferFor with
  | .nonfinite => none
  | .finite deferFor =>
    if deferFor < 0 then none
    else
      match c.deadline with
      | none => some (none, deferFor)
      | some .nonfinite => none
      | some (.finite deadline) => if deadline ≤ c.now then none else some (some deadline, deferFor)

/-- What `request` raises for a desired float that is not finite (lines 262–282). -/
def nonfiniteRefusal (cfg : EngineConfig) (s : Engine) (c : Call) : RequestError :=
  let replacing : Bool := c.replacePending ∧ c.control.isPump ∧
    (s.latestIntent c.control).any fun existing => ¬ existing.stage.terminal
  match s.state with
  | none => .notFresh
  | some state =>
    if ¬ replacing ∧ ¬ (state.available ∧ fresh cfg c.now state.observedAt) then .notFresh
    else if c.control = .filters ∧ ¬ state.filtersAt.any (fresh cfg c.now) then .filterRecord
    else
      .invalid ((if replacing then { state with available := true }
        else state).nonfiniteError c.control)

/-- `request` (lines 235–307) on the arguments of a caller. -/
def requestCall (cfg : EngineConfig) (s : Engine) (c : Call) :
    Except RequestError Intent × Engine :=
  match c.times with
  | none => (.error .deadline, s)
  | some (deadline, deferFor) =>
    match c.desired with
    | .value desired =>
      s.request cfg ⟨c.control, desired, c.now, deadline, deferFor, c.replacePending⟩
    | .nonfinite => (.error ((s.tick cfg c.now).nonfiniteRefusal cfg c), s.tick cfg c.now)

/-- A request as a call. -/
def Request.call (r : Request) : Call :=
  ⟨r.control, .value r.desired, r.now, r.deadline.map .finite, .finite r.deferFor, r.replacePending⟩

/-- On finite numbers the call is the request. -/
theorem requestCall_call (cfg : EngineConfig) (s : Engine) (r : Request) :
    s.requestCall cfg r.call = s.request cfg r := by
  obtain ⟨control, desired, now, deadline, deferFor, replacePending⟩ := r
  unfold requestCall Request.call Call.times
  dsimp only
  by_cases hdefer : deferFor < 0
  · rw [if_pos hdefer]
    unfold request
    rw [if_pos (Or.inr hdefer)]
  rw [if_neg hdefer]
  cases deadline with
  | none => rfl
  | some d =>
    dsimp only [Option.map_some]
    by_cases hd : d ≤ now
    · rw [if_pos hd]
      unfold request
      rw [if_pos (Or.inl (by simpa using hd))]
    · rw [if_neg hd]

/-! ## Time and pending goals -/

variable {cfg : EngineConfig} {s s' : Engine}

/-- How `tick` moves a goal: back to the queue, or to its end when it is overdue or a
    reminder acknowledgement. -/
def Elapses (now : ℚ) (item : Intent) (stage : Stage) : Prop :=
  stage = .queued ∨ overdue now item = true ∨ item.control = .ackReminder

theorem elapses_closeAmbiguous (s : Engine) (pending : Transaction) (result : Stage)
    (reason : Reason) (now t : ℚ) :
    Updates (Elapses t) s (s.closeAmbiguous pending result reason now) := by
  unfold closeAmbiguous
  dsimp only
  set closed : Engine := { s with
    history := s.history.setLast
      { pending with result, completedAt := some now, reason := some reason }
    resyncEpoch := some pending.action.epoch
    settling := none
    inflight := none } with hclosed
  have hsame : Updates (Elapses t) s closed := .same ⟨rfl, rfl, rfl, rfl⟩
  split
  · exact hsame
  · next current hcur =>
    split
    · exact hsame
    · split
      · next hack =>
        refine hsame.trans (.update fun item hi => Or.inr (Or.inr ?_))
        obtain rfl := Option.some.inj (hcur.symm.trans hi)
        exact hack
      · exact hsame.trans (.update fun item hi => Or.inl rfl)

theorem elapses_tick (cfg : EngineConfig) (hr : IntentRep s) (now : ℚ) :
    Updates (Elapses now) s (s.tick cfg now) := by
  have hsame := sameGoals_now s now
  have hexp : Updates (Elapses now) s (({ s with now }).expireDeadlines now) :=
    (Updates.same hsame).trans
      ((updates_overdue (hsame.rep hr) now).mono fun _ _ hover => Or.inr (Or.inl hover))
  unfold tick
  dsimp only
  split
  · exact hexp
  · split
    · exact hexp.trans (elapses_closeAmbiguous _ _ _ _ _ _)
    · exact hexp

/-- **Time keeps a pending goal pending**, unless its deadline has come. -/
theorem tick_live (cfg : EngineConfig) (hr : IntentRep s) {now : ℚ} {id : ℕ} {item : Intent}
    (hi : s.intent id = some item) (hlive : item.stage.terminal = false)
    (hcontrol : item.control ≠ .ackReminder) (hdeadline : ∀ d ∈ item.deadline, now < d) :
    ∃ item', (s.tick cfg now).intent id = some item' ∧ item'.goal = item.goal ∧
      item'.stage.terminal = false := by
  have hticks := elapses_tick cfg hr now
  obtain ⟨item', hi', -⟩ := hticks.exists_of_intent hr hi
  obtain ⟨first, hfirst, hgoal, hcase⟩ := hticks.evolves hr hi'
  rw [hi] at hfirst
  cases hfirst
  refine ⟨item', hi', hgoal, ?_⟩
  rcases hcase with rfl | ⟨before, hbefore, hstage | hover | hack⟩
  · exact hlive
  · rw [hstage]
    rfl
  · obtain ⟨-, d, hd, hle⟩ := overdue_iff.mp hover
    rw [goal_deadline hbefore] at hd
    exact absurd (hdeadline d hd) (not_lt.mpr hle)
  · rw [intent_control hbefore] at hack
    exact absurd hack hcontrol

theorem latestIntent_eq {control : Control} {item : Intent} (hr : IntentRep s)
    (h : s.latestIntent control = some item) :
    s.latest.get? control = some item.id ∧ s.intent item.id = some item ∧
      item.control = control := by
  obtain ⟨id, hid, hitem⟩ := Option.bind_eq_some_iff.mp h
  obtain ⟨item', hi', hc, hid'⟩ := intent_of_latest hr hid
  rw [hitem] at hi'
  cases hi'
  rw [hid']
  exact ⟨hid, hitem, hc⟩

/-! ## Goals that were admitted -/

/-- A goal is admitted on an observation that validates it. -/
theorem admitOn_validated {r : Request} {o : SpaState} (h : s.admitOn cfg r = .ok o) :
    ∃ o' : SpaState, o'.validate r.control r.desired = .ok () := by
  have hstate := admitOn_state h
  unfold admitOn at h
  simp only [hstate] at h
  split at h
  · cases h
  split at h
  · cases h
  generalize hverdict : SpaState.validate _ r.control r.desired = verdict at h
  cases verdict with
  | error e => cases h
  | ok => exact ⟨_, hverdict⟩

/-- All goals have been validated once. -/
def Validated (s : Engine) : Prop :=
  ∀ id item, s.intent id = some item → ∃ o : SpaState, o.validate item.control item.desired = .ok ()

theorem Validated.updates {W : Intent → Stage → Prop} (h : Validated s) (hr : IntentRep s)
    (hu : Updates W s s') : Validated s' := by
  intro id item' hi
  obtain ⟨item, hitem, hgoal, -⟩ := hu.evolves hr hi
  have hdesired : item'.desired = item.desired := by
    simpa [Intent.goal] using congrArg Intent.desired hgoal
  rw [intent_control hgoal, hdesired]
  exact h id item hitem

theorem step_validated (cfg : EngineConfig) (hr : IntentRep s) (h : Validated s) (op : EngineOp) :
    Validated (s.step cfg op).1 := by
  by_cases hop : ∃ r, op = .request r
  · obtain ⟨r, rfl⟩ := hop
    obtain ⟨e, s', -, hs', hu⟩ | ⟨new, s₁, hok, hu, -, hc, hd, -, -, hnew, -, -, hrest, -⟩ :=
      request_intents cfg r hr
    · exact (show (s.step cfg (.request r)).1 = s' from hs') ▸ h.updates hr hu
    · intro id item hi
      by_cases hid : id = new.id
      · subst hid
        obtain rfl := Option.some.inj (hnew.symm.trans hi)
        obtain ⟨o, hadmitted, -⟩ := request_ok hok
        rw [hc, hd]
        exact admitOn_validated hadmitted
      · exact h.updates hr hu id item (hrest id item hi hid)
  · exact h.updates hr (step_moves cfg hr fun r hr' => hop ⟨r, hr'⟩)

/-- **`next_action` catches whatever `plan` raises**: on a goal of a reachable engine that is a
    `ValueError`. -/
theorem plan_valueError (cfg : EngineConfig) (ops : List EngineOp) (n : ℕ) {id : ℕ} {item : Intent}
    (h : (engineAt cfg ops n).intent id = some item) (o : SpaState) :
    plan o item.control item.desired ≠ .error (.invalid .overflow) := by
  have hvalidated : Validated (engineAt cfg ops n) :=
    ((engineMachine cfg).stateAt_invariant (P := fun s => IntentRep s ∧ Validated s)
      ⟨intentRep_init, fun _ _ hi => by cases hi⟩
      (fun s op ⟨hr, hv⟩ => ⟨(step_intent cfg hr op).1, step_validated cfg hr hv op⟩) ops n).2
  obtain ⟨first, hfirst⟩ := hvalidated id item h
  intro hplan
  have herror : o.validate item.control item.desired = .error .overflow := by
    unfold plan at hplan
    split at hplan
    · next e he =>
      obtain rfl := PlanError.invalid.inj (Except.error.inj hplan)
      exact he
    · next hvalid =>
      obtain ⟨step, hstep⟩ := plan_ok hvalid
      unfold plan at hstep
      simp only [hvalid] at hstep
      rw [hstep] at hplan
      cases hplan
  obtain ⟨-, hcontrol, hover⟩ := validate_overflow_iff.mp herror
  have hagain := validate_overflow_iff.mpr ⟨safeFor_of_validate hfirst, hcontrol, hover⟩
  rw [hfirst] at hagain
  cases hagain

/-! ## Refused calls -/

/-- **A refused request** leaves the engine as it was, or as `tick` has left it. -/
theorem requestCall_error {c : Call} {e : RequestError} (h : s.requestCall cfg c = (.error e, s')) :
    s' = if c.times.isSome then s.tick cfg c.now else s := by
  unfold requestCall at h
  split at h
  · next hnone =>
    cases h
    rw [hnone]
    rfl
  · next deadline deferFor htimes =>
    rw [htimes]
    have hfirst : ¬ ((deadline.any fun d => d ≤ c.now) = true ∨ deferFor < 0) := by
      unfold Call.times at htimes
      grind
    split at h
    · unfold request at h
      rw [if_neg hfirst] at h
      dsimp only at h
      split at h
      · cases h
        rfl
      · cases h
    · cases h
      rfl

/-- **A refused receipt** leaves everything but the time. -/
theorem sent_error {action : Action} {at_ : ℚ} {ctsAt : Option ℚ} {e : SentError}
    (h : s.sent cfg action at_ ctsAt = (.error e, s')) : s' = { s with now := at_ } := by
  unfold sent at h
  dsimp only at h
  split at h
  · cases h
    rfl
  · split at h
    · cases h
      rfl
    · cases h

/-- Time keeps the latest goal of a control pending, with its deadline and its actions. -/
theorem tick_latest (cfg : EngineConfig) (hr : IntentRep s) {now : ℚ} {control : Control}
    {item : Intent} (h : s.latestIntent control = some item) (hlive : item.stage.terminal = false)
    (hcontrol : control ≠ .ackReminder) (hdeadline : ∀ d ∈ item.deadline, now < d) :
    ∃ item', (s.tick cfg now).latestIntent control = some item' ∧ item'.goal = item.goal ∧
      item'.stage.terminal = false := by
  obtain ⟨hlatest, hi, hc⟩ := latestIntent_eq hr h
  rw [← hc] at hcontrol
  obtain ⟨item', hi', hgoal, hlive'⟩ := tick_live cfg hr hi hlive hcontrol hdeadline
  refine ⟨item', ?_, hgoal, hlive'⟩
  unfold latestIntent
  rw [(updates_tick hr cfg now).latest, hlatest]
  exact hi'

/-- **Rejected calls leave the engine intact**: a refused request leaves the engine that time
    has made, or the one before if its times are invalid, and in it the goal of the control
    with its deadline and budget; a refused receipt leaves all but the time. -/
theorem rejected_intact (cfg : EngineConfig) (ops : List EngineOp) (n : ℕ) :
    (∀ c e s', (engineAt cfg ops n).requestCall cfg c = (.error e, s') →
      (s' = if c.times.isSome then (engineAt cfg ops n).tick cfg c.now else engineAt cfg ops n) ∧
      ∀ item, (engineAt cfg ops n).latestIntent c.control = some item →
        item.stage.terminal = false → c.control ≠ .ackReminder →
        (∀ d ∈ item.deadline, c.now < d) →
        ∃ item', s'.latestIntent c.control = some item' ∧ item'.goal = item.goal ∧
          item'.deadline = item.deadline ∧ item'.stage.terminal = false ∧
          s'.actions = (engineAt cfg ops n).actions) ∧
    ∀ action at_ ctsAt e s', (engineAt cfg ops n).sent cfg action at_ ctsAt = (.error e, s') →
      s' = { engineAt cfg ops n with now := at_ } := by
  have hr := stateAt_rep cfg ops n
  refine ⟨fun c e s' h => ?_, fun action at_ ctsAt e s' h => sent_error h⟩
  have heq := requestCall_error h
  refine ⟨heq, fun item hitem hlive hcontrol hdeadline => ?_⟩
  rw [heq]
  split
  · obtain ⟨item', hi', hgoal, hlive'⟩ := tick_latest cfg hr hitem hlive hcontrol hdeadline
    exact ⟨item', hi', hgoal, goal_deadline hgoal, hlive', tick_actions cfg _ c.now⟩
  · exact ⟨item, hitem, rfl, rfl, hlive, rfl⟩

end Engine

end BalboaRs485
