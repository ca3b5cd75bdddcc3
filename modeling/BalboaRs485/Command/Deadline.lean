import BalboaRs485.Command.Readback

/-!
# Deadlines and confirmation windows

`next_action` hands a goal out while its deadline leaves room for
`confirmation_timeout`; `tick` waits for the confirmation of a filter write
`filter_confirmation_timeout`, which is longer.

* `handed_goal`: the goal of an action is the latest goal of its control, as it was
  stored before the call.
* `Fits.unexpired`: a goal whose window fits its deadline is not overdue inside it.
* `confirmation_fits`: the window of every action fits, a short filter goal excepted.
* `filters_unfit`: an action whose window does not fit.
-/

namespace BalboaRs485

namespace Engine

variable {cfg : EngineConfig} {ops : List EngineOp} {n : ℕ} {now : ℚ} {action : Action}

/-- The deadline of the goal leaves room for the window `tick` applies to the control. -/
def Fits (cfg : EngineConfig) (action : Action) (now : ℚ) : Prop :=
  ∀ d, action.intent.deadline = some d → cfg.timeoutOf action.intent.control ≤ d - now

/-- Call `n` hands out `action` and the next one transmits it, both at `now`; in a later
    state, inside the confirmation window, a `tick` finds the goal overdue. -/
def ExpiresOpen (cfg : EngineConfig) (ops : List EngineOp) (n : ℕ) (action : Action) (now : ℚ) :
    Prop :=
  ops[n]? = some (.nextAction now) ∧ (∃ ctsAt, ops[n + 1]? = some (.sent action now ctsAt)) ∧
    ∃ k t item, n + 2 ≤ k ∧ t - now < cfg.timeoutOf action.intent.control ∧
      (engineAt cfg ops k).intent action.intent.id = some item ∧ overdue t item = true

/-- The latest goal of the control is a filter schedule whose deadline is closer than the
    confirmation window of filter writes. -/
def ShortFilters (cfg : EngineConfig) (s : Engine) (control : Control) (now : ℚ) : Prop :=
  control = .filters ∧ ∃ goal d, s.latestIntent control = some goal ∧ goal.deadline = some d ∧
    d - now < cfg.filterConfirmationTimeout

/-- The goal of an action is the latest one of its control. -/
theorem handed_goal (h : ((engineAt cfg ops n).nextAction cfg now).1 = some action) :
    ∃ goal, (engineAt cfg ops n).latestIntent action.intent.control = some goal ∧
      action.intent.goal = goal.goal := by
  have hr := stateAt_rep cfg ops n
  obtain ⟨-, -, -, -, -, hlatest, -⟩ := nextAction_intent hr h
  obtain ⟨goal, hi, -, hg⟩ := nextAction_pending hr h
  refine ⟨goal, ?_, hg⟩
  rw [latestIntent, hlatest]
  exact hi

/-- The deadline always leaves room for `confirmation_timeout`. -/
theorem handed_deadline (h : ((engineAt cfg ops n).nextAction cfg now).1 = some action) {d : ℚ}
    (hd : action.intent.deadline = some d) : cfg.confirmationTimeout ≤ d - now := by
  obtain ⟨o, spent, -, -, hproposed, -, -⟩ := nextAction_intent (stateAt_rep cfg ops n) h
  exact hproposed.deadline d hd

theorem fits_iff (h : ((engineAt cfg ops n).nextAction cfg now).1 = some action) :
    Fits cfg action now ↔
      ¬ (engineAt cfg ops n).ShortFilters cfg action.intent.control now := by
  obtain ⟨goal, hgoal, hg⟩ := handed_goal h
  have hdeadline : action.intent.deadline = goal.deadline := goal_deadline hg
  constructor
  · rintro hfits ⟨hfilters, goal', d, hgoal', hd, hshort⟩
    obtain rfl := Option.some.inj (hgoal.symm.trans hgoal')
    have hroom := hfits d (hdeadline.trans hd)
    rw [EngineConfig.timeoutOf, if_pos hfilters] at hroom
    exact absurd hroom (not_le.mpr hshort)
  · intro hshort d hd
    unfold EngineConfig.timeoutOf
    split
    · next hfilters =>
      by_contra hlt
      exact hshort ⟨hfilters, goal, d, hgoal, hdeadline ▸ hd, not_le.mp hlt⟩
    · exact handed_deadline h hd

/-- Inside a window that fits, the goal is never overdue: it keeps its deadline. -/
theorem Fits.unexpired (hfits : Fits cfg action now)
    (h : ((engineAt cfg ops n).nextAction cfg now).1 = some action) :
    ¬ ExpiresOpen cfg ops n action now := by
  rintro ⟨hop, -, k, t, item, hk, hopen, hi, hover⟩
  obtain ⟨-, d, hd, hle⟩ := overdue_iff.mp hover
  have hg := goal_mono (intent_handed hop h) (by omega : n + 1 ≤ k) hi
  have hroom := hfits d ((goal_deadline hg).symm.trans hd)
  linarith

/-! ## A filter goal with a deadline -/

def filterGoalState : SpaState :=
  { sampleState (sampleStatus 98 0 true) 1 1 0 with
    filters := some (sampleFilters 12 (by decide)), filtersAt := some 0 }

def filterGoalRequest (deadline : ℚ) : Request where
  control := .filters
  desired := .filters (sampleFilters 13 (by decide)).schedule
  now := 0
  deadline := some deadline

/-- The first filter cycle is to start at one in the afternoon, before the deadline. -/
def filterGoalRun (deadline : ℚ) : List EngineOp :=
  [.observe filterGoalState 0, .request (filterGoalRequest deadline)]

/-- The engine after the observation. -/
def filterGoalIdle : Engine := { state := some filterGoalState }

def filterGoal (deadline : ℚ) : Intent :=
  filterGoalIdle.newIntent (filterGoalRequest deadline) filterGoalState (some deadline)

/-- The engine after the request. -/
def filterGoalEngine (deadline : ℚ) : Engine :=
  { filterGoalIdle with
    counter := 1
    intents := Deque.empty.append (filterGoal deadline)
    latest := Dict.empty.set .filters 1
    active := Dict.empty.set 1 (filterGoal deadline)
    actions := Dict.empty.set .filters 0 }.record (filterGoal deadline) .requested

theorem filterGoal_observed (cfg : EngineConfig) (deadline : ℚ) :
    engineAt cfg (filterGoalRun deadline) 1 = filterGoalIdle := rfl

theorem filterGoal_fresh (cfg : EngineConfig) : fresh cfg 0 0 = true := by
  simp [fresh, cfg.maxAge_pos]

theorem filterGoal_admitted (cfg : EngineConfig) (deadline : ℚ) :
    filterGoalIdle.admitOn cfg (filterGoalRequest deadline) = .ok filterGoalState := by
  have hvalid : filterGoalState.validate .filters (filterGoalRequest deadline).desired = .ok () := by
    change filterGoalState.validate .filters (filterGoalRequest 0).desired = .ok ()
    decide +kernel
  have hreplacing : filterGoalIdle.replacing (filterGoalRequest deadline) = false := rfl
  simp only [filterGoalIdle] at hreplacing ⊢
  unfold admitOn
  simp [hreplacing, hvalid, show (filterGoalRequest deadline).control = .filters from rfl,
    show (filterGoalRequest deadline).now = 0 from rfl, show filterGoalState.available = true from rfl,
    show filterGoalState.observedAt = 0 from rfl, show filterGoalState.filtersAt = some 0 from rfl,
    filterGoal_fresh cfg]

theorem filterGoal_requested (cfg : EngineConfig) {deadline : ℚ} (h : 0 < deadline) :
    engineAt cfg (filterGoalRun deadline) 2 = filterGoalEngine deadline := by
  have hop : (filterGoalRun deadline)[1]? = some (.request (filterGoalRequest deadline)) := rfl
  have htick : filterGoalIdle.tick cfg (filterGoalRequest deadline).now = filterGoalIdle := rfl
  have hreplacing : filterGoalIdle.replacing (filterGoalRequest deadline) = false := rfl
  rw [engineAt_succ hop, filterGoal_observed]
  show (filterGoalIdle.request cfg (filterGoalRequest deadline)).2 = _
  unfold request
  rw [if_neg (by simp [filterGoalRequest, not_le.mpr h]), htick]
  simp only [filterGoal_admitted, hreplacing]
  rfl

theorem filterGoal_ticked (cfg : EngineConfig) {deadline : ℚ} (h : 0 < deadline) :
    (filterGoalEngine deadline).tick cfg 0 = filterGoalEngine deadline := by
  have hdue : overdue 0 (filterGoal deadline) = false := by
    simpa [overdue, filterGoal, newIntent] using fun _ => h
  have hexpire : ({ filterGoalEngine deadline with now := 0 }).expireDeadlines 0 =
      filterGoalEngine deadline := by
    show List.foldl _ _ [filterGoal deadline] = _
    rw [List.foldl_cons, if_neg (by simp [hdue])]
    rfl
  unfold tick
  rw [hexpire]
  rfl

/-- The goal is proposed if its deadline leaves room for `confirmation_timeout`. -/
theorem filterGoal_proposed (cfg : EngineConfig) {deadline : ℚ}
    (h : cfg.confirmationTimeout ≤ deadline) :
    ∃ action, propose cfg filterGoalState 0 0 (filterGoal deadline) .filters = .act action := by
  have hplan : (plan filterGoalState .filters (filterGoalRequest 0).desired).isOk = true := by
    decide +kernel
  have hshown : Value.shows (filterGoalState.value .filters) (filterGoalRequest 0).desired ≠ true := by
    decide +kernel
  have hbudget : ¬ cfg.maxActions ≤ 0 := not_le.mpr cfg.maxActions_pos
  have hdesired : (filterGoal deadline).desired = (filterGoalRequest 0).desired := rfl
  unfold propose
  rw [if_neg (by simp), if_neg (by decide +kernel), hdesired, if_neg hshown, if_neg, if_neg,
    if_neg hbudget]
  · cases hp : plan filterGoalState .filters (filterGoalRequest 0).desired with
    | error e => rw [hp] at hplan; cases hplan
    | ok result => exact ⟨_, rfl⟩
  · simp [filterGoal, newIntent, h]
  · simp [filterGoal, newIntent, filterGoalRequest]

theorem filterGoal_handed (cfg : EngineConfig) {deadline : ℚ}
    (h : cfg.confirmationTimeout ≤ deadline) :
    ∃ action, ((engineAt cfg (filterGoalRun deadline) 2).nextAction cfg 0).1 = some action ∧
      action.intent.control = .filters ∧ action.intent.deadline = some deadline := by
  have hpos : 0 < deadline := (cfg.guard_pos.trans cfg.guard_lt_timeout).trans_le h
  obtain ⟨action, hpropose⟩ := filterGoal_proposed cfg h
  have hintent := (propose_act hpropose).intent
  refine ⟨action, ?_, by rw [hintent]; rfl, by rw [hintent]; rfl⟩
  rw [filterGoal_requested cfg hpos]
  unfold nextAction
  rw [filterGoal_ticked cfg hpos]
  show (if filterGoalState.available = true ∧ fresh cfg 0 0 = true then
    nextActionLoop cfg filterGoalState 0 [(.filters, 1)] (filterGoalEngine deadline) else _).1 = _
  rw [if_pos ⟨rfl, filterGoal_fresh cfg⟩]
  have hgoal : (filterGoalEngine deadline).intent 1 = some (filterGoal deadline) := rfl
  have hlive : (filterGoal deadline).stage.terminal = false := rfl
  have hspent : ((filterGoalEngine deadline).actions.get? .filters).getD 0 = 0 := rfl
  simp only [nextActionLoop, hgoal, hlive, hspent, hpropose]
  rfl

/-- **The confirmation window of an action fits the deadline of its goal, unless that is a
    filter goal with a short deadline**; so it always does exactly when filter writes have no
    longer window than the others. -/
theorem confirmation_fits (cfg : EngineConfig) :
    (∀ ops n now action control, ((engineAt cfg ops n).nextAction cfg now).1 = some action →
      action.intent.control = control →
      ((Fits cfg action now ∧ ¬ ExpiresOpen cfg ops n action now) ↔
        ¬ (engineAt cfg ops n).ShortFilters cfg control now)) ∧
    ((∀ ops n now action, ((engineAt cfg ops n).nextAction cfg now).1 = some action →
      Fits cfg action now ∧ ¬ ExpiresOpen cfg ops n action now) ↔
        cfg.filterConfirmationTimeout ≤ cfg.confirmationTimeout) := by
  refine ⟨fun ops n now action control h hcontrol => ?_, fun hall => ?_,
    fun hle ops n now action h => ?_⟩
  · subst hcontrol
    exact ⟨fun hboth => (fits_iff h).mp hboth.1,
      fun hshort => ⟨(fits_iff h).mpr hshort, ((fits_iff h).mpr hshort).unexpired h⟩⟩
  · obtain ⟨action, hact, hfilters, hd⟩ := filterGoal_handed cfg le_rfl
    have hroom := (hall _ _ _ _ hact).1 _ hd
    rw [EngineConfig.timeoutOf, if_pos hfilters] at hroom
    linarith
  · have hfits : Fits cfg action now := by
      intro d hd
      have hroom := handed_deadline h hd
      unfold EngineConfig.timeoutOf
      split
      · exact hle.trans hroom
      · exact hroom
    exact ⟨hfits, hfits.unexpired h⟩

/-- The configuration of a runtime with the default timing: a filter write is confirmed
    within nine seconds (`runtime.py` lines 226–230). -/
def runtimeConfig : EngineConfig :=
  { EngineConfig.default with
    filterConfirmationTimeout := 9
    guard_lt_filterTimeout := by norm_num [EngineConfig.default] }

/-- A filter goal due in five seconds is handed out. -/
theorem filters_unfit :
    ¬ ∀ (cfg : EngineConfig) (ops : List EngineOp) (n : ℕ) (now : ℚ) (action : Action),
      ((engineAt cfg ops n).nextAction cfg now).1 = some action → Fits cfg action now := by
  intro h
  have htimeout : runtimeConfig.confirmationTimeout ≤ 5 := by
    norm_num [runtimeConfig, EngineConfig.default]
  obtain ⟨action, hact, hfilters, hd⟩ := filterGoal_handed runtimeConfig htimeout
  have hroom := h _ _ _ _ _ hact 5 hd
  rw [EngineConfig.timeoutOf, if_pos hfilters] at hroom
  norm_num [runtimeConfig] at hroom

end Engine

end BalboaRs485
