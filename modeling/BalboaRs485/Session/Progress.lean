import BalboaRs485.Session.Range

/-!
# Records only move forward

What the session runner relies on: the goal of a record is a function of the record,
it is admissible on the observation it was computed on, and `reconcile` either keeps
a record or moves it to a later phase or step, so no record is met twice. Once a record
restores, or its time is over, only restoration is left.
-/

namespace BalboaRs485

/-! ## Goals -/

/-- A goal of a session is the one of its phase, and admissible. -/
theorem Session.goal_ok {s : Session} {o : Option SpaState} {g : Control × Value}
    (h : s.goal o = .ok g) :
    g = (.target, .float (if s.phase = .restoring then s.maintenance else s.target)) ∧
      ∃ state, o = some state ∧ state.validate g.1 g.2 = .ok () := by
  unfold Session.goal at h
  split at h
  · cases h
  next state =>
  split at h
  · cases h
  dsimp only at h
  split at h
  · cases h
  next hvalid =>
  cases h
  exact ⟨rfl, state, rfl, hvalid⟩

/-- The goal of a step, whatever is observed. -/
def RangeSession.goalOf (s : RangeSession) : Control × Value :=
  match s.step with
  | .activateHigh => (.highRange, .bool true)
  | .setTarget | .active => (.target, .float s.target)
  | .restoreHigh => (.target, .float (s.originalHigh.getD 0))
  | .setMode => (.heatMode, .mode .ready)
  | .restoreRange => (.highRange, .bool s.originalRange)
  | .restoreMode => (.heatMode, .mode s.originalMode)

/-- The observation only decides whether a step has a goal. A temperature is only a
    goal in the High range. -/
theorem RangeSession.stepGoal_ok {s : RangeSession} {state : SpaState} {g : Control × Value}
    (h : s.stepGoal state = .ok g) :
    g = s.goalOf ∧ (g.1 = .target → state.status.highRange = true) := by
  unfold stepGoal at h
  unfold goalOf
  dsimp only at h
  cases hstep : s.step <;> simp only [hstep] at h ⊢
  case activateHigh | restoreRange =>
    obtain rfl := Except.ok.inj h
    exact ⟨rfl, by simp⟩
  case setMode | restoreMode =>
    split at h
    · cases h
    · obtain rfl := Except.ok.inj h
      exact ⟨rfl, by simp⟩
  all_goals
    split at h
    · cases h
    next hhigh =>
    split at h
    · cases h
    next high horiginal =>
    split at h
    · cases h
    split at h
    · cases h
    cases h
    exact ⟨by simp [horiginal], fun _ => by simpa using hhigh⟩

theorem RangeSession.goal_ok {s : RangeSession} {o : Option SpaState} {g : Control × Value}
    (h : s.goal o = .ok g) :
    g = s.goalOf ∧ ∃ state, o = some state ∧ state.validate g.1 g.2 = .ok () ∧
      (g.1 = .target → state.status.highRange = true) := by
  unfold goal at h
  split at h
  · cases h
  next state =>
  split at h
  · cases h
  split at h
  · cases h
  next goal hgoal =>
  split at h
  · cases h
  next hvalid =>
  cases h
  obtain ⟨hof, hhigh⟩ := stepGoal_ok hgoal
  exact ⟨hof, state, rfl, hvalid, hhigh⟩

/-! ## Sessions -/

/-- The order of the phases. -/
def SessionPhase.rank : SessionPhase → ℕ
  | preheating => 0
  | targetReached => 1
  | holding => 2
  | restoring => 3

theorem Session.cancel_rank (s : Session) : s.cancel = s ∨ s.phase.rank < s.cancel.phase.rank := by
  have hcancel : s.cancel.phase = .restoring := rfl
  rw [hcancel]
  cases h : s.phase with
  | restoring =>
    left
    obtain ⟨r, hr⟩ := s
    unfold cancel
    simp only at h ⊢
    congr 1
    rw [← h]
  | preheating | targetReached | holding => exact Or.inr (by decide)

/-- The session `reconcile` goes on with. -/
def Session.current (s : Session) (now : ℚ) : Session := if s.endTime ≤ now then s.cancel else s

/-- What `reconcile` makes of the current session. -/
inductive Session.ReconcileCase (s : Session) : Option Session → Prop where
  | kept : ReconcileCase s (some s)
  | restored (hphase : s.phase = .restoring) : ReconcileCase s none
  | heated (s' : Session) (hphase : s.phase = .preheating ∨ s.phase = .targetReached)
      (h : s'.toSessionRecord = { s.toSessionRecord with
        phase := if s.phase = .preheating then .targetReached else .holding }) :
      ReconcileCase s (some s')

theorem Session.reconcile_case (s : Session) (now : ℚ) (o : Option SpaState) :
    (s.current now).ReconcileCase (s.reconcile now o) := by
  unfold reconcile
  dsimp only
  rw [← current]
  split
  · split
    · exact .kept
    split
    · next hphase => exact .restored hphase
    split
    · next hheated => exact .heated _ hheated.1 rfl
    · exact .kept
  · exact .kept

/-- A session is kept, or moved to a later phase. -/
theorem Session.reconcile_rank {s s' : Session} {now : ℚ} {o : Option SpaState}
    (h : s.reconcile now o = some s') : s' = s ∨ s.phase.rank < s'.phase.rank := by
  have hfirst : s.current now = s ∨ s.phase.rank < (s.current now).phase.rank := by
    unfold current
    split
    · exact s.cancel_rank
    · exact Or.inl rfl
  have hcase := s.reconcile_case now o
  rw [h] at hcase
  cases hcase with
  | kept => exact hfirst
  | heated _ hphase hr =>
    right
    have hle : s.phase.rank ≤ (s.current now).phase.rank := by
      rcases hfirst with h | h
      · rw [h]
      · exact h.le
    refine hle.trans_lt ?_
    rw [hr]
    show (s.current now).phase.rank <
      (if (s.current now).phase = .preheating then SessionPhase.targetReached else .holding).rank
    rcases hphase with hp | hp <;> rw [hp] <;> decide

/-! ## Bathing sessions -/

/-- The order of the steps; an active session passes through the phases. -/
def RangeRecord.rank (r : RangeRecord) : ℕ :=
  match r.step with
  | .activateHigh => 0
  | .setTarget => 1
  | .setMode => 2
  | .active => 3 + min 2 r.phase.rank
  | .restoreHigh => 6
  | .restoreRange => 7
  | .restoreMode => 8

theorem RangeRecord.rank_lt_of_heating {r : RangeRecord} (h : r.step.restoring = false) :
    r.rank < 6 := by
  unfold rank
  cases hs : r.step <;> simp_all [RangeStep.restoring]
  omega

/-- The steps of a session that does not restore are those before the restoration. -/
theorem RangeSession.heating_step {s : RangeSession} (h : s.phase ≠ .restoring) :
    s.step.restoring = false :=
  Bool.eq_false_iff.mpr fun hstep => h (s.valid.consistent.phase.mp hstep)

theorem RangeSession.cancel_rank (s : RangeSession) : s.cancel = s ∨ s.rank < s.cancel.rank := by
  unfold cancel
  split
  · exact Or.inl rfl
  · next hphase =>
    right
    refine (RangeRecord.rank_lt_of_heating (heating_step hphase)).trans_le ?_
    simp only [RangeRecord.rank]
    cases s.targetOwned <;> decide

/-- A checked constructor that returns a session. -/
theorem RangeSession.map_make_ok {r : RangeRecord} {result : Option RangeSession}
    (h : (make r).map some = .ok result) : ∃ s, result = some s ∧ s.toRangeRecord = r := by
  cases hm : make r with
  | error e => rw [hm] at h; cases h
  | ok s =>
    rw [hm] at h
    cases h
    exact ⟨s, rfl, make_ok hm⟩

/-- What `reconcile` makes of a session whose goal is observed. -/
inductive RangeSession.AdvanceCase (s : RangeSession) (state : SpaState) :
    Option RangeSession → Prop where
  | kept : AdvanceCase s state (some s)
  | captured (s' : RangeSession) (high : ℚ) (hstep : s.step = .activateHigh)
      (htarget : state.status.targetTemperature = some high)
      (h : s'.toRangeRecord = { s.toRangeRecord with
        originalHigh := some high
        targetOwned := high < s.minimum
        step := .setTarget }) : AdvanceCase s state (some s')
  | targetSet (s' : RangeSession) (hstep : s.step = .setTarget)
      (h : s'.toRangeRecord = { s.toRangeRecord with
        modeOwned := s.originalMode ≠ .ready
        step := .setMode }) : AdvanceCase s state (some s')
  | enabled (s' : RangeSession) (hstep : s.step = .setMode)
      (h : s'.toRangeRecord = { s.toRangeRecord with step := .active }) :
      AdvanceCase s state (some s')
  | heated (s' : RangeSession) (hstep : s.step = .active)
      (h : s'.toRangeRecord = { s.toRangeRecord with
        phase := if s.phase ≠ .preheating then .holding else .targetReached }) :
      AdvanceCase s state (some s')
  | highRestored (s' : RangeSession) (hstep : s.step = .restoreHigh)
      (h : s'.toRangeRecord = { s.toRangeRecord with step := .restoreRange }) :
      AdvanceCase s state (some s')
  | rangeRestored (s' : RangeSession) (hstep : s.step = .restoreRange) (howned : s.modeOwned = true)
      (h : s'.toRangeRecord = { s.toRangeRecord with step := .restoreMode }) :
      AdvanceCase s state (some s')
  | ended (h : s.step = .restoreRange ∧ s.modeOwned = false ∨ s.step = .restoreMode) :
      AdvanceCase s state none

theorem RangeSession.advance_case {s : RangeSession} {state : SpaState} {next : Option RangeSession}
    (h : s.advance state = .ok next) : s.AdvanceCase state next := by
  unfold advance at h
  split at h
  · next hs =>
    split at h
    · cases h
      exact .kept
    · next high htarget =>
      obtain ⟨s', rfl, hrecord⟩ := map_make_ok h
      exact .captured s' high hs htarget hrecord
  · next hs =>
    obtain ⟨s', rfl, hrecord⟩ := map_make_ok h
    exact .targetSet s' hs hrecord
  · next hs =>
    obtain ⟨s', rfl, hrecord⟩ := map_make_ok h
    exact .enabled s' hs hrecord
  · next hs =>
    obtain ⟨s', rfl, hrecord⟩ := map_make_ok h
    exact .highRestored s' hs hrecord
  · next hs =>
    split at h
    · next howned =>
      obtain ⟨s', rfl, hrecord⟩ := map_make_ok h
      exact .rangeRestored s' hs howned hrecord
    · next howned =>
      cases h
      exact .ended (Or.inl ⟨hs, by simpa using howned⟩)
  · next hs =>
    cases h
    exact .ended (Or.inr hs)
  · next hs =>
    split at h
    · obtain ⟨s', rfl, hrecord⟩ := map_make_ok h
      exact .heated s' hs hrecord
    · cases h
      exact .kept

/-- A session is active in every phase but the last. -/
theorem RangeSession.active_phase {s : RangeSession} (h : s.step = .active) :
    s.phase ≠ .restoring := by
  intro hphase
  have hrestoring := s.valid.consistent.phase.mpr hphase
  rw [h] at hrestoring
  cases hrestoring

/-- A bathing session is kept, or moved to a later step or phase. -/
theorem RangeSession.advance_rank {s s' : RangeSession} {state : SpaState}
    (h : s.advance state = .ok (some s')) : s' = s ∨ s.rank < s'.rank := by
  cases advance_case h with
  | kept => exact Or.inl rfl
  | captured _ high hs _ hr | targetSet _ hs hr | highRestored _ hs hr | rangeRestored _ hs _ hr =>
    right
    rw [hr]
    simp [RangeRecord.rank, hs]
  | enabled _ hs hr =>
    right
    rw [hr]
    simp only [RangeRecord.rank, hs]
    omega
  | heated _ hs hr =>
    cases hp : s.phase with
    | restoring => exact absurd hp (active_phase hs)
    | preheating | targetReached =>
      right
      rw [hr]
      simp [RangeRecord.rank, hs, hp, SessionPhase.rank]
    | holding =>
      -- a holding session is heated again
      left
      obtain ⟨r, hchecked⟩ := s
      obtain ⟨r', hchecked'⟩ := s'
      simp only at hr hp
      congr 1
      rw [hr, if_pos (by rw [hp]; decide), ← hp]

theorem RangeSession.reconcile_rank {s s' : RangeSession} {now : ℚ} {o : Option SpaState}
    (h : s.reconcile now o = .ok (some s')) : s' = s ∨ s.rank < s'.rank := by
  have hfirst : s.current now = s ∨ s.rank < (s.current now).rank := by
    unfold current
    split
    · exact s.cancel_rank
    · exact Or.inl rfl
  rcases s.reconcile_case now o with hkept | ⟨state, -, -, -, -, hadvance⟩
  · obtain rfl := Option.some.inj (Except.ok.inj (hkept.symm.trans h))
    exact hfirst
  · rcases advance_rank (hadvance ▸ h) with rfl | hlt
    · exact hfirst
    · rcases hfirst with heq | hlt'
      · rw [heq] at hlt
        exact Or.inr hlt
      · exact Or.inr (hlt'.trans hlt)

/-- An adjusted session is the same until a later time, or it is cancelled. -/
theorem RangeSession.adjust_case {s s' : RangeSession} {now seconds : ℚ}
    (h : s.adjust now seconds = .ok s') :
    s.phase ≠ .restoring ∧ ∃ updated : RangeSession, ∃ endTime,
      updated.toRangeRecord = { s.toRangeRecord with endTime } ∧
        (s' = updated ∨ s' = updated.cancel) := by
  unfold adjust at h
  split at h
  · cases h
  next session hsession =>
  split at h
  · cases h
  next adjusted hadjusted =>
  split at h
  · cases h
  next updated hupdated =>
  refine ⟨fun hphase => ?_, updated, adjusted.endTime, make_ok hupdated, ?_⟩
  · have hrecord := Session.make_ok hsession
    unfold Session.adjust at hadjusted
    rw [if_pos (Or.inl (by rw [hrecord]; exact hphase))] at hadjusted
    cases hadjusted
  · split at h
    · exact Or.inr (Except.ok.inj h).symm
    · exact Or.inl (Except.ok.inj h).symm

/-! ## Ended records -/

/-- A session that restores, or whose time is over, is restoring or over afterwards. -/
theorem Session.reconcile_over {s : Session} {now : ℚ} (h : s.phase = .restoring ∨ s.endTime ≤ now)
    (o : Option SpaState) : ∀ s', s.reconcile now o = some s' → s'.phase = .restoring := by
  intro s' hs'
  have hcurrent : (s.current now).phase = .restoring := by
    unfold current
    split
    · rfl
    · next hnow => exact h.resolve_right hnow
  have hcase := s.reconcile_case now o
  rw [hs'] at hcase
  cases hcase with
  | kept => exact hcurrent
  | heated _ hphase =>
    rw [hcurrent] at hphase
    simp at hphase

theorem RangeSession.cancel_phase (s : RangeSession) : s.cancel.phase = .restoring := by
  unfold cancel
  split
  · assumption
  · rfl

/-- A restoring step leads to a restoring one, or to the end. -/
theorem RangeSession.advance_over {s : RangeSession} (h : s.phase = .restoring) (state : SpaState) :
    ∃ next, s.advance state = .ok next ∧ ∀ s', next = some s' → s'.phase = .restoring := by
  have hstep : s.step.restoring = true := s.valid.consistent.phase.mpr h
  have hheating : ∀ {step}, s.step = step → step.restoring ≠ true → False := by
    rintro step rfl hne
    exact hne hstep
  cases hadvance : s.advance state with
  | error e => exact (hheating (advance_raises hadvance) (by decide)).elim
  | ok next =>
    refine ⟨next, rfl, fun s' hs' => ?_⟩
    subst hs'
    cases advance_case hadvance with
    | kept => exact h
    | highRestored _ hs hr | rangeRestored _ hs _ hr =>
      rw [hr]
      exact h
    | captured _ high hs => exact (hheating hs (by decide)).elim
    | targetSet _ hs | enabled _ hs | heated _ hs => exact (hheating hs (by decide)).elim

theorem RangeSession.reconcile_over {s : RangeSession} {now : ℚ}
    (h : s.phase = .restoring ∨ s.endTime ≤ now) (o : Option SpaState) :
    ∃ next, s.reconcile now o = .ok next ∧ ∀ s', next = some s' → s'.phase = .restoring := by
  have hcurrent : (s.current now).phase = .restoring := by
    unfold current
    split
    · exact s.cancel_phase
    · next hnow => exact h.resolve_right hnow
  rcases s.reconcile_case now o with hkept | ⟨state, -, -, -, -, hadvance⟩
  · refine ⟨_, hkept, ?_⟩
    rintro s' ⟨⟩
    exact hcurrent
  · rw [hadvance]
    exact advance_over hcurrent state

end BalboaRs485
