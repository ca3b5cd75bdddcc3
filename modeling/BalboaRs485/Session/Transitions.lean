import BalboaRs485.Session.Absorbing
import BalboaRs485.Session.Restoration

/-!
# What a bathing session can raise

Every transition of a bathing session constructs a new one, and the constructor checks
the whole checkpoint again.

* `capture_raises_iff`: the checkpoint that captures the High target is the only one that
  can fail, on a target no session can hold.
* `reconcile_raises_iff`: so this is all that `reconcile` can raise.
* `adjust_raises_iff`: `adjust` raises for an ended session and for a time out of range.
* `transitions_closed`: all three, over all runs.
-/

namespace BalboaRs485

namespace RangeSession

theorem make_raises_iff {r : RangeRecord} : (∃ e, make r = .error e) ↔ ¬ r.Checked := by
  rw [← RangeRecord.check_ok_iff]
  unfold make
  constructor
  · rintro ⟨e, he⟩ hcheck
    rw [dif_pos hcheck] at he
    cases he
  · intro hcheck
    rw [dif_neg hcheck]
    split
    · exact ⟨_, rfl⟩
    · exact ⟨_, rfl⟩

/-- Whatever is captured, the checkpoint is consistent. -/
theorem capture_consistent {s : RangeSession} (h : s.step = .activateHigh) (high : ℚ) :
    RangeRecord.Consistent { s.toRangeRecord with
      originalHigh := some high
      targetOwned := high < s.minimum
      step := .setTarget } := by
  have hc := s.valid.consistent
  have hphase := hc.preheating (by simp [h, RangeStep.restoring]) (by simp [h])
  exact
    { phase := by simp [hphase, RangeStep.restoring]
      high := by simp
      owned := fun howned => ⟨high, rfl, by simpa using howned⟩
      modeOwned := hc.modeOwned
      restoreMode := by simp
      preheating := fun _ _ => hphase
      ownedHeating := fun _ => by simp
      modeEarly := fun _ => hc.modeEarly (Or.inl h)
      modeLate := by simp }

/-- The High target is captured if a session can hold it. -/
theorem capture_raises_iff {s : RangeSession} (h : s.step = .activateHigh) {high : ℚ} :
    (∃ e, s.capture high = .error e) ↔ ¬ Representable s.unit high := by
  have hv := s.valid
  unfold capture
  rw [make_raises_iff, not_iff_not]
  constructor
  · exact fun hchecked => hchecked.originalHigh high rfl
  · intro hrepresentable
    refine ⟨hv.times, hv.minimum, hv.maintenance, ?_, hv.originalMode, capture_consistent h high⟩
    rintro _ ⟨⟩
    exact hrepresentable

/-! ## `reconcile` -/

/-- The observation lets a session in its first step advance. -/
def Activated (s : RangeSession) (state : SpaState) : Prop :=
  state.status.unit = s.unit ∧ state.validate .highRange (.bool true) = .ok () ∧
    state.status.highRange = true

theorem shows_highRange_iff {state : SpaState} {b : Bool} :
    Value.shows (state.value .highRange) (.bool b) = true ↔ state.status.highRange = b := by
  refine ⟨shows_highRange, ?_⟩
  rintro rfl
  simp [SpaState.value, Value.shows]

theorem reconcile_activate {s : RangeSession} (h : s.step = .activateHigh) {now : ℚ}
    (hnow : now < s.endTime) (state : SpaState) :
    (s.Activated state ∧ s.reconcile now (some state) = s.advance state) ∨
      (¬ s.Activated state ∧ s.reconcile now (some state) = .ok (some s)) := by
  have hcurrent : s.current now = s := if_neg (not_le.mpr hnow)
  have hgoal : s.stepGoal state = .ok (.highRange, .bool true) := by
    unfold stepGoal
    rw [h]
  unfold reconcile Activated goal
  rw [hcurrent]
  by_cases hunit : state.status.unit = s.unit
  · simp only [hunit, hgoal, ne_eq, not_true_eq_false, if_false, true_and]
    cases hvalid : state.validate .highRange (.bool true) with
    | error e => simp
    | ok _ => simp only [shows_highRange_iff, true_and]; split <;> simp_all
  · simp [hunit]

/-- The session waits for the High range, and is shown one with a target that no session can
    hold. -/
def CaptureFails (s : RangeSession) (now : ℚ) (o : Option SpaState) : Prop :=
  s.step = .activateHigh ∧ now < s.endTime ∧ ∃ state high, o = some state ∧ s.Activated state ∧
    state.status.targetTemperature = some high ∧ ¬ Representable s.unit high

/-- A session that is ended is not in its first step. -/
theorem current_activate {s : RangeSession} {now : ℚ} (h : (s.current now).step = .activateHigh) :
    now < s.endTime ∧ s.step = .activateHigh := by
  unfold current at h
  split at h
  · have hrestoring := s.cancel.valid.consistent.phase.mpr s.cancel_phase
    rw [h] at hrestoring
    cases hrestoring
  · next hnow => exact ⟨not_le.mp hnow, h⟩

/-- **All that `reconcile` raises** is that the High target cannot be captured. -/
theorem reconcile_raises_iff (s : RangeSession) (now : ℚ) (o : Option SpaState) :
    (∃ e, s.reconcile now o = .error e) ↔ s.CaptureFails now o := by
  constructor
  · rintro ⟨e, he⟩
    obtain ⟨state, rfl, hadvance⟩ : ∃ state, o = some state ∧
        (s.current now).advance state = .error e := by
      rcases s.reconcile_case now o with hkept | ⟨state, -, rfl, -, -, hadvance⟩
      · cases hkept.symm.trans he
      · exact ⟨state, rfl, hadvance.symm.trans he⟩
    obtain ⟨hnow, hstep⟩ := current_activate (advance_raises hadvance)
    have hcurrent : s.current now = s := if_neg (not_le.mpr hnow)
    rw [hcurrent] at hadvance
    rcases reconcile_activate hstep hnow state with ⟨hactivated, -⟩ | ⟨-, hkept⟩
    · unfold advance at hadvance
      rw [hstep] at hadvance
      dsimp only at hadvance
      split at hadvance
      · cases hadvance
      next high htarget =>
      refine ⟨hstep, hnow, state, high, rfl, hactivated, htarget, ?_⟩
      rw [← capture_raises_iff hstep]
      cases hcapture : s.capture high with
      | error e' => exact ⟨e', rfl⟩
      | ok s' =>
        rw [hcapture] at hadvance
        cases hadvance
    · rw [hkept] at he
      cases he
  · rintro ⟨hstep, hnow, state, high, rfl, hactivated, htarget, hhigh⟩
    rcases reconcile_activate hstep hnow state with ⟨-, hrec⟩ | ⟨hno, -⟩
    · obtain ⟨e, he⟩ := (capture_raises_iff hstep).mpr hhigh
      refine ⟨e, hrec.trans ?_⟩
      unfold advance
      rw [hstep]
      simp only [htarget, he]
      rfl
    · exact absurd hactivated hno

/-! ## `adjust` -/

/-- `adjust` refuses an ended session. -/
def Ended (s : RangeSession) (now : ℚ) : Prop := s.phase = .restoring ∨ s.endTime ≤ now

/-- The end time an adjustment asks for. -/
def adjustedEnd (s : RangeSession) (seconds : ℚ) : ℚ := max s.startTime (s.endTime + seconds)

/-- A time in the envelope is a valid end. -/
theorem adjusted_times (s : RangeSession) {seconds : ℚ} (h : s.adjustedEnd seconds ≤ 253402300799) :
    ValidTimes s.startTime (s.adjustedEnd seconds) :=
  ⟨s.valid.times.1, le_max_left _ _, h⟩

/-- The plain session `adjust` delegates to. -/
theorem session_made (s : RangeSession) : ∃ session : Session,
    Session.make ⟨s.startTime, s.endTime, s.minimum, s.maintenance, s.unit, s.phase⟩ = .ok session ∧
      session.toSessionRecord =
        ⟨s.startTime, s.endTime, s.minimum, s.maintenance, s.unit, s.phase⟩ := by
  have hchecked : SessionRecord.check
      ⟨s.startTime, s.endTime, s.minimum, s.maintenance, s.unit, s.phase⟩ = .ok () :=
    Session.check_ok_iff.mpr ⟨s.valid.times, s.valid.minimum, s.valid.maintenance⟩
  exact ⟨⟨_, hchecked⟩, dif_pos hchecked, rfl⟩

/-- The adjusted plain session. -/
theorem session_adjusted {s : RangeSession} {session : Session}
    (hrecord : session.toSessionRecord =
      ⟨s.startTime, s.endTime, s.minimum, s.maintenance, s.unit, s.phase⟩) (now seconds : ℚ) :
    (s.Ended now ∧ session.adjust now seconds = .error .ended) ∨
      (¬ s.Ended now ∧ 253402300799 < s.adjustedEnd seconds ∧
        session.adjust now seconds = .error .timeRange) ∨
      (¬ s.Ended now ∧ s.adjustedEnd seconds ≤ 253402300799 ∧ ∃ adjusted : Session,
        session.adjust now seconds = .ok adjusted ∧ adjusted.endTime = s.adjustedEnd seconds) := by
  have hended : (session.phase = .restoring ∨ session.endTime ≤ now) ↔ s.Ended now := by
    rw [hrecord]
    rfl
  unfold Session.adjust
  by_cases hover : s.Ended now
  · exact Or.inl ⟨hover, if_pos (hended.mpr hover)⟩
  right
  rw [if_neg (hended.not.mpr hover)]
  have hend : max session.startTime (session.endTime + seconds) = s.adjustedEnd seconds := by
    rw [hrecord]
    rfl
  by_cases hrange : s.adjustedEnd seconds ≤ 253402300799
  · refine Or.inr ⟨hover, hrange, ?_⟩
    have hchecked : SessionRecord.check { session.toSessionRecord with
        endTime := s.adjustedEnd seconds
        phase := if s.adjustedEnd seconds ≤ now then .restoring else session.phase } = .ok () := by
      rw [hrecord]
      exact Session.check_ok_iff.mpr ⟨s.adjusted_times hrange, s.valid.minimum, s.valid.maintenance⟩
    dsimp only
    rw [hend]
    exact ⟨⟨_, hchecked⟩, dif_pos hchecked, rfl⟩
  · refine Or.inl ⟨hover, not_le.mp hrange, ?_⟩
    have hcheck : SessionRecord.check { session.toSessionRecord with
        endTime := s.adjustedEnd seconds
        phase := if s.adjustedEnd seconds ≤ now then .restoring else session.phase } =
          .error .timeRange := if_pos fun htimes => hrange htimes.2.2
    dsimp only
    rw [hend]
    unfold Session.make
    rw [dif_neg (by rw [hcheck]; simp), hcheck]

/-- **All that `adjust` raises** is that the session is ended, or that its end would be out of
    range. -/
theorem adjust_raises_iff (s : RangeSession) (now seconds : ℚ) (e : SessionError) :
    s.adjust now seconds = .error e ↔ (e = .ended ∧ s.Ended now) ∨
      (e = .timeRange ∧ ¬ s.Ended now ∧ 253402300799 < s.adjustedEnd seconds) := by
  obtain ⟨session, hmade, hrecord⟩ := s.session_made
  unfold adjust
  rw [hmade]
  dsimp only
  rcases session_adjusted hrecord now seconds with ⟨hover, hadjust⟩ | ⟨hover, hrange, hadjust⟩ |
    ⟨hover, hrange, adjusted, hadjust, hend⟩
  · simp [hadjust, hover, eq_comm]
  · simp [hadjust, hover, hrange, eq_comm]
  · obtain ⟨updated, hupdated⟩ := make_of_checked
      (r := { s.toRangeRecord with endTime := s.adjustedEnd seconds })
      { s.valid with times := s.adjusted_times hrange, consistent := { s.valid.consistent with } }
    simp [hadjust, hend, hupdated, hover, not_lt.mpr hrange]

/-! ## Runs -/

/-- What a call may raise: the capture that fails, and the refusals of `adjust`. A record with
    an identifier is always read back. -/
def MayRaise (s : RangeSession) : Call → RecordError → Prop
  | .reconcile now o, e => s.CaptureFails now o ∧ ∃ e', e = .session e'
  | .adjust now seconds, e => (e = .session .ended ∧ s.Ended now) ∨
    (e = .session .timeRange ∧ ¬ s.Ended now ∧ 253402300799 < s.adjustedEnd seconds)
  | .reload, e => e = .identity ∧ 16 ^ 32 ≤ s.operationId
  | .cancel, _ | .releaseTarget, _ => False

theorem call_raises {s : RangeSession} {c : Call} {e : RecordError} (h : s.call c = .error e) :
    s.MayRaise c e := by
  cases c with
  | reconcile now o =>
    cases hrec : s.reconcile now o with
    | error e' =>
      simp only [call, hrec] at h
      cases h
      exact ⟨(s.reconcile_raises_iff now o).mp ⟨e', hrec⟩, e', rfl⟩
    | ok next =>
      simp only [call, hrec] at h
      cases h
  | cancel => cases h
  | adjust now seconds =>
    cases hadjust : s.adjust now seconds with
    | error e' =>
      simp only [call, hadjust] at h
      cases h
      rcases (s.adjust_raises_iff now seconds e').mp hadjust with ⟨rfl, hended⟩ | ⟨rfl, hrange⟩
      · exact Or.inl ⟨rfl, hended⟩
      · exact Or.inr ⟨rfl, hrange⟩
    | ok s' =>
      simp only [call, hadjust] at h
      cases h
  | releaseTarget => cases h
  | reload =>
    simp only [call, fromRecord_toRecord] at h
    split at h
    · cases h
    · next hid =>
      cases h
      exact ⟨rfl, not_lt.mp hid⟩

/-- What the transitions of a bathing session guarantee in a run. -/
structure TransitionsClosed (s : RangeSession) (run : List Call) : Prop where
  /-- `reconcile` returns a session or `None` unless the capture fails. -/
  reconcile : ∀ k s₁ now o, sessionAt s run k = some s₁ →
    ((∃ next, s₁.reconcile now o = .ok next) ↔ ¬ s₁.CaptureFails now o)
  adjust : ∀ k s₁ now seconds e, sessionAt s run k = some s₁ →
    (s₁.adjust now seconds = .error e ↔ (e = .ended ∧ s₁.Ended now) ∨
      (e = .timeRange ∧ ¬ s₁.Ended now ∧ 253402300799 < s₁.adjustedEnd seconds))
  /-- Whatever a call of the run has raised. -/
  raises : ∀ k e, (machine s).outAt run k = some (some e) →
    ∃ c s₁, run[k]? = some c ∧ sessionAt s run k = some s₁ ∧ s₁.MayRaise c e

/-- **Transitions are total** up to the capture of the High target, in every run. -/
theorem transitions_closed (s : RangeSession) (run : List Call) : TransitionsClosed s run where
  reconcile k s₁ now o _ := by
    rw [← reconcile_raises_iff]
    cases s₁.reconcile now o with
    | error e => simp
    | ok next => simp
  adjust k s₁ now seconds e _ := s₁.adjust_raises_iff now seconds e
  raises k e hout := by
    obtain ⟨c, hc, hstep⟩ := (machine s).outAt_eq_some.mp hout
    cases hs : (machine s).stateAt run k with
    | none =>
      rw [hs] at hstep
      cases hstep
    | some s₁ =>
      refine ⟨c, s₁, hc, hs, ?_⟩
      rw [hs] at hstep
      cases hcall : s₁.call c with
      | ok next =>
        simp only [machine, hcall] at hstep
        cases hstep
      | error e' =>
        simp only [machine, hcall] at hstep
        obtain rfl := Option.some.inj hstep
        exact call_raises hcall

/-- A session that is started in the Low range is shown the High range at 106 °F, and raises. -/
theorem capture_unrepresentable :
    RangeSession.start 0 3600 (73 / 2) 7 (some (sampleSeen 90 1 false)) = .ok sampleSession ∧
      decodeMessage (sampleSeen 106 1 true).status.frame =
        .ok (.status (sampleSeen 106 1 true).status) ∧
      sampleSession.reconcile 1 (some (sampleSeen 106 1 true)) = .error .temperature :=
  ⟨by decide +kernel, by decide +kernel, by decide +kernel⟩

end RangeSession

end BalboaRs485
