import BalboaRs485.Session.Basic
import Mathlib.Tactic.Linarith

/-!
# Bathing sessions

Model of `range_session.py`: a session that selects the High range, raises its
target and enables heating, and restores all three afterwards, one step at a
time. A `RangeSession` is a `RangeRecord` that passed `check`, the `__post_init__`
of the source; the record is what the storage keeps.

* `cancel_checked`, `releaseTarget_checked`: the `replace` calls of `cancel` and
  `release_target` cannot raise.
* `advance_raises`: neither can those of `reconcile`, with one exception: capturing
  the High target fails on an unrepresentable temperature.
-/

namespace BalboaRs485

/-- `RangeStep`. -/
inductive RangeStep where
  | activateHigh
  | setTarget
  | setMode
  | active
  | restoreHigh
  | restoreRange
  | restoreMode
deriving DecidableEq

namespace RangeStep

/-- `restoring` (lines 62–66). -/
def restoring : RangeStep → Bool
  | restoreHigh | restoreRange | restoreMode => true
  | _ => false

/-- `requires_high` (lines 67–72). -/
def requiresHigh : RangeStep → Bool
  | setTarget | setMode | active | restoreHigh => true
  | _ => false

end RangeStep

/-- The fields of `RangeSession`; `operation_id` is the number behind the
    canonical UUID. -/
structure RangeRecord where
  startTime : ℚ
  endTime : ℚ
  minimum : ℚ
  maintenance : ℚ
  unit : TemperatureUnit
  originalRange : Bool
  originalMode : HeatMode
  originalHigh : Option ℚ := none
  step : RangeStep := .activateHigh
  phase : SessionPhase := .preheating
  targetOwned : Bool := false
  modeOwned : Bool := false
  operationId : ℕ
deriving DecidableEq

namespace RangeRecord

/-- The two `Session` constructions of the check (lines 46–50). -/
def checkSessions (r : RangeRecord) : Except SessionError Unit :=
  match (SessionRecord.mk r.startTime r.endTime r.minimum r.maintenance r.unit r.phase).check,
    r.originalHigh with
  | .error e, _ => .error e
  | .ok (), none => .ok ()
  | .ok (), some high =>
    (SessionRecord.mk r.startTime r.endTime high r.maintenance r.unit .preheating).check

/-- The last condition of the check (lines 73–93), negated. -/
structure Consistent (r : RangeRecord) : Prop where
  phase : r.step.restoring = true ↔ r.phase = .restoring
  high : r.step.requiresHigh = true ∨ r.originalRange = true → r.originalHigh ≠ none
  owned : r.targetOwned = true → ∃ high, r.originalHigh = some high ∧ high < r.minimum
  modeOwned : r.modeOwned = true → r.originalMode = .rest
  restoreMode : r.step = .restoreMode → r.modeOwned = true
  preheating : r.step.restoring = false → r.step ≠ .active → r.phase = .preheating
  ownedHeating : r.step = .setTarget ∨ r.step = .setMode ∨ r.step = .active →
    (r.targetOwned = true ↔ ∃ high, r.originalHigh = some high ∧ high < r.minimum)
  modeEarly : r.step = .activateHigh ∨ r.step = .setTarget → r.modeOwned = false
  modeLate : r.step = .setMode ∨ r.step = .active →
    (r.modeOwned = true ↔ r.originalMode = .rest)

/-- `original_high is not None and original_high < minimum`. -/
def below (r : RangeRecord) : Bool := r.originalHigh.any fun high => high < r.minimum

theorem below_iff {r : RangeRecord} :
    r.below = true ↔ ∃ high, r.originalHigh = some high ∧ high < r.minimum := by
  simp [below, Option.any_eq_true]

/-- `Consistent` as a test. -/
def consistent (r : RangeRecord) : Bool :=
  (r.step.restoring = decide (r.phase = .restoring)) ∧
    (r.step.requiresHigh ∨ r.originalRange → r.originalHigh.isSome) ∧
    (r.targetOwned → r.below) ∧ (r.modeOwned → r.originalMode = .rest) ∧
    (r.step = .restoreMode → r.modeOwned) ∧
    (¬ r.step.restoring → r.step ≠ .active → r.phase = .preheating) ∧
    (r.step = .setTarget ∨ r.step = .setMode ∨ r.step = .active → r.targetOwned = r.below) ∧
    (r.step = .activateHigh ∨ r.step = .setTarget → ¬ r.modeOwned) ∧
    (r.step = .setMode ∨ r.step = .active → r.modeOwned = decide (r.originalMode = .rest))

theorem consistent_iff {r : RangeRecord} : r.consistent = true ↔ Consistent r := by
  simp only [consistent, decide_eq_true_eq, below_iff, Option.isSome_iff_ne_none]
  constructor
  · rintro ⟨h1, h2, h3, h4, h5, h6, h7, h8, h9⟩
    exact
      { phase := by rw [h1]; simp
        high := h2
        owned := h3
        modeOwned := h4
        restoreMode := h5
        preheating := fun h => h6 (by simp [h])
        ownedHeating := fun h => by rw [h7 h, below_iff]
        modeEarly := fun h => by simpa using h8 h
        modeLate := fun h => by rw [h9 h]; simp }
  · intro h
    refine ⟨?_, h.high, h.owned, h.modeOwned, h.restoreMode,
      fun hr => h.preheating (by simpa using hr),
      fun hs => ?_, fun hs => by simp [h.modeEarly hs], fun hs => ?_⟩
    · rw [Bool.eq_iff_iff, h.phase]; simp
    · rw [Bool.eq_iff_iff, below_iff, h.ownedHeating hs]
    · rw [Bool.eq_iff_iff, h.modeLate hs]; simp

/-- `RangeSession.__post_init__` (lines 45–94). -/
def check (r : RangeRecord) : Except SessionError Unit :=
  match r.checkSessions with
  | .error e => .error e
  | .ok () =>
    if ¬ (r.originalMode = .ready ∨ r.originalMode = .rest) then .error .identity
    else if ¬ r.consistent then .error .checkpoint
    else .ok ()

/-- What a checked record satisfies. -/
structure Checked (r : RangeRecord) : Prop where
  times : ValidTimes r.startTime r.endTime
  minimum : Representable r.unit r.minimum
  maintenance : Representable r.unit r.maintenance
  originalHigh : ∀ high, r.originalHigh = some high → Representable r.unit high
  originalMode : r.originalMode = .ready ∨ r.originalMode = .rest
  consistent : Consistent r

theorem check_ok_iff {r : RangeRecord} : r.check = .ok () ↔ Checked r := by
  have hsessions : r.checkSessions = .ok () ↔ ValidTimes r.startTime r.endTime ∧
      Representable r.unit r.minimum ∧ Representable r.unit r.maintenance ∧
      ∀ high, r.originalHigh = some high → Representable r.unit high := by
    unfold checkSessions
    cases hc : (SessionRecord.mk r.startTime r.endTime r.minimum r.maintenance r.unit r.phase).check with
    | error e =>
      have hne : ¬ _ := fun h => by rw [Session.check_ok_iff.mpr h] at hc; cases hc
      simp only [reduceCtorEq, false_iff]
      exact fun h => hne ⟨h.1, h.2.1, h.2.2.1⟩
    | ok =>
      obtain ⟨h1, h2, h3⟩ := Session.check_ok_iff.mp hc
      cases hh : r.originalHigh with
      | none => simp [h1, h2, h3]
      | some high =>
        simp only [Session.check_ok_iff, h1, h2, h3, true_and, and_true, Option.some.injEq,
          forall_eq']
  unfold check
  constructor
  · intro h
    split at h
    · cases h
    · next hs =>
      split at h
      · cases h
      · next hmode =>
        split at h
        · cases h
        · next hcons =>
          obtain ⟨h1, h2, h3, h4⟩ := hsessions.mp hs
          exact ⟨h1, h2, h3, h4, not_not.mp hmode, consistent_iff.mp (not_not.mp hcons)⟩
  · intro h
    rw [hsessions.mpr ⟨h.times, h.minimum, h.maintenance, h.originalHigh⟩]
    simp [h.originalMode, consistent_iff.mpr h.consistent]

end RangeRecord

/-- `RangeSession`: a record that passed its check. -/
structure RangeSession extends RangeRecord where
  checked : toRangeRecord.check = .ok ()
deriving DecidableEq

namespace RangeSession

/-- The constructor, which runs the check; `replace` is a call of it. -/
def make (r : RangeRecord) : Except SessionError RangeSession :=
  if h : r.check = .ok () then .ok ⟨r, h⟩
  else
    match r.check with
    | .error e => .error e
    | .ok () => .error .checkpoint

theorem make_ok {r : RangeRecord} {s : RangeSession} (h : make r = .ok s) :
    s.toRangeRecord = r := by
  unfold make at h
  split at h
  · cases h; rfl
  · split at h <;> cases h

theorem valid (s : RangeSession) : s.toRangeRecord.Checked := RangeRecord.check_ok_iff.mp s.checked

/-- `target` (lines 97–102). -/
def target (s : RangeSession) : ℚ :=
  match s.originalHigh with
  | some high => max s.minimum high
  | none => s.minimum

/-- `minimum_c`, in Fahrenheit rounded up to a degree (lines 111–115). -/
def startMinimum (minimumC : ℚ) (unit : TemperatureUnit) : ℚ :=
  match unit with
  | .celsius => minimumC
  | .fahrenheit => (⌈minimumC * (9 / 5) + 32⌉ : ℤ)

/-- The record `start` constructs (lines 129–141). -/
def startRecord (now endTime minimum : ℚ) (operationId : ℕ) (state : SpaState) (target : ℚ) :
    RangeRecord :=
  let high := if state.status.highRange then some target else none
  { startTime := now
    endTime
    minimum
    maintenance := target
    unit := state.status.unit
    originalRange := state.status.highRange
    originalMode := if state.status.heatMode = .ready then .ready else .rest
    originalHigh := high
    step := if high.isSome then .setTarget else .activateHigh
    targetOwned := high.any fun high => high < minimum
    operationId }

/-- `start` (lines 105–141). -/
def start (now endTime minimumC : ℚ) (operationId : ℕ) (state : Option SpaState) :
    Except SessionError RangeSession :=
  match state with
  | none => .error .targetUnknown
  | some state =>
    match state.status.targetTemperature with
    | none => .error .targetUnknown
    | some target =>
      let unit := state.status.unit
      if ¬ (10 ≤ minimumC ∧ minimumC ≤ 40) ∨ (minimumC * 2).den ≠ 1 then .error .minimum
      else
        let minimum := startMinimum minimumC unit
        match Session.start now endTime target target unit (some state) with
        | .error e => .error e
        | .ok _ =>
          match state.validate .highRange (.bool true), state.validate .heatMode (.mode .ready),
            ({ state with status := { state.status with highRange := true } }).validate .target
              (.float minimum) with
          | .error e, _, _ => .error (.invalid e)
          | .ok (), .error e, _ => .error (.invalid e)
          | .ok (), .ok (), .error e => .error (.invalid e)
          | .ok (), .ok (), .ok () =>
            make (startRecord now endTime minimum operationId state target)

/-- A session that was started: its record, and the checks it passed. -/
theorem start_ok {now endTime minimumC : ℚ} {operationId : ℕ} {state : SpaState} {s : RangeSession}
    (h : start now endTime minimumC operationId (some state) = .ok s) :
    ∃ target, state.status.targetTemperature = some target ∧
      state.validate .highRange (.bool true) = .ok () ∧
      state.validate .heatMode (.mode .ready) = .ok () ∧
      s.toRangeRecord = startRecord now endTime (startMinimum minimumC state.status.unit)
        operationId state target := by
  unfold start at h
  dsimp only at h
  split at h
  · cases h
  next target htarget =>
  split at h
  · cases h
  split at h
  · cases h
  split at h
  · cases h
  · cases h
  · cases h
  next hrange hmode _ => exact ⟨target, htarget, hrange, hmode, make_ok h⟩

theorem cancel_checked (s : RangeSession) :
    ({ s.toRangeRecord with
        phase := .restoring
        step := if s.targetOwned then .restoreHigh else .restoreRange } : RangeRecord).check =
      .ok () := by
  have h := s.valid
  rw [RangeRecord.check_ok_iff]
  refine ⟨h.times, h.minimum, h.maintenance, h.originalHigh, h.originalMode, ?_⟩
  have hc := h.consistent
  cases ho : s.targetOwned with
  | true =>
    obtain ⟨high, hhigh, hlt⟩ := hc.owned ho
    exact
      { phase := by simp [RangeStep.restoring]
        high := by simp [hhigh]
        owned := fun _ => ⟨high, hhigh, hlt⟩
        modeOwned := hc.modeOwned
        restoreMode := by simp
        preheating := by simp [RangeStep.restoring]
        ownedHeating := by simp
        modeEarly := by simp
        modeLate := by simp }
  | false =>
    exact
      { phase := by simp [RangeStep.restoring]
        high := fun hr => hc.high (hr.imp_left (by simp [RangeStep.requiresHigh]))
        owned := by simp [ho]
        modeOwned := hc.modeOwned
        restoreMode := by simp
        preheating := by simp [RangeStep.restoring]
        ownedHeating := by simp
        modeEarly := by simp
        modeLate := by simp }

/-- `cancel` (lines 143–150). -/
def cancel (s : RangeSession) : RangeSession :=
  if s.phase = .restoring then s
  else
    ⟨{ s.toRangeRecord with
        phase := .restoring
        step := if s.targetOwned then .restoreHigh else .restoreRange }, s.cancel_checked⟩

/-- `adjust` (lines 170–175). -/
def adjust (s : RangeSession) (now seconds : ℚ) : Except SessionError RangeSession :=
  match Session.make ⟨s.startTime, s.endTime, s.minimum, s.maintenance, s.unit, s.phase⟩ with
  | .error e => .error e
  | .ok session =>
    match session.adjust now seconds with
    | .error e => .error e
    | .ok adjusted =>
      match make { s.toRangeRecord with endTime := adjusted.endTime } with
      | .error e => .error e
      | .ok updated => .ok (if adjusted.phase = .restoring then updated.cancel else updated)

theorem releaseTarget_checked (s : RangeSession) :
    ({ s.toRangeRecord with
        targetOwned := false
        phase := .restoring
        step := .restoreRange } : RangeRecord).check = .ok () := by
  have h := s.valid
  rw [RangeRecord.check_ok_iff]
  refine ⟨h.times, h.minimum, h.maintenance, h.originalHigh, h.originalMode, ?_⟩
  have hc := h.consistent
  exact
    { phase := by simp [RangeStep.restoring]
      high := fun hr => hc.high (hr.imp_left (by simp [RangeStep.requiresHigh]))
      owned := by simp
      modeOwned := hc.modeOwned
      restoreMode := by simp
      preheating := by simp [RangeStep.restoring]
      ownedHeating := by simp
      modeEarly := by simp
      modeLate := by simp }

/-- `release_target` (lines 177–181). -/
def releaseTarget (s : RangeSession) : RangeSession :=
  ⟨{ s.toRangeRecord with targetOwned := false, phase := .restoring, step := .restoreRange },
    s.releaseTarget_checked⟩

/-- The goal of a step on an observation in the session's unit, before it is
    validated (lines 232–256). -/
def stepGoal (s : RangeSession) (state : SpaState) : Except SessionError (Control × Value) :=
  let observed := state.status.targetTemperature
  match s.step with
  | .activateHigh => .ok (.highRange, .bool true)
  | .setTarget | .active | .restoreHigh =>
    if ¬ state.status.highRange then .error .rangeConflict
    else
      match s.originalHigh with
      | none => .error .highNotCaptured
      | some high =>
        if ¬ (observed = some high ∨ observed = some s.target) then .error .targetConflict
        else if s.step = .active ∧ state.status.heatMode ≠ .ready then .error .modeConflict
        else .ok (.target, .float (if s.step = .restoreHigh then high else s.target))
  | .setMode =>
    if ¬ state.status.highRange ∨ observed ≠ some s.target then .error .enablingConflict
    else .ok (.heatMode, .mode .ready)
  | .restoreRange => .ok (.highRange, .bool s.originalRange)
  | .restoreMode =>
    if state.status.highRange ≠ s.originalRange then .error .restorationConflict
    else .ok (.heatMode, .mode s.originalMode)

/-- `goal` (lines 229–258). -/
def goal (s : RangeSession) (state : Option SpaState) : Except SessionError (Control × Value) :=
  match state with
  | none => .error .matchingUnits
  | some state =>
    if state.status.unit ≠ s.unit then .error .matchingUnits
    else
      match s.stepGoal state with
      | .error e => .error e
      | .ok goal =>
        match state.validate goal.1 goal.2 with
        | .error e => .error (.invalid e)
        | .ok () => .ok goal

/-- The checkpoint that captures the High target (lines 269–278). -/
def capture (s : RangeSession) (high : ℚ) : Except SessionError RangeSession :=
  make { s.toRangeRecord with
    originalHigh := some high
    targetOwned := high < s.minimum
    step := .setTarget }

/-- The checkpoint after the target is set (lines 279–282). -/
def targetSet (s : RangeSession) : Except SessionError RangeSession :=
  make { s.toRangeRecord with modeOwned := s.originalMode ≠ .ready, step := .setMode }

/-- `replace(current, step=…)`. -/
def toStep (s : RangeSession) (step : RangeStep) : Except SessionError RangeSession :=
  make { s.toRangeRecord with step }

/-- `replace(current, phase=…)` of the active session (lines 291–297). -/
def heated (s : RangeSession) : Except SessionError RangeSession :=
  make { s.toRangeRecord with
    phase := if s.phase ≠ .preheating then .holding else .targetReached }

/-- `reconcile` once the goal of the current step is observed (lines 269–298). -/
def advance (current : RangeSession) (state : SpaState) : Except SessionError (Option RangeSession) :=
  match current.step with
  | .activateHigh =>
    match state.status.targetTemperature with
    | none => .ok (some current)
    | some high => (current.capture high).map some
  | .setTarget => current.targetSet.map some
  | .setMode => (current.toStep .active).map some
  | .restoreHigh => (current.toStep .restoreRange).map some
  | .restoreRange => if current.modeOwned then (current.toStep .restoreMode).map some else .ok none
  | .restoreMode => .ok none
  | .active =>
    if state.status.currentTemperature.any fun t => current.target ≤ t then current.heated.map some
    else .ok (some current)

/-- `self.cancel() if now >= self.end_time else self`. -/
def current (s : RangeSession) (now : ℚ) : RangeSession := if s.endTime ≤ now then s.cancel else s

/-- `reconcile` (lines 260–298). -/
def reconcile (s : RangeSession) (now : ℚ) (state : Option SpaState) :
    Except SessionError (Option RangeSession) :=
  match state, (s.current now).goal state with
  | some state, .ok (control, desired) =>
    if Value.shows (state.value control) desired then (s.current now).advance state
    else .ok (some (s.current now))
  | _, _ => .ok (some (s.current now))

/-- `reconcile` keeps the current session, or advances it because its goal is shown. -/
theorem reconcile_case (s : RangeSession) (now : ℚ) (o : Option SpaState) :
    s.reconcile now o = .ok (some (s.current now)) ∨ ∃ state goal, o = some state ∧
      (s.current now).goal o = .ok goal ∧ Value.shows (state.value goal.1) goal.2 = true ∧
        s.reconcile now o = (s.current now).advance state := by
  unfold reconcile
  split
  · next state control desired hgoal =>
    split
    · next hshow => exact Or.inr ⟨state, (control, desired), rfl, hgoal, hshow, rfl⟩
    · exact Or.inl rfl
  · exact Or.inl rfl

/-! ## Checks that cannot fail -/

theorem make_of_checked {r : RangeRecord} (h : r.Checked) : ∃ s, make r = .ok s := by
  have hc := RangeRecord.check_ok_iff.mpr h
  exact ⟨⟨r, hc⟩, by unfold make; rw [dif_pos hc]⟩

/-- A checkpoint changes the step, the phase and what is owned; the rest was checked before. -/
theorem make_checkpoint (s : RangeSession) (step : RangeStep) (phase : SessionPhase)
    (modeOwned : Bool)
    (h : RangeRecord.Consistent { s.toRangeRecord with step, phase, modeOwned }) :
    ∃ s', make { s.toRangeRecord with step, phase, modeOwned } = .ok s' :=
  have hv := s.valid
  make_of_checked ⟨hv.times, hv.minimum, hv.maintenance, hv.originalHigh, hv.originalMode, h⟩

theorem targetSet_ok {s : RangeSession} (h : s.step = .setTarget) : ∃ s', s.targetSet = .ok s' := by
  have hc := s.valid.consistent
  have hphase := hc.preheating (by simp [h, RangeStep.restoring]) (by simp [h])
  refine s.make_checkpoint .setMode s.phase _ ?_
  exact
    { phase := by simp [hphase, RangeStep.restoring]
      high := fun _ => hc.high (Or.inl (by simp [h, RangeStep.requiresHigh]))
      owned := hc.owned
      modeOwned := fun hm => s.valid.originalMode.resolve_left (by simpa using hm)
      restoreMode := by simp
      preheating := fun _ _ => hphase
      ownedHeating := fun _ => hc.ownedHeating (Or.inl h)
      modeEarly := by simp
      modeLate := fun _ => by rcases s.valid.originalMode with hm | hm <;> simp [hm] }

theorem toStep_active_ok {s : RangeSession} (h : s.step = .setMode) :
    ∃ s', s.toStep .active = .ok s' := by
  have hc := s.valid.consistent
  have hphase := hc.preheating (by simp [h, RangeStep.restoring]) (by simp [h])
  refine s.make_checkpoint .active s.phase s.modeOwned ?_
  exact
    { phase := by simp [hphase, RangeStep.restoring]
      high := fun _ => hc.high (Or.inl (by simp [h, RangeStep.requiresHigh]))
      owned := hc.owned
      modeOwned := hc.modeOwned
      restoreMode := by simp
      preheating := by simp
      ownedHeating := fun _ => hc.ownedHeating (Or.inr (Or.inl h))
      modeEarly := by simp
      modeLate := fun _ => hc.modeLate (Or.inl h) }

/-- The steps of a restoration, in any order that first restores the High target. -/
theorem toStep_restoring_ok {s : RangeSession} (h : s.step.restoring = true) {step : RangeStep}
    (hstep : step.restoring = true) (hhigh : step.requiresHigh = true → s.step.requiresHigh = true)
    (howned : step = .restoreMode → s.modeOwned = true) : ∃ s', s.toStep step = .ok s' := by
  have hc := s.valid.consistent
  refine s.make_checkpoint step s.phase s.modeOwned ?_
  exact
    { phase := by simp [hc.phase.mp h, hstep]
      high := fun hr => hc.high (hr.imp_left hhigh)
      owned := hc.owned
      modeOwned := hc.modeOwned
      restoreMode := howned
      preheating := by simp [hstep]
      ownedHeating := by rintro (rfl | rfl | rfl) <;> cases hstep
      modeEarly := by rintro (rfl | rfl) <;> cases hstep
      modeLate := by rintro (rfl | rfl) <;> cases hstep }

theorem heated_ok {s : RangeSession} (h : s.step = .active) : ∃ s', s.heated = .ok s' := by
  have hc := s.valid.consistent
  refine s.make_checkpoint s.step _ s.modeOwned ?_
  exact
    { phase := by simp only [h, RangeStep.restoring]; split <;> simp
      high := hc.high
      owned := hc.owned
      modeOwned := hc.modeOwned
      restoreMode := hc.restoreMode
      preheating := by simp [h]
      ownedHeating := hc.ownedHeating
      modeEarly := hc.modeEarly
      modeLate := hc.modeLate }

/-- Only the capture of the High target can fail. -/
theorem advance_raises {s : RangeSession} {state : SpaState} {e : SessionError}
    (h : s.advance state = .error e) : s.step = .activateHigh := by
  have hmade : ∀ {result : Except SessionError RangeSession}, (∃ s', result = .ok s') →
      result.map some ≠ .error e := by
    rintro _ ⟨s', rfl⟩ hmap
    cases hmap
  unfold advance at h
  split at h
  · assumption
  · next hst => exact absurd h (hmade (targetSet_ok hst))
  · next hst => exact absurd h (hmade (toStep_active_ok hst))
  · next hst =>
    have hrestoring : s.step.restoring = true := by rw [hst]; rfl
    have hhigh : s.step.requiresHigh = true := by rw [hst]; rfl
    exact absurd h (hmade (toStep_restoring_ok hrestoring rfl (fun _ => hhigh) (by simp)))
  · next hst =>
    split at h
    · next howned =>
      have hrestoring : s.step.restoring = true := by rw [hst]; rfl
      exact absurd h (hmade (toStep_restoring_ok hrestoring rfl (by simp [RangeStep.requiresHigh])
        fun _ => howned))
    · cases h
  · cases h
  · next hst =>
    split at h
    · exact absurd h (hmade (heated_ok hst))
    · cases h

end RangeSession

end BalboaRs485
