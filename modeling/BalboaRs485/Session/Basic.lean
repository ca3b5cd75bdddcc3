import BalboaRs485.State.Model

/-!
# Heating sessions

Model of `session.py`: one target raised until a deadline and restored after it.
The dataclass is a `SessionRecord`; `check` is its `__post_init__`, and a
`Session` is a record that passed it, so that every `replace` of the source is a
call of `Session.make`. Wall-clock times and temperatures are rational numbers.
-/

namespace BalboaRs485

/-- `SessionPhase`. -/
inductive SessionPhase where
  | preheating
  | targetReached
  | holding
  | restoring
deriving DecidableEq

/-- The `ValueError`s of the session modules. `SessionConflict` is one of them. -/
inductive SessionError where
  | timeRange
  | temperature
  | identity
  | checkpoint
  | notFuture
  | units
  | matchingUnits
  | ended
  | targetUnknown
  | minimum
  | highNotCaptured
  | invalid (e : ValidateError)
  | rangeConflict
  | targetConflict
  | modeConflict
  | enablingConflict
  | restorationConflict
deriving DecidableEq

namespace SessionError

/-- The messages the source raises with. -/
def text : SessionError → String
  | timeRange => "Invalid session time range"
  | temperature => "Unrepresentable session temperature"
  | identity => "Invalid bathing-session identity, ownership or mode"
  | checkpoint => "Inconsistent bathing-session checkpoint"
  | notFuture => "Session end must be in the future"
  | units => "Session requires an observed spa with matching temperature units"
  | matchingUnits => "Session requires fresh matching-unit observations"
  | ended => "An ended session cannot be adjusted"
  | targetUnknown => "A fresh observed target is required"
  | minimum => "Minimum bathing temperature must be 10..40 C in half-degree steps"
  | highNotCaptured => "Original High target has not been captured"
  | invalid e => e.text
  | rangeConflict => "Temperature range changed outside the session"
  | targetConflict => "High target changed outside the session"
  | modeConflict => "Heat mode changed outside the session"
  | enablingConflict => "Range or target changed before enabling heating"
  | restorationConflict => "Range changed during restoration"

/-- `isinstance(err, SessionConflict)`. -/
def isConflict : SessionError → Bool
  | rangeConflict | targetConflict | modeConflict | enablingConflict | restorationConflict => true
  | _ => false

end SessionError

/-- Naming the exception of a refusal keeps what was returned. -/
theorem mapError_eq_ok_iff {ε ε' α : Type*} {x : Except ε α} {f : ε → ε'} {a : α} :
    x.mapError f = .ok a ↔ x = .ok a := by
  cases x <;> simp [Except.mapError]

/-- `0 <= start <= end <= 253402300799`. -/
def ValidTimes (startTime endTime : ℚ) : Prop :=
  0 ≤ startTime ∧ startTime ≤ endTime ∧ endTime ≤ 253402300799

instance (startTime endTime : ℚ) : Decidable (ValidTimes startTime endTime) :=
  inferInstanceAs (Decidable (_ ∧ _ ∧ _))

/-- A temperature of the envelope at the resolution of its unit. -/
def Representable (unit : TemperatureUnit) (t : ℚ) : Prop :=
  match unit with
  | .celsius => 10 ≤ t ∧ t ≤ 40 ∧ (t * 2).den = 1
  | .fahrenheit => 50 ≤ t ∧ t ≤ 104 ∧ t.den = 1

instance (unit : TemperatureUnit) (t : ℚ) : Decidable (Representable unit t) := by
  cases unit <;> exact inferInstanceAs (Decidable (_ ∧ _ ∧ _))

/-- The fields of `Session`. -/
structure SessionRecord where
  startTime : ℚ
  endTime : ℚ
  target : ℚ
  maintenance : ℚ
  unit : TemperatureUnit
  phase : SessionPhase := .preheating
deriving DecidableEq

/-- `Session.__post_init__` (lines 34–45). -/
def SessionRecord.check (r : SessionRecord) : Except SessionError Unit :=
  if ¬ ValidTimes r.startTime r.endTime then .error .timeRange
  else if ¬ (Representable r.unit r.target ∧ Representable r.unit r.maintenance) then
    .error .temperature
  else .ok ()

/-- `Session`: a record that passed its check. -/
structure Session extends SessionRecord where
  checked : toSessionRecord.check = .ok ()
deriving DecidableEq

namespace Session

/-- The constructor, which runs the check. -/
def make (r : SessionRecord) : Except SessionError Session :=
  if h : r.check = .ok () then .ok ⟨r, h⟩
  else
    match r.check with
    | .error e => .error e
    | .ok () => .error .timeRange

theorem make_ok {r : SessionRecord} {s : Session} (h : make r = .ok s) : s.toSessionRecord = r := by
  unfold make at h
  split at h
  · cases h; rfl
  · split at h <;> cases h

theorem check_ok_iff {r : SessionRecord} :
    r.check = .ok () ↔ ValidTimes r.startTime r.endTime ∧ Representable r.unit r.target ∧
      Representable r.unit r.maintenance := by
  unfold SessionRecord.check
  by_cases h1 : ValidTimes r.startTime r.endTime
  · by_cases h2 : Representable r.unit r.target ∧ Representable r.unit r.maintenance
    · simp [h1, h2]
    · rw [if_neg (not_not.mpr h1), if_pos h2]
      simp [h1, h2]
  · simp [h1]

/-- `Session.start` (lines 47–64). -/
def start (now endTime target maintenance : ℚ) (unit : TemperatureUnit) (state : Option SpaState) :
    Except SessionError Session :=
  if endTime ≤ now then .error .notFuture
  else
    match state with
    | none => .error .units
    | some state =>
      if state.status.unit ≠ unit then .error .units
      else
        match state.validate .target (.float target), state.validate .target (.float maintenance) with
        | .error e, _ => .error (.invalid e)
        | .ok (), .error e => .error (.invalid e)
        | .ok (), .ok () => make { startTime := now, endTime, target, maintenance, unit }

/-- `cancel` (lines 66–67). -/
def cancel (s : Session) : Session := ⟨{ s.toSessionRecord with phase := .restoring }, s.checked⟩

/-- `adjust` (lines 69–76). -/
def adjust (s : Session) (now seconds : ℚ) : Except SessionError Session :=
  if s.phase = .restoring ∨ s.endTime ≤ now then .error .ended
  else
    let endTime := max s.startTime (s.endTime + seconds)
    make { s.toSessionRecord with endTime, phase := if endTime ≤ now then .restoring else s.phase }

/-- `goal` (lines 78–83): the target to write; the control is always `TARGET`. -/
def goal (s : Session) (state : Option SpaState) : Except SessionError (Control × Value) :=
  match state with
  | none => .error .units
  | some state =>
    if state.status.unit ≠ s.unit then .error .units
    else
      let target := if s.phase = .restoring then s.maintenance else s.target
      match state.validate .target (.float target) with
      | .error e => .error (.invalid e)
      | .ok () => .ok (.target, .float target)

/-- `reconcile` (lines 90–111); `desired` is `None` when the target is reached. -/
def reconcile (s : Session) (now : ℚ) (state : Option SpaState) : Option Session :=
  let current := if s.endTime ≤ now then s.cancel else s
  match state, current.goal state with
  | some state, .ok (_, target) =>
    if ¬ Value.shows (state.status.targetTemperature.map Value.float) target then some current
    else if current.phase = .restoring then none
    else if (current.phase = .preheating ∨ current.phase = .targetReached) ∧
        state.status.currentTemperature.any (fun t => s.target ≤ t) then
      some ⟨{ current.toSessionRecord with
        phase := if current.phase = .preheating then .targetReached else .holding }, current.checked⟩
    else some current
  | _, _ => some current

end Session

end BalboaRs485
