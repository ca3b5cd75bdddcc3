import BalboaRs485.Protocol.Commands
import Mathlib.Algebra.Order.Floor.Defs
import Mathlib.Data.Rat.Floor

/-!
# Physical state and admissible values

Model of `state/model.py`. A `SpaState` is one observation: the decoded messages
of one connection epoch with their sequence number and time. `options`, `value`
and `validate` are the three views of a control that planning relies on.

Python compares values of different types: `True == 1 == 1.0`, and a `HeatMode`
equals its integer. `Value.norm` maps numerically equal values to one
representative, so `pyEq` is Python's `==` and `pyIn` its `in`.
-/

namespace BalboaRs485

/-- `PumpState`. -/
inductive PumpState where
  | off
  | low
  | high
  | on
deriving DecidableEq

/-- `Control`. -/
inductive Control where
  | pump1 | pump2 | pump3 | pump4 | pump5 | pump6 | target | light1 | light2 | blower | mister
  | aux1 | aux2 | heatMode | highRange | filters | clockTime | clockFormat | temperatureUnit | hold
  | normalOperation | soak | ackReminder
deriving DecidableEq

namespace Control

/-- `Control(f"pump{i + 1}")`. -/
def pump : Fin 6 → Control
  | 0 => pump1
  | 1 => pump2
  | 2 => pump3
  | 3 => pump4
  | 4 => pump5
  | 5 => pump6

/-- `int(control.value[-1]) - 1` for the controls whose value starts with
    `"pump"`. -/
def pumpIndex : Control → Option (Fin 6)
  | pump1 => some 0
  | pump2 => some 1
  | pump3 => some 2
  | pump4 => some 3
  | pump5 => some 4
  | pump6 => some 5
  | _ => none

/-- `control.value.startswith("pump")`. -/
def isPump (c : Control) : Bool := c.pumpIndex.isSome

end Control

/-! ## Values -/

/-- `Value`: a desired or observed value of a control. -/
inductive Value where
  | pump (p : PumpState)
  | mode (m : HeatMode)
  | bool (b : Bool)
  | int (i : ℤ)
  | float (q : ℚ)
  | filters (s : FilterSchedule)
  | unit (u : TemperatureUnit)
deriving DecidableEq

/-- A Python number as a caller gives it; `math.isfinite` holds of the first kind. -/
inductive Number where
  | finite (q : ℚ)
  | nonfinite
deriving DecidableEq

namespace Value

/-- One representative for each class of values that Python's `==` identifies. -/
def norm : Value → Value
  | bool b => float (if b then 1 else 0)
  | int i => float i
  | mode m => float m.toInt
  | v => v

/-- Python's `a == b`. -/
def pyEq (a b : Value) : Bool := a.norm = b.norm

/-- Python's `a in l`. -/
def pyIn (a : Value) (l : List Value) : Bool := l.any a.pyEq

theorem pyEq_iff {a b : Value} : pyEq a b = true ↔ a.norm = b.norm := by simp [pyEq]

theorem pyEq_eq_false {a b : Value} : pyEq a b = false ↔ a.norm ≠ b.norm := by simp [pyEq]

@[simp] theorem pyEq_refl (a : Value) : pyEq a a = true := by simp [pyEq]

theorem pyEq_comm (a b : Value) : pyEq a b = pyEq b a := by simp [pyEq, eq_comm]

theorem pyEq_trans {a b c : Value} (h₁ : pyEq a b = true) (h₂ : pyEq b c = true) :
    pyEq a c = true := by
  rw [pyEq_iff] at *; exact h₁.trans h₂

theorem pyIn_iff {a : Value} {l : List Value} : pyIn a l = true ↔ ∃ b ∈ l, pyEq a b = true := by
  simp [pyIn]

/-- The least integer that has no float: it is halfway between the largest float,
    `2 ^ 1024 - 2 ^ 971`, and `2 ^ 1024`, and is rounded to even. -/
def floatOverflow : ℕ := (2 ^ 54 - 1) * (2 ^ 194) ^ 5

/-- `math.isfinite` raises `OverflowError`. -/
def overflows : Value → Bool
  | int i => floatOverflow ≤ i.natAbs
  | _ => false

example : floatOverflow = 2 ^ 1024 - 2 ^ 970 := by decide +kernel

/-- `a == b` for an observed value that may be `None`. -/
def shows (observed : Option Value) (desired : Value) : Bool :=
  observed.any fun v => v.pyEq desired

theorem shows_iff {observed : Option Value} {desired : Value} :
    shows observed desired = true ↔ ∃ v, observed = some v ∧ v.pyEq desired = true := by
  cases observed <;> simp [shows]

end Value

/-! ## Observations -/

/-- `SpaState`. -/
structure SpaState where
  status : StatusMessage
  configuration : Configuration
  epoch : ℕ
  sequence : ℕ
  observedAt : ℚ
  available : Bool
  setup : Option SetupMessage := none
  filters : Option FilterCyclesMessage := none
  fault : Option FaultLogMessage := none
  filtersAt : Option ℚ := none
deriving DecidableEq

/-- The texts of `controls_blocked_reason`. -/
inductive BlockedReason where
  | stateNotSynchronized
  | priming
  | hold
  | panelLocked
  | settingsLocked
  | unsupportedNotification (code : UInt8)
  | unsupportedOperatingState
deriving DecidableEq

/-- `controls_blocked_reason` as the source spells it. -/
def BlockedReason.text : BlockedReason → String
  | stateNotSynchronized => "state_not_synchronized"
  | priming => "priming"
  | hold => "hold"
  | panelLocked => "panel_locked"
  | settingsLocked => "settings_locked"
  | unsupportedNotification code => "unsupported_notification_" ++ toString code.toNat
  | unsupportedOperatingState => "unsupported_operating_state"

/-- The texts of `pump1_circulation_reason`. -/
inductive CirculationReason where
  | otherPump
  | blower
  | heating
  | readyInRest
  | filtration
deriving DecidableEq

/-- `pump1_circulation_reason` as the source spells it. -/
def CirculationReason.text : CirculationReason → String
  | otherPump => "other_pump"
  | blower => "blower"
  | heating => "heating"
  | readyInRest => "ready_in_rest"
  | filtration => "filtration"

/-- The errors `SpaState.validate` raises: a `ValueError`, but for `overflow`. -/
inductive ValidateError where
  | notPermitted (reason : Option BlockedReason)
  | clock
  | filters
  | unsupported
  | circulation (reason : CirculationReason)
  /-- The `OverflowError` of `math.isfinite`. -/
  | overflow
deriving DecidableEq

/-- `isinstance(error, ValueError)`. -/
def ValidateError.isValueError : ValidateError → Bool
  | overflow => false
  | _ => true

/-- The messages of `validate` (lines 325–372). -/
def ValidateError.text : ValidateError → String
  | notPermitted reason =>
    "Controls require a fresh synchronized normal operating state (" ++
      (reason.elim "control_not_permitted" BlockedReason.text) ++ ")"
  | clock => "Clock must be 0..1439 minutes with known observed clock"
  | filters => "Filter writes require a freshly queried whole record"
  | unsupported => "Unsupported desired value, missing setup, or unknown physical state"
  | circulation reason =>
    "Pump 1 circulation is required (" ++ reason.text ++ "); select speed 1 to stop jets. " ++
      "The spa controller decides when automatic circulation stops."
  | overflow => "int too large to convert to float"

namespace SpaState

variable (s : SpaState)

/-- `data[1] == 0` or a notification that does not block controls
    (lines 84–88). -/
def notificationPermitted : Bool :=
  s.status.data 1 = 0 ∨ s.status.routineReminder ∨ s.status.unrecognizedReminderIgnored

/-- `not data[9] & 0xF0 and not data[21] & 8`. -/
def unlocked : Bool := s.status.data 9 &&& 0xF0 = 0 ∧ s.status.data 21 &&& 8 = 0

/-- `controls_safe` (lines 78–95). -/
def controlsSafe : Bool :=
  s.available ∧ s.status.data 0 = 0 ∧ s.notificationPermitted ∧ s.unlocked

/-- `safe_for` (lines 101–124). -/
def safeFor (control : Control) : Bool :=
  if s.controlsSafe then true
  else if control = .ackReminder then
    s.available ∧ s.status.data 0 = 0 ∧ s.status.routineReminder ∧ s.unlocked
  else
    (control = .hold ∨ control = .normalOperation) ∧ s.available ∧ s.status.data 0 = 5 ∧
      s.notificationPermitted ∧ s.unlocked

/-- `hold` (lines 152–153). -/
def hold : Bool := s.status.hold

/-- `controls_blocked_reason` (lines 131–149). -/
def controlsBlockedReason : Option BlockedReason :=
  if s.controlsSafe then none
  else if ¬ s.available then some .stateNotSynchronized
  else if s.status.priming then some .priming
  else if s.hold then some .hold
  else if s.status.panelLocked then some .panelLocked
  else if s.status.settingsLocked then some .settingsLocked
  else if s.status.data 1 = 3 ∧ ¬ s.status.routineReminder then
    some (.unsupportedNotification (s.status.data 6))
  else some .unsupportedOperatingState

/-- The options of `Control.TARGET` (lines 245–259). In Celsius the bounds are
    rounded inward to half degrees. -/
def targetOptions : List Value :=
  match s.setup with
  | none => []
  | some setup =>
    let range := if s.status.highRange then setup.highRangeF else setup.lowRangeF
    let low := max 50 range.1
    let high := min 104 range.2
    if s.status.unit = .celsius then
      let first : ℤ := ⌈((low : ℚ) - 32) / (9 / 5) * 2⌉
      let last : ℤ := ⌊((high : ℚ) - 32) / (9 / 5) * 2⌋
      (List.range (last + 1 - first).toNat).map fun (i : ℕ) => .float ((first + i : ℤ) / 2)
    else (List.range (high + 1 - low)).map fun (i : ℕ) => .int (low + i : ℕ)

/-- The options of pump number `index` (lines 278–284). -/
def pumpOptions (index : Fin 6) : List Value :=
  let count := s.configuration.capabilities.pumpsRaw[index]
  if count = 1 then [.pump .off, .pump .on]
  else if count = 2 then [.pump .off, .pump .low, .pump .high]
  else []

/-- `[True]` or `[False, True]` under a condition, else no option. -/
def optionsIf (condition : Bool) (options : List Value) : List Value :=
  if condition then options else []

/-- `options` (lines 218–284). -/
def options (control : Control) : List Value :=
  let caps := s.configuration.capabilities.caps
  let modes : Bool := s.status.data 0 = 0 ∨ s.status.data 0 = 5
  let both : List Value := [.bool false, .bool true]
  match control with
  | .ackReminder => optionsIf (s.status.reminder ≠ .unknown) [.bool true]
  | .hold => optionsIf modes both
  | .normalOperation => optionsIf modes [.bool true]
  | .soak =>
    let pumps := s.configuration.capabilities.pumpsRaw.toList
    optionsIf (pumps.any (· ≠ 0) ∧ pumps.all fun p => p = 0 ∨ p = 1 ∨ p = 2) [.bool true]
  | .clockTime => optionsIf s.status.clockKnown [.int s.status.minuteOfDay]
  | .clockFormat => optionsIf s.status.clockKnown both
  | .temperatureUnit => [.unit .celsius, .unit .fahrenheit]
  | .filters => (s.filters.map fun m => Value.filters m.schedule).toList
  | .target => s.targetOptions
  | .heatMode => [.mode .ready, .mode .rest]
  | .highRange => both
  | .light1 => optionsIf (caps 2 &&& 3 = 1) both
  | .light2 => optionsIf (pair (caps 2) 2 = pair (caps 2) 6 ∧ pair (caps 2) 2 = 1) both
  | .blower =>
    let count := caps 3 &&& 3
    optionsIf (count ≠ 0) ((List.range (count.toNat + 1)).map fun (i : ℕ) => .int i)
  | .aux1 => optionsIf (caps 4 &&& 1 ≠ 0) both
  | .aux2 => optionsIf (caps 4 &&& 2 ≠ 0) both
  | .mister => optionsIf (pair (caps 4) 4 = 1) both
  | .pump1 => s.pumpOptions 0
  | .pump2 => s.pumpOptions 1
  | .pump3 => s.pumpOptions 2
  | .pump4 => s.pumpOptions 3
  | .pump5 => s.pumpOptions 4
  | .pump6 => s.pumpOptions 5

/-- The observed value of pump number `index` (lines 317–322). -/
def pumpValue (index : Fin 6) : Option Value :=
  let options := s.pumpOptions index
  let raw := s.status.pumpsRaw[index]
  if options = [] then none
  else if options.length = 2 ∧ (raw = 1 ∨ raw = 2) then some (.pump .on)
  else options[raw.toNat]?

/-- A light's raw value (lines 305–308). -/
def lightValue (raw : UInt8) : Option Value :=
  if raw = 0 then some (.bool false) else if raw = 2 ∨ raw = 3 then some (.bool true) else none

/-- `value` (lines 286–322). -/
def value (control : Control) : Option Value :=
  let data := s.status.data
  let guarded (v : Option Value) : Option Value := if s.options control = [] then none else v
  match control with
  | .ackReminder => guarded (some (.bool (s.status.reminder = .none)))
  | .hold => if data 0 = 0 ∨ data 0 = 5 then some (.bool (data 0 = 5)) else none
  | .normalOperation => if data 0 = 0 ∨ data 0 = 5 then some (.bool (data 0 = 0)) else none
  | .soak =>
    let fitted := (List.finRange 6).filter fun i => s.configuration.capabilities.pumpsRaw[i] ≠ 0
    let values := fitted.map s.pumpValue
    guarded (if values.any Option.isNone then none
      else some (.bool (values.all fun v => Value.shows v (.pump .off))))
  | .clockTime => if s.status.clockKnown then some (.int s.status.minuteOfDay) else none
  | .clockFormat => some (.bool s.status.clock24h)
  | .temperatureUnit => some (.unit s.status.unit)
  | .filters => s.filters.map fun m => .filters m.schedule
  | .target => s.status.targetTemperature.map .float
  | .heatMode => if s.status.heatMode = .unknown then none else some (.mode s.status.heatMode)
  | .highRange => some (.bool s.status.highRange)
  | .light1 => guarded (lightValue s.status.lightsRaw.1)
  | .light2 => guarded (lightValue s.status.lightsRaw.2)
  | .blower =>
    let raw : Value := .int (pair (data 13) 2).toNat
    guarded (if raw.pyIn (s.options .blower) then some raw else none)
  | .mister => guarded (some (.bool (data 15 &&& 1 ≠ 0)))
  | .aux1 => guarded (some (.bool (data 15 &&& 8 ≠ 0)))
  | .aux2 => guarded (some (.bool (data 15 &&& 16 ≠ 0)))
  | .pump1 => s.pumpValue 0
  | .pump2 => s.pumpValue 1
  | .pump3 => s.pumpValue 2
  | .pump4 => s.pumpValue 3
  | .pump5 => s.pumpValue 4
  | .pump6 => s.pumpValue 5

/-- `pump1_is_circulation` (lines 164–168). -/
def pump1IsCirculation : Bool :=
  pair (s.configuration.capabilities.caps 3) 6 = 0 ∧
    s.options .pump1 = [.pump .off, .pump .low, .pump .high]

/-- Both temperatures are known and the water is below its target (lines 197–200). -/
def belowTarget : Bool :=
  match s.status.currentTemperature, s.status.targetTemperature with
  | some current, some target => current < target
  | _, _ => false

/-- `isinstance(blower, int) and blower > 0` (lines 189–190). -/
def blowerRunning : Bool :=
  match s.value .blower with
  | some (.int i) => 0 < i
  | _ => false

/-- `pump1_circulation_reason` (lines 171–204). -/
def pump1CirculationReason : Option CirculationReason :=
  let running (v : Option Value) (states : List PumpState) : Bool :=
    states.any fun p => Value.shows v (.pump p)
  if ¬ s.pump1IsCirculation ∨ ¬ running (s.value .pump1) [.low, .high] then none
  else if ([1, 2, 3, 4, 5] : List (Fin 6)).any fun i =>
      running (s.pumpValue i) [.on, .low, .high] then
    some .otherPump
  else if s.blowerRunning then some .blower
  else if s.status.heatState = .heating then some .heating
  else if s.status.heatMode = .readyInRest ∧ s.belowTarget then some .readyInRest
  else if s.status.filterRunningConsensus.1 = some true ∨
      s.status.filterRunningConsensus.2 = some true then
    some .filtration
  else none

/-- The type test of `validate` for the controls with a list of options
    (lines 345–361). -/
def validType (control : Control) (desired : Value) : Bool :=
  if control.isPump then desired matches .pump _
  else match control, desired with
    | .target, .int _ | .target, .float _ | .target, .mode _ => true
    | .target, _ => false
    | .blower, .int _ | .heatMode, .mode _ | .temperatureUnit, .unit _ => true
    | .blower, _ | .heatMode, _ | .temperatureUnit, _ => false
    | _, .bool _ => true
    | _, _ => false

/-- `validate` (lines 324–372). For `TARGET` the type test calls `math.isfinite`, which
    converts an integer to a float. -/
def validate (control : Control) (desired : Value) : Except ValidateError Unit :=
  if ¬ s.safeFor control then .error (.notPermitted s.controlsBlockedReason)
  else if control = .clockTime then
    match desired with
    | .int i => if 0 ≤ i ∧ i < 1440 ∧ s.status.clockKnown then .ok () else .error .clock
    | _ => .error .clock
  else if control = .filters then
    match desired, s.filters, s.filtersAt with
    | .filters _, some _, some at' => if s.observedAt - at' > 3 then .error .filters else .ok ()
    | _, _, _ => .error .filters
  else if control = .target ∧ desired.overflows then .error .overflow
  else if ¬ validType control desired ∨ ¬ desired.pyIn (s.options control) ∨
      s.value control = none then
    .error .unsupported
  else if control = .pump1 ∧ desired.pyEq (.pump .off) then
    match s.pump1CirculationReason with
    | some reason => .error (.circulation reason)
    | none => .ok ()
  else .ok ()

end SpaState

/-! ## A sample observation -/

/-- The status of a spa with one two-speed pump, in Fahrenheit and normal
    operation, at 100 °F. -/
def sampleStatus (target mode : UInt8) (highRange : Bool) : StatusMessage where
  frame := ⟨0xFF, 0xAF, 0x13, [0, 0, 100, 12, 0, mode, 0, 0, 0, 0, if highRange then 4 else 0,
    0, 0, 0, 0, 0, 0, 0, 0, 0, target, 0, 0], by simp⟩
  currentTemperature := some 100
  targetTemperature := some target.toNat
  unit := .fahrenheit
  heatMode := .ofRaw (mode &&& 3)
  heatState := .off
  highRange
  pumpsRaw := #v[0, 0, 0, 0, 0, 0]
  lightsRaw := (0, 0)
  hour := 12
  minute := 0
  long := by simp

/-- The configuration of that spa. -/
def sampleConfiguration : Configuration where
  information := ⟨⟨10, 0xBF, 0x24, List.replicate 21 0, by simp⟩, by simp⟩
  capabilities := ⟨⟨10, 0xBF, 0x2E, [2, 0, 0, 0, 0, 0], by simp⟩, #v[2, 0, 0, 0, 0, 0], by simp⟩

/-- An available observation of it: Low range 50–99 °F, High range 80–104 °F. -/
def sampleState (status : StatusMessage) (epoch sequence : ℕ) (observedAt : ℚ) : SpaState where
  status
  configuration := sampleConfiguration
  epoch
  sequence
  observedAt
  available := true
  setup := some ⟨⟨10, 0xBF, 0x25, [0, 0, 50, 99, 80, 104, 0, 0, 0], by simp⟩, (50, 99), (80, 104)⟩

example :
    decodeMessage (sampleStatus 98 2 true).frame = .ok (.status (sampleStatus 98 2 true)) := by
  decide +kernel

end BalboaRs485
