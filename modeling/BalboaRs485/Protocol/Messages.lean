import BalboaRs485.Protocol.Frames
import Mathlib.Data.Rat.Defs
import Mathlib.Algebra.Order.Field.Rat

/-!
# Message interpretation

Model of `protocol/messages.py`. The fields of a message that no modelled
function reads (model names, software versions, …) are left out. A message
record carries the payload length its decoder checked, so the octets the state
model reads always exist.

Temperatures are rational numbers: the decoder only halves octets, which is
exact in the source's floats too.
-/

namespace BalboaRs485

/-- `TemperatureUnit`. -/
inductive TemperatureUnit where
  | celsius
  | fahrenheit
deriving DecidableEq

/-- `HeatMode` (an `IntEnum`). -/
inductive HeatMode where
  | unknown
  | ready
  | rest
  | readyInRest
deriving DecidableEq

/-- The integer behind a `HeatMode`. -/
def HeatMode.toInt : HeatMode → ℤ
  | unknown => -1
  | ready => 0
  | rest => 1
  | readyInRest => 2

/-- `HeatMode(mode) if mode < 3 else HeatMode.UNKNOWN` (line 304). -/
def HeatMode.ofRaw (mode : UInt8) : HeatMode :=
  if mode = 0 then ready else if mode = 1 then rest else if mode = 2 then readyInRest else unknown

/-- `HeatState` (an `IntEnum`). -/
inductive HeatState where
  | unknown
  | off
  | heating
  | waiting
deriving DecidableEq

/-- `HeatState(heat) if heat < 3 else HeatState.UNKNOWN` (line 305). -/
def HeatState.ofRaw (heat : UInt8) : HeatState :=
  if heat = 0 then off else if heat = 1 then heating else if heat = 2 then waiting else unknown

/-- The values of `StatusMessage.reminder`. -/
inductive Reminder where
  | none
  | changeFilter
  | cleanFilter
  | checkSanitizer
  | checkPh
  | unknown
deriving DecidableEq

/-- `REMINDER_NAMES` (line 59). -/
def reminderNames (code : UInt8) : Option Reminder :=
  if code = 3 then some .changeFilter
  else if code = 4 then some .cleanFilter
  else if code = 9 then some .checkSanitizer
  else if code = 10 then some .checkPh
  else none

/-! ## Status -/

/-- `StatusMessage` (lines 76–175). `long` is the decoder's lower bound. -/
structure StatusMessage where
  frame : Frame
  currentTemperature : Option ℚ
  targetTemperature : Option ℚ
  unit : TemperatureUnit
  heatMode : HeatMode
  heatState : HeatState
  highRange : Bool
  pumpsRaw : Vector UInt8 6
  lightsRaw : UInt8 × UInt8
  hour : UInt8
  minute : UInt8
  long : 23 ≤ frame.payload.length
deriving DecidableEq

namespace StatusMessage

/-- `frame.payload[i]`; by `long` every index below 23 is in range. -/
def data (m : StatusMessage) (i : ℕ) : UInt8 := m.frame.payload.getD i 0

/-- `hold` (line 93). -/
def hold (m : StatusMessage) : Bool := m.data 0 = 5

/-- `priming` (line 97). -/
def priming (m : StatusMessage) : Bool := m.data 1 = 1

/-- `clock_24h` (line 101). -/
def clock24h (m : StatusMessage) : Bool := m.data 9 &&& 2 ≠ 0

/-- `clock is not None` (lines 104–107). -/
def clockKnown (m : StatusMessage) : Bool := ¬ (m.hour > 23 ∨ m.minute > 59)

/-- `hour * 60 + minute`. -/
def minuteOfDay (m : StatusMessage) : ℕ := m.hour.toNat * 60 + m.minute.toNat

/-- `filter_running_consensus` (lines 110–115). -/
def filterRunningConsensus (m : StatusMessage) : Option Bool × Option Bool :=
  let flag (mask : UInt8) : Bool := m.data 9 &&& mask ≠ 0
  (if flag 4 = flag 8 then some (flag 4) else none, if flag 8 = flag 16 then some (flag 8) else none)

/-- `panel_locked` (line 129). -/
def panelLocked (m : StatusMessage) : Bool := m.data 9 &&& 0x20 ≠ 0

/-- `settings_locked` (line 133). -/
def settingsLocked (m : StatusMessage) : Bool := m.data 21 &&& 8 ≠ 0

/-- `reminder_code` (line 137). -/
def reminderCode (m : StatusMessage) : Option UInt8 :=
  if m.data 1 = 3 then some (m.data 6) else none

/-- `unrecognized_reminder_ignored` (lines 147–161). -/
def unrecognizedReminderIgnored (m : StatusMessage) : Bool :=
  match m.reminderCode with
  | none => false
  | some code => code < 15 ∧ reminderNames code = none ∧ m.data 18 = 1

/-- `reminder` (lines 140–144). -/
def reminder (m : StatusMessage) : Reminder :=
  match m.reminderCode with
  | none => .none
  | some code =>
    if code = 0 ∨ m.unrecognizedReminderIgnored then .none
    else (reminderNames code).getD .unknown

/-- `routine_reminder` (lines 164–166). -/
def routineReminder (m : StatusMessage) : Bool :=
  match m.reminderCode with
  | none => false
  | some code => (reminderNames code).isSome ∧ m.data 18 = 1

end StatusMessage

/-! ## Replies to queries -/

/-- `SystemInformationMessage`: only its raw payload is used here. -/
structure SystemInformationMessage where
  frame : Frame
  long : frame.payload.length = 21
deriving DecidableEq

/-- `CapabilitiesMessage`. -/
structure CapabilitiesMessage where
  frame : Frame
  pumpsRaw : Vector UInt8 6
  long : frame.payload.length = 6
deriving DecidableEq

/-- `frame.payload[i]`; by `long` every index below 6 is in range. -/
def CapabilitiesMessage.caps (m : CapabilitiesMessage) (i : ℕ) : UInt8 := m.frame.payload.getD i 0

/-- `SetupMessage`: the bounds of both ranges in Fahrenheit. -/
structure SetupMessage where
  frame : Frame
  lowRangeF : ℕ × ℕ
  highRangeF : ℕ × ℕ
deriving DecidableEq

/-- `FilterCycle`. -/
structure FilterCycle where
  startHour : ℕ
  startMinute : ℕ
  durationMinutes : ℕ
  enabled : Bool
deriving DecidableEq

/-- The bounds `FilterSchedule.__post_init__` puts on one cycle
    (`protocol/settings.py` lines 24–34). -/
def FilterCycle.Valid (c : FilterCycle) : Prop :=
  c.startHour ≤ 23 ∧ c.startMinute ≤ 59 ∧ c.durationMinutes ≤ 1440

instance (c : FilterCycle) : Decidable c.Valid := inferInstanceAs (Decidable (_ ∧ _ ∧ _))

/-- `FilterCyclesMessage`; `valid` is what the decoder has checked. -/
structure FilterCyclesMessage where
  frame : Frame
  first : FilterCycle
  second : FilterCycle
  valid : (first.Valid ∧ second.Valid) ∧ first.enabled = true
deriving DecidableEq

/-- `FaultLogMessage`. -/
structure FaultLogMessage where
  frame : Frame
  count : UInt8
  entry : UInt8
  code : UInt8
deriving DecidableEq

/-- `Message` (lines 221–230). -/
inductive Message where
  | ready (frame : Frame)
  | status (m : StatusMessage)
  | information (m : SystemInformationMessage)
  | capabilities (m : CapabilitiesMessage)
  | unknown (frame : Frame)
  | setup (m : SetupMessage)
  | filterCycles (m : FilterCyclesMessage)
  | faultLog (m : FaultLogMessage)
deriving DecidableEq

/-! ## Decoder -/

/-- The texts of `MessageDecodeError`. -/
inductive MessageDecodeError where
  | setup
  | filters
  | faultLog
  | information
  | capabilities
  | ready
  | status
deriving DecidableEq

/-- The message `MessageDecodeError` is raised with. -/
def MessageDecodeError.text : MessageDecodeError → String
  | setup => "SETUP requires 9 or 10 bytes and ordered nonzero bounds"
  | filters => "FILTERS requires 8 bytes with valid times/durations"
  | faultLog => "FAULT LOG requires 10 bytes"
  | information => "INFORMATION requires 21 payload bytes"
  | capabilities => "CAPABILITIES requires 6 payload bytes"
  | ready => "READY must have an empty payload"
  | status => "STATUS requires 23..32 payload bytes"

/-- Two bits of an octet, `(octet >> shift) & 3`. -/
def pair (octet shift : UInt8) : UInt8 := (octet >>> shift) &&& 3

/-- The `SETUP` branch (lines 237–244). -/
def decodeSetup (frame : Frame) : Except MessageDecodeError Message :=
  let data (i : ℕ) : ℕ := (frame.payload.getD i 0).toNat
  if (frame.payload.length = 9 ∨ frame.payload.length = 10) ∧
      (0 < data 2 ∧ data 2 ≤ data 3 ∧ data 3 < 255) ∧
      (0 < data 4 ∧ data 4 ≤ data 5 ∧ data 5 < 255) then
    .ok (.setup ⟨frame, (data 2, data 3), (data 4, data 5)⟩)
  else .error .setup

/-- The two cycles of a filter record (lines 257–261). -/
def filterCyclesOf (payload : Bytes) : FilterCycle × FilterCycle :=
  let data (i : ℕ) : ℕ := (payload.getD i 0).toNat
  (⟨data 0, data 1, data 2 * 60 + data 3, true⟩,
   ⟨data 4 % 128, data 5, data 6 * 60 + data 7, 128 ≤ data 4⟩)

/-- The `FILTERS` branch (lines 245–263). `data & 127` and `data & 128` on an
    octet are the remainder by 128 and the comparison with 128. -/
def decodeFilters (frame : Frame) : Except MessageDecodeError Message :=
  let data (i : ℕ) : ℕ := (frame.payload.getD i 0).toNat
  let cycles := filterCyclesOf frame.payload
  if h : frame.payload.length = 8 ∧ (cycles.1.Valid ∧ cycles.2.Valid) ∧ data 3 ≤ 59 ∧ data 7 ≤ 59 then
    .ok (.filterCycles ⟨frame, cycles.1, cycles.2, h.2.1, rfl⟩)
  else .error .filters

/-- The `STATUS` branch (lines 288–311). -/
def decodeStatus (frame : Frame) : Except MessageDecodeError Message :=
  let data (i : ℕ) : UInt8 := frame.payload.getD i 0
  if h : 23 ≤ frame.payload.length ∧ frame.payload.length ≤ 32 then
    let unit := if data 9 &&& 1 ≠ 0 then TemperatureUnit.celsius else .fahrenheit
    let divisor : ℚ := if unit = .celsius then 2 else 1
    let temperature (raw : UInt8) : Option ℚ :=
      if raw = 0xFF then none else some ((raw.toNat : ℚ) / divisor)
    .ok (.status
      { frame
        currentTemperature := temperature (data 2)
        targetTemperature := temperature (data 20)
        unit
        heatMode := .ofRaw (data 5 &&& 3)
        heatState := .ofRaw (pair (data 10) 4)
        highRange := data 10 &&& 4 ≠ 0
        pumpsRaw := #v[pair (data 11) 0, pair (data 11) 2, pair (data 11) 4, pair (data 11) 6,
          pair (data 12) 0, pair (data 12) 2]
        lightsRaw := (data 14 &&& 3, pair (data 14) 2)
        hour := data 3
        minute := data 4
        long := h.1 })
  else .error .status

/-- `decode_message` (lines 233–312). -/
def decodeMessage (frame : Frame) (responseAddress : UInt8 := 10) (readyAddress : UInt8 := 16) :
    Except MessageDecodeError Message :=
  let data (i : ℕ) : UInt8 := frame.payload.getD i 0
  if (frame.address = responseAddress ∧ frame.family = 0xBF) ∧ frame.messageType = 0x25 then
    decodeSetup frame
  else if (frame.address = responseAddress ∧ frame.family = 0xBF) ∧ frame.messageType = 0x23 then
    decodeFilters frame
  else if (frame.address = responseAddress ∧ frame.family = 0xBF) ∧ frame.messageType = 0x28 then
    if frame.payload.length = 10 then .ok (.faultLog ⟨frame, data 0, data 1, data 2⟩)
    else .error .faultLog
  else if (frame.address = responseAddress ∧ frame.family = 0xBF) ∧ frame.messageType = 0x24 then
    if h : frame.payload.length = 21 then .ok (.information ⟨frame, h⟩) else .error .information
  else if (frame.address = responseAddress ∧ frame.family = 0xBF) ∧ frame.messageType = 0x2E then
    if h : frame.payload.length = 6 then
      .ok (.capabilities ⟨frame, #v[pair (data 0) 0, pair (data 0) 2, pair (data 0) 4,
        pair (data 0) 6, data 1 &&& 3, pair (data 1) 6], h⟩)
    else .error .capabilities
  else if frame.address = readyAddress ∧ frame.family = 0xBF ∧ frame.messageType = 0x06 then
    if frame.payload = [] then .ok (.ready frame) else .error .ready
  else if frame.address = 0xFF ∧ frame.family = 0xAF ∧ frame.messageType = 0x13 then
    decodeStatus frame
  else .ok (.unknown frame)

end BalboaRs485
