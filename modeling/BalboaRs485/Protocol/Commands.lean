import BalboaRs485.Protocol.Messages
import Mathlib.Tactic.Linarith

/-!
# What the program can put on the wire

Model of `protocol/settings.py` (the record and its encoding),
`protocol/commands.py` and `protocol/configuration.py`. `bytes((…))` raises on a
value that is no octet; the bounds each encoder checks first exclude that.
-/

namespace BalboaRs485

/-! ## Filter records -/

/-- `FilterSchedule` (`protocol/settings.py` lines 16–36): a record that has
    passed `__post_init__`. -/
structure FilterSchedule where
  first : FilterCycle
  second : FilterCycle
  valid : (first.Valid ∧ second.Valid) ∧ first.enabled = true

instance : DecidableEq FilterSchedule := fun a b =>
  decidable_of_iff (a.first = b.first ∧ a.second = b.second) (by cases a; cases b; simp)

/-- `FilterSchedule(message.cycles)`. -/
def FilterCyclesMessage.schedule (m : FilterCyclesMessage) : FilterSchedule :=
  ⟨m.first, m.second, m.valid⟩

/-- `FilterSchedule.frame` (`protocol/settings.py` lines 75–91). -/
def FilterSchedule.frame (s : FilterSchedule) : Frame :=
  ⟨10, 0xBF, 0x23,
    [.ofNat s.first.startHour, .ofNat s.first.startMinute, .ofNat (s.first.durationMinutes / 60),
      .ofNat (s.first.durationMinutes % 60),
      .ofNat s.second.startHour ||| (if s.second.enabled then 0x80 else 0),
      .ofNat s.second.startMinute, .ofNat (s.second.durationMinutes / 60),
      .ofNat (s.second.durationMinutes % 60)], by simp⟩

/-! ## Commands -/

/-- `ToggleItem` (`protocol/commands.py` lines 10–28). -/
inductive ToggleItem where
  | normalOperation | ackReminder | pump1 | pump2 | pump3 | pump4 | pump5 | pump6 | blower | mister
  | light1 | light2 | aux1 | aux2 | soak | hold | highRange | heatMode
deriving DecidableEq

/-- The wire value of a `ToggleItem`. -/
def ToggleItem.code : ToggleItem → UInt8
  | normalOperation => 1
  | ackReminder => 3
  | pump1 => 4
  | pump2 => 5
  | pump3 => 6
  | pump4 => 7
  | pump5 => 8
  | pump6 => 9
  | blower => 12
  | mister => 14
  | light1 => 17
  | light2 => 18
  | aux1 => 22
  | aux2 => 23
  | soak => 29
  | hold => 60
  | highRange => 80
  | heatMode => 81

/-- `toggle` (`protocol/commands.py` lines 31–34). -/
def toggle (item : ToggleItem) : Frame := ⟨10, 191, 17, [item.code, 0], by simp⟩

/-- The errors an encoder raises. -/
inductive EncodeError where
  | resolution
  | envelope
  | clock
deriving DecidableEq

/-- The messages of `EncodeError`. -/
def EncodeError.text : EncodeError → String
  | resolution => "Temperature must match the unit resolution"
  | envelope => "Temperature is outside the conservative supported envelope"
  | clock => "Clock requires minute-of-day 0..1439 and explicit format"

/-- `set_temperature` (`protocol/commands.py` lines 37–50), on a finite value. -/
def setTemperature (value : ℚ) (unit : TemperatureUnit) : Except EncodeError Frame :=
  let raw := value * (if unit = .celsius then 2 else 1)
  let low : ℚ := if unit = .celsius then 10 else 50
  let high : ℚ := if unit = .celsius then 40 else 104
  if raw.den ≠ 1 then .error .resolution
  else if ¬ (low ≤ value ∧ value ≤ high) then .error .envelope
  else .ok ⟨10, 191, 32, [.ofNat raw.num.toNat], by simp⟩

/-- `set_clock` (`protocol/commands.py` lines 59–67). -/
def setClock (minuteOfDay : ℤ) (clock24h : Bool) : Except EncodeError Frame :=
  if ¬ (0 ≤ minuteOfDay ∧ minuteOfDay < 1440) then .error .clock
  else
    .ok ⟨10, 0xBF, 0x21, [.ofNat (minuteOfDay.toNat / 60) ||| (if clock24h then 0x80 else 0),
      .ofNat (minuteOfDay.toNat % 60)], by simp⟩

/-- `set_temperature_unit` (`protocol/commands.py` lines 70–73). -/
def setTemperatureUnit (unit : TemperatureUnit) : Frame :=
  ⟨10, 0xBF, 0x27, [1, if unit = .celsius then 1 else 0], by simp⟩

/-- `set_clock_format` (`protocol/commands.py` lines 76–79). -/
def setClockFormat (clock24h : Bool) : Frame :=
  ⟨10, 0xBF, 0x27, [2, if clock24h then 1 else 0], by simp⟩

/-! ## Queries -/

/-- `Query` (`protocol/configuration.py` lines 11–16). -/
inductive Query where
  | information
  | capabilities
  | setup
  | filters
  | fault
deriving DecidableEq

/-- The payload of a query. -/
def Query.value : Query → Bytes
  | information => [0x02, 0x00, 0x00]
  | capabilities => [0x00, 0x00, 0x01]
  | setup => [0x04, 0x00, 0x00]
  | filters => [0x01, 0x00, 0x00]
  | fault => [0x20, 0xff, 0x00]

/-- `encode_query` (`protocol/configuration.py` lines 19–23). -/
def encodeQuery (query : Query) : Frame :=
  ⟨0x0A, 0xBF, 0x22, query.value, by cases query <;> simp [Query.value]⟩

/-- `Configuration` (`protocol/configuration.py` lines 26–29). -/
structure Configuration where
  information : SystemInformationMessage
  capabilities : CapabilitiesMessage
deriving DecidableEq

/-- `b"balboa-config-v1\0"`. -/
def signaturePrefix : Bytes :=
  [0x62, 0x61, 0x6c, 0x62, 0x6f, 0x61, 0x2d, 0x63, 0x6f, 0x6e, 0x66, 0x69, 0x67, 0x2d, 0x76, 0x31, 0]

/-- `Configuration.signature` (`protocol/configuration.py` lines 31–35), the
    hash function being a parameter. The `"v1:"` prefix of the hexadecimal
    digest is constant and left out. -/
def Configuration.signature (sha256 : Bytes → Bytes) (c : Configuration) : Bytes :=
  sha256 (signaturePrefix ++ c.information.frame.payload ++ c.capabilities.frame.payload)

end BalboaRs485
