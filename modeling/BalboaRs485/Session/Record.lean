import BalboaRs485.Lib.Dict
import BalboaRs485.Session.Range
import Mathlib.Data.Nat.Digits.Lemmas

/-!
# Stored sessions

Model of `to_record` and `from_record` of both sessions: the dictionary the storage
keeps, and what is made of a dictionary that was read back. Stored integers are exact
where Python's `float` rounds them; every integer that passes the checks is exact there
too.

* `parseId_hex`: an identifier is read back from its 32 hexadecimal digits.
* `Session.fromRecord_toRecord`, `RangeSession.fromRecord_toRecord`: a stored session is
  read back as it was.
-/

namespace BalboaRs485

/-- A value the storage can hold. -/
inductive Stored where
  | null
  | bool (b : Bool)
  | int (i : ℤ)
  | float (x : ℚ)
  /-- Not a number, or infinite. -/
  | nonfinite
  | str (s : String)
  /-- A list or a dictionary. -/
  | compound
deriving DecidableEq

/-- What `from_record` raises. -/
inductive RecordError where
  /-- `ValueError("Invalid or unsupported session storage")`. -/
  | storage
  /-- `ValueError("Invalid or unsupported bathing-session storage")`. -/
  | bathingStorage
  /-- `ValueError("Session values must be finite numbers")`. -/
  | number
  /-- The `ValueError` of an enumeration that has no such value. -/
  | member (value : Stored)
  /-- `ValueError("Invalid bathing-session fields")`. -/
  | fields
  /-- `ValueError("Invalid bathing-session identity, ownership or mode")`, or the one of
      `UUID` for a text that is no UUID at all. -/
  | identity
  | session (e : SessionError)
deriving DecidableEq

theorem ok_bind {ε α β : Type} (a : α) (f : α → Except ε β) : (Except.ok a >>= f) = f a := rfl

namespace Stored

/-- `_number` (`session.py` lines 13–16). -/
def number : Stored → Except RecordError ℚ
  | int i => .ok i
  | float x => .ok x
  | _ => .error .number

/-- `None if value is None else _number(value)`. -/
def optionalNumber : Stored → Except RecordError (Option ℚ)
  | null => .ok none
  | value => value.number.map some

/-- The value, if `type(value) is bool`. -/
def flag : Stored → Option Bool
  | bool b => some b
  | _ => none

/-- The member of a `StrEnum` with this value. -/
def member {α : Type} (text : α → String) (members : List α) (value : Stored) :
    Except RecordError α :=
  match members.find? fun m => value = str (text m) with
  | some m => .ok m
  | none => .error (.member value)

/-- A number or nothing, as the storage keeps it. -/
def ofOption : Option ℚ → Stored
  | none => null
  | some x => float x

theorem optionalNumber_ofOption (x : Option ℚ) : (ofOption x).optionalNumber = .ok x := by
  cases x <;> rfl

end Stored

/-! ## Enumerations -/

/-- The values of `TemperatureUnit`. -/
def TemperatureUnit.text : TemperatureUnit → String
  | celsius => "C"
  | fahrenheit => "F"

/-- The values of `SessionPhase`. -/
def SessionPhase.text : SessionPhase → String
  | preheating => "preheating"
  | targetReached => "target_reached"
  | holding => "holding"
  | restoring => "restoring"

/-- The values of `RangeStep`. -/
def RangeStep.text : RangeStep → String
  | activateHigh => "activate_high"
  | setTarget => "set_high_target"
  | setMode => "set_ready"
  | active => "active"
  | restoreHigh => "restore_high_target"
  | restoreRange => "restore_range"
  | restoreMode => "restore_mode"

/-- The names of `HeatMode`. -/
def HeatMode.name : HeatMode → String
  | unknown => "UNKNOWN"
  | ready => "READY"
  | rest => "REST"
  | readyInRest => "READY_IN_REST"

/-- `TemperatureUnit(value)`. -/
def Stored.unit : Stored → Except RecordError TemperatureUnit :=
  member TemperatureUnit.text [.celsius, .fahrenheit]

/-- `SessionPhase(value)`. -/
def Stored.phase : Stored → Except RecordError SessionPhase :=
  member SessionPhase.text [.preheating, .targetReached, .holding, .restoring]

/-- `RangeStep(value)`. -/
def Stored.step : Stored → Except RecordError RangeStep :=
  member RangeStep.text
    [.activateHigh, .setTarget, .setMode, .active, .restoreHigh, .restoreRange, .restoreMode]

/-- `HeatMode[value]`; a name that is unknown is a `KeyError`, a value that cannot be looked
    up a `TypeError`. -/
def Stored.mode (value : Stored) : Except RecordError HeatMode :=
  match Stored.member HeatMode.name [.unknown, .ready, .rest, .readyInRest] value with
  | .ok mode => .ok mode
  | .error _ => .error .fields

theorem Stored.unit_text (u : TemperatureUnit) : (str u.text).unit = .ok u := by
  cases u <;> decide

theorem Stored.phase_text (p : SessionPhase) : (str p.text).phase = .ok p := by
  cases p <;> decide

theorem Stored.step_text (s : RangeStep) : (str s.text).step = .ok s := by
  cases s <;> decide

theorem Stored.mode_name (m : HeatMode) : (str m.name).mode = .ok m := by
  cases m <;> decide

/-! ## Identifiers -/

/-- The digits of `UUID.hex`. -/
def hexDigits : List Char :=
  ['0', '1', '2', '3', '4', '5', '6', '7', '8', '9', 'a', 'b', 'c', 'd', 'e', 'f']

def hexDigit (d : ℕ) : Char := hexDigits.getD d '0'

/-- `UUID.hex`: `'%032x' % self.int`. -/
def hex (n : ℕ) : String :=
  String.ofList (((Nat.digits 16 n).reverse.map hexDigit).leftpad 32 '0')

/-- The number behind an identifier for which `UUID(hex=value).hex == value`: a text of 32
    lower-case hexadecimal digits. -/
def Stored.parseId : Stored → Option ℕ
  | .str s =>
    if s.toList.length = 32 then
      (s.toList.mapM fun c => hexDigits.idxOf? c).map fun ds => Nat.ofDigits 16 ds.reverse
    else none
  | _ => none

theorem idxOf_hexDigit_all : ∀ d < 16, hexDigits.idxOf? (hexDigit d) = some d := by decide

theorem mapM_hexDigit {ds : List ℕ} (h : ∀ d ∈ ds, d < 16) :
    (ds.map hexDigit).mapM (fun c => hexDigits.idxOf? c) = some ds := by
  induction ds with
  | nil => rfl
  | cons d ds ih =>
    rw [List.map_cons, List.mapM_cons, idxOf_hexDigit_all d (h d (by simp)),
      ih fun d' hd' => h d' (by simp [hd'])]
    rfl

/-- The digits are padded with zeros, which do not count. -/
theorem hex_toList (n : ℕ) : (hex n).toList =
    (List.replicate (32 - (Nat.digits 16 n).length) 0 ++
      (Nat.digits 16 n).reverse).map hexDigit := by
  rw [hex, String.toList_ofList, List.leftpad, List.map_append, List.map_replicate,
    List.length_map, List.length_reverse]
  rfl

/-- **An identifier is read back** from its digits, if there are at most 32 of them. -/
theorem Stored.parseId_hex (n : ℕ) :
    (str (hex n)).parseId = if n < 16 ^ 32 then some n else none := by
  have hlength : (hex n).toList.length = 32 ↔ n < 16 ^ 32 := by
    rw [← Nat.digits_length_le_iff (by norm_num) n, hex_toList]
    simp only [List.length_map, List.length_append, List.length_replicate, List.length_reverse]
    omega
  unfold parseId
  simp only [hlength]
  split
  · rw [hex_toList, mapM_hexDigit, Option.map_some, List.reverse_append, List.reverse_reverse,
      List.reverse_replicate, Nat.ofDigits_append_replicate_zero, Nat.ofDigits_digits]
    intro d hd
    rcases List.mem_append.mp hd with hd | hd
    · rw [List.eq_of_mem_replicate hd]
      norm_num
    · exact Nat.digits_lt_base (by norm_num) (List.mem_reverse.mp hd)
  · rfl

/-! ## Dictionaries -/

/-- `record[key]`, once the keys have been compared. -/
def storedAt (record : Dict String Stored) (key : String) : Stored := (record.get? key).getD .null

theorem storedAt_eq {record : Dict String Stored} {key : String} {value : Stored} (i : ℕ)
    (h : record.entries[i]? = some (key, value)) : storedAt record key = value := by
  rw [storedAt, record.get?_of_getElem? h, Option.getD_some]

/-- The dictionary behind a stored object, if it has exactly these keys and this version. -/
def versioned (fields : List String) (version : ℤ) (record : Option (Dict String Stored)) :
    Option (Dict String Stored) :=
  record.filter fun record => record.hasKeys fields ∧ storedAt record "version" = .int version

theorem versioned_eq {fields : List String} {version : ℤ} {record : Dict String Stored}
    (hkeys : record.keys = fields) (hversion : storedAt record "version" = .int version) :
    versioned fields version (some record) = some record :=
  Option.filter_eq_some_iff.mpr ⟨rfl, by simp [Dict.hasKeys_of_keys hkeys, hversion]⟩

namespace Session

/-- `fields` (line 126). -/
def fields : List String :=
  ["version", "start_time", "end_time", "target", "maintenance", "unit", "phase"]

/-- `to_record` (`session.py` lines 113–122). -/
def toRecord (s : Session) : Dict String Stored where
  entries :=
    [("version", .int 1), ("start_time", .float s.startTime), ("end_time", .float s.endTime),
      ("target", .float s.target), ("maintenance", .float s.maintenance),
      ("unit", .str s.unit.text), ("phase", .str s.phase.text)]
  nodup := show fields.Nodup by decide

/-- `from_record` (lines 124–142); `none` is an object that is no dictionary. -/
def fromRecord (record : Option (Dict String Stored)) : Except RecordError Session :=
  match versioned fields 1 record with
  | none => .error .storage
  | some record => do
    let startTime ← (storedAt record "start_time").number
    let endTime ← (storedAt record "end_time").number
    let target ← (storedAt record "target").number
    let maintenance ← (storedAt record "maintenance").number
    let unit ← (storedAt record "unit").unit
    let phase ← (storedAt record "phase").phase
    (make { startTime, endTime, target, maintenance, unit, phase }).mapError .session

theorem versioned_toRecord (s : Session) :
    versioned fields 1 (some s.toRecord) = some s.toRecord :=
  versioned_eq rfl (storedAt_eq 0 rfl)

theorem make_self (s : Session) : make s.toSessionRecord = .ok s := dif_pos s.checked

theorem storedAt_toRecord (s : Session) :
    storedAt s.toRecord "version" = .int 1 ∧
    storedAt s.toRecord "start_time" = .float s.startTime ∧
    storedAt s.toRecord "end_time" = .float s.endTime ∧
    storedAt s.toRecord "target" = .float s.target ∧
    storedAt s.toRecord "maintenance" = .float s.maintenance ∧
    storedAt s.toRecord "unit" = .str s.unit.text ∧
    storedAt s.toRecord "phase" = .str s.phase.text :=
  ⟨storedAt_eq 0 rfl, storedAt_eq 1 rfl, storedAt_eq 2 rfl, storedAt_eq 3 rfl, storedAt_eq 4 rfl,
    storedAt_eq 5 rfl, storedAt_eq 6 rfl⟩

/-- **A stored session is read back as it was.** -/
theorem fromRecord_toRecord (s : Session) : fromRecord (some s.toRecord) = .ok s := by
  unfold fromRecord
  rw [versioned_toRecord]
  simp only [s.storedAt_toRecord, Stored.number, Stored.unit_text, Stored.phase_text, ok_bind]
  rw [make_self]
  rfl

end Session

namespace RangeSession

/-- `fields` (lines 185–200). -/
def fields : List String :=
  ["version", "operation_id", "start_time", "end_time", "minimum", "maintenance", "unit",
    "original_range", "original_mode", "original_high", "step", "phase", "target_owned",
    "mode_owned"]

/-- `to_record` (`range_session.py` lines 152–168). -/
def toRecord (s : RangeSession) : Dict String Stored where
  entries :=
    [("version", .int 2), ("operation_id", .str (hex s.operationId)),
      ("start_time", .float s.startTime), ("end_time", .float s.endTime),
      ("minimum", .float s.minimum), ("maintenance", .float s.maintenance),
      ("unit", .str s.unit.text), ("original_range", .bool s.originalRange),
      ("original_mode", .str s.originalMode.name),
      ("original_high", .ofOption s.originalHigh), ("step", .str s.step.text),
      ("phase", .str s.phase.text), ("target_owned", .bool s.targetOwned),
      ("mode_owned", .bool s.modeOwned)]
  nodup := show fields.Nodup by decide

/-- The constructor on stored flags and a stored identifier: the sessions are checked before
    the types are (lines 45–61). -/
def construct (r : RangeRecord) (range target mode id : Stored) : Except RecordError RangeSession :=
  match r.checkSessions with
  | .error e => .error (.session e)
  | .ok () =>
    match range.flag, target.flag, mode.flag, id.parseId with
    | some originalRange, some targetOwned, some modeOwned, some operationId =>
      (make { r with originalRange, targetOwned, modeOwned, operationId }).mapError .session
    | _, _, _, _ => .error .identity

/-- `from_record` (lines 184–227). -/
def fromRecord (record : Option (Dict String Stored)) : Except RecordError RangeSession :=
  match versioned fields 2 record with
  | none => .error .bathingStorage
  | some record => do
    let startTime ← (storedAt record "start_time").number
    let endTime ← (storedAt record "end_time").number
    let minimum ← (storedAt record "minimum").number
    let maintenance ← (storedAt record "maintenance").number
    let unit ← (storedAt record "unit").unit
    let originalMode ← (storedAt record "original_mode").mode
    let originalHigh ← (storedAt record "original_high").optionalNumber
    let step ← (storedAt record "step").step
    let phase ← (storedAt record "phase").phase
    construct
      { startTime, endTime, minimum, maintenance, unit, originalMode, originalHigh, step, phase
        originalRange := false
        operationId := 0 }
      (storedAt record "original_range") (storedAt record "target_owned")
      (storedAt record "mode_owned") (storedAt record "operation_id")

theorem versioned_toRecord (s : RangeSession) :
    versioned fields 2 (some s.toRecord) = some s.toRecord :=
  versioned_eq rfl (storedAt_eq 0 rfl)

theorem make_self (s : RangeSession) : make s.toRangeRecord = .ok s := dif_pos s.checked

theorem construct_self (s : RangeSession) (r : RangeRecord)
    (h : { r with
        originalRange := s.originalRange
        targetOwned := s.targetOwned
        modeOwned := s.modeOwned
        operationId := s.operationId } = s.toRangeRecord) :
    construct r (.bool s.originalRange) (.bool s.targetOwned) (.bool s.modeOwned)
        (.str (hex s.operationId)) =
      if s.operationId < 16 ^ 32 then .ok s else .error .identity := by
  have hsessions : r.checkSessions = .ok () := by
    have hself : s.toRangeRecord.checkSessions = .ok () := by
      have hchecked := s.checked
      unfold RangeRecord.check at hchecked
      split at hchecked
      · cases hchecked
      · assumption
    rw [← h] at hself
    exact hself
  unfold construct
  simp only [hsessions, Stored.flag, Stored.parseId_hex]
  by_cases hid : s.operationId < 16 ^ 32
  · rw [if_pos hid, if_pos hid]
    show (make { r with
        originalRange := s.originalRange
        targetOwned := s.targetOwned
        modeOwned := s.modeOwned
        operationId := s.operationId }).mapError RecordError.session = .ok s
    rw [h, make_self]
    rfl
  · rw [if_neg hid, if_neg hid]

theorem storedAt_toRecord (s : RangeSession) :
    storedAt s.toRecord "version" = .int 2 ∧
    storedAt s.toRecord "operation_id" = .str (hex s.operationId) ∧
    storedAt s.toRecord "start_time" = .float s.startTime ∧
    storedAt s.toRecord "end_time" = .float s.endTime ∧
    storedAt s.toRecord "minimum" = .float s.minimum ∧
    storedAt s.toRecord "maintenance" = .float s.maintenance ∧
    storedAt s.toRecord "unit" = .str s.unit.text ∧
    storedAt s.toRecord "original_range" = .bool s.originalRange ∧
    storedAt s.toRecord "original_mode" = .str s.originalMode.name ∧
    storedAt s.toRecord "original_high" = .ofOption s.originalHigh ∧
    storedAt s.toRecord "step" = .str s.step.text ∧
    storedAt s.toRecord "phase" = .str s.phase.text ∧
    storedAt s.toRecord "target_owned" = .bool s.targetOwned ∧
    storedAt s.toRecord "mode_owned" = .bool s.modeOwned :=
  ⟨storedAt_eq 0 rfl, storedAt_eq 1 rfl, storedAt_eq 2 rfl, storedAt_eq 3 rfl, storedAt_eq 4 rfl,
    storedAt_eq 5 rfl, storedAt_eq 6 rfl, storedAt_eq 7 rfl, storedAt_eq 8 rfl, storedAt_eq 9 rfl,
    storedAt_eq 10 rfl, storedAt_eq 11 rfl, storedAt_eq 12 rfl, storedAt_eq 13 rfl⟩

/-- **A stored bathing session is read back as it was**, if its identifier is one. -/
theorem fromRecord_toRecord (s : RangeSession) : fromRecord (some s.toRecord) =
    if s.operationId < 16 ^ 32 then .ok s else .error .identity := by
  unfold fromRecord
  rw [versioned_toRecord]
  simp only [s.storedAt_toRecord, Stored.number, Stored.unit_text, Stored.mode_name,
    Stored.optionalNumber_ofOption, Stored.step_text, Stored.phase_text, ok_bind]
  rw [construct_self]
  rfl

end RangeSession

end BalboaRs485
