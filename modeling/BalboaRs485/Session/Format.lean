import BalboaRs485.Session.Record

/-!
# The durable session format

`from_record` against `to_record`, on every object the storage can hold. Each reader of a
field accepts exactly what the writer of that field writes, up to the type of a number,
so that a dictionary is loaded if and only if it is the record of the session it is loaded
as.

* `Stored.parseId_eq_some_iff`, `Stored.unit_eq_ok_iff` and their siblings: the readers.
* `Session.fromRecord_eq_ok_iff`, `RangeSession.fromRecord_eq_ok_iff`: the dictionaries
  that are loaded, and as what.
-/

namespace BalboaRs485

/-! ## Equal up to the numeric type -/

/-- The same value, or the same number as an integer and as a float. -/
def Stored.Same (a b : Stored) : Prop := a = b ∨ ∃ x, a.number = .ok x ∧ b.number = .ok x

/-- The same keys with the same values. -/
def SameRecord (d d' : Dict String Stored) : Prop :=
  ∀ key, Option.Rel Stored.Same (d.get? key) (d'.get? key)

theorem Stored.Same.refl (a : Stored) : a.Same a := Or.inl rfl

/-- The representative of a value among those that Python's `==` identifies. -/
def Stored.norm : Stored → Stored
  | .bool b => .float (if b then 1 else 0)
  | .int i => .float i
  | value => value

theorem Stored.norm_of_number {a : Stored} {x : ℚ} (h : a.number = .ok x) : a.norm = .float x := by
  cases a <;> cases h <;> rfl

theorem Stored.Same.norm {a b : Stored} (h : a.Same b) : a.norm = b.norm := by
  obtain rfl | ⟨x, ha, hb⟩ := h
  · rfl
  · rw [norm_of_number ha, norm_of_number hb]

theorem get?_storedAt {d : Dict String Stored} {fields : List String} {key : String}
    (h : d.hasKeys fields = true) (hkey : key ∈ fields) :
    d.get? key = some (storedAt d key) := by
  simp only [Dict.hasKeys, decide_eq_true_eq, List.all_eq_true] at h
  obtain ⟨value, hvalue⟩ := d.contains_iff.mp (h.2 key hkey)
  rw [storedAt, hvalue, Option.getD_some]

theorem get?_eq_none {d : Dict String Stored} {fields : List String} {key : String}
    (h : d.hasKeys fields = true) (hkey : key ∉ fields) : d.get? key = none := by
  simp only [Dict.hasKeys, decide_eq_true_eq, List.all_eq_true] at h
  by_contra hne
  obtain ⟨value, hvalue⟩ := Option.ne_none_iff_exists'.mp hne
  exact hkey (h.1 key (d.mem_keys.mpr ⟨value, hvalue⟩))

/-- Against a record with these keys, the comparison is one key at a time. -/
theorem sameRecord_iff {d d' : Dict String Stored} {fields : List String} (h : d'.keys = fields) :
    SameRecord d d' ↔
      d.hasKeys fields = true ∧ ∀ key ∈ fields, (storedAt d key).Same (storedAt d' key) := by
  have h' := Dict.hasKeys_of_keys h
  constructor
  · intro hsame
    have hiff : ∀ key, (∃ value, d.get? key = some value) ↔ key ∈ fields := by
      intro key
      rw [← h, d'.mem_keys]
      have hrel := hsame key
      generalize d.get? key = value, d'.get? key = value' at hrel ⊢
      cases hrel <;> simp
    refine ⟨?_, fun key hkey => ?_⟩
    · simp only [Dict.hasKeys, decide_eq_true_eq, List.all_eq_true]
      exact ⟨fun key hkey => (hiff key).mp (d.mem_keys.mp hkey),
        fun key hkey => d.contains_iff.mpr ((hiff key).mpr hkey)⟩
    · obtain ⟨value, hvalue⟩ := (hiff key).mpr hkey
      have hrel := hsame key
      rw [hvalue, get?_storedAt h' hkey] at hrel
      rw [storedAt, hvalue, Option.getD_some]
      cases hrel with
      | some hrel => exact hrel
  · rintro ⟨hkeys, hsame⟩ key
    by_cases hkey : key ∈ fields
    · rw [get?_storedAt hkeys hkey, get?_storedAt h' hkey]
      exact .some (hsame key hkey)
    · rw [get?_eq_none hkeys hkey, get?_eq_none h' hkey]
      exact .none

/-! ## Readers -/

namespace Stored

/-- Only a number is the same as something else. -/
theorem same_iff_eq {a b : Stored} (h : ∀ x, b.number ≠ .ok x) : a.Same b ↔ a = b :=
  or_iff_left fun ⟨x, _, hx⟩ => h x hx

theorem same_str {a : Stored} {s : String} : a.Same (str s) ↔ a = str s :=
  same_iff_eq fun _ h => by cases h

theorem same_bool {a : Stored} {b : Bool} : a.Same (bool b) ↔ a = bool b :=
  same_iff_eq fun _ h => by cases h

theorem number_eq_ok_iff {a : Stored} {x : ℚ} : a.number = .ok x ↔ a.Same (float x) := by
  constructor
  · intro h
    exact Or.inr ⟨x, h, rfl⟩
  · rintro (rfl | ⟨y, ha, hx⟩)
    · rfl
    · cases hx
      exact ha

theorem optionalNumber_eq_ok_iff {a : Stored} {x : Option ℚ} :
    a.optionalNumber = .ok x ↔ a.Same (ofOption x) := by
  cases x with
  | none =>
    rw [ofOption, same_iff_eq fun _ h => by cases h]
    cases a <;> simp [optionalNumber, number, Except.map]
  | some x =>
    rw [ofOption, ← number_eq_ok_iff]
    cases a <;> simp [optionalNumber, number, Except.map]

theorem flag_eq_some_iff {a : Stored} {b : Bool} : a.flag = some b ↔ a.Same (bool b) := by
  rw [same_bool]
  cases a <;> simp [flag]

/-- A member is read from its own text only. -/
theorem eq_str_of_member {α : Type} {text : α → String} {members : List α} {a : Stored} {m : α}
    (h : member text members a = .ok m) : a = str (text m) := by
  unfold member at h
  split at h
  · next m' hfind =>
    cases h
    simpa using List.find?_some hfind
  · cases h

theorem unit_eq_ok_iff {a : Stored} {u : TemperatureUnit} :
    a.unit = .ok u ↔ a.Same (str u.text) := by
  rw [same_str]
  exact ⟨eq_str_of_member, fun h => h ▸ unit_text u⟩

theorem phase_eq_ok_iff {a : Stored} {p : SessionPhase} :
    a.phase = .ok p ↔ a.Same (str p.text) := by
  rw [same_str]
  exact ⟨eq_str_of_member, fun h => h ▸ phase_text p⟩

theorem step_eq_ok_iff {a : Stored} {s : RangeStep} : a.step = .ok s ↔ a.Same (str s.text) := by
  rw [same_str]
  exact ⟨eq_str_of_member, fun h => h ▸ step_text s⟩

theorem mode_eq_ok_iff {a : Stored} {m : HeatMode} : a.mode = .ok m ↔ a.Same (str m.name) := by
  rw [same_str]
  constructor
  · intro h
    unfold mode at h
    split at h
    · next m' hm =>
      cases h
      exact eq_str_of_member hm
    · cases h
  · intro h
    rw [h, mode_name]

end Stored

/-! ## Identifiers -/

/-- Only digits are read as digits. -/
theorem eq_map_hexDigit : ∀ {cs : List Char} {ds : List ℕ},
    cs.mapM (fun c => hexDigits.idxOf? c) = some ds → cs = ds.map hexDigit ∧ ∀ d ∈ ds, d < 16 := by
  intro cs
  induction cs with
  | nil =>
    intro ds h
    cases h
    simp
  | cons c cs ih =>
    intro ds h
    rw [List.mapM_cons] at h
    obtain ⟨d, hd, h⟩ := Option.bind_eq_some_iff.mp h
    obtain ⟨ds', hds', h⟩ := Option.bind_eq_some_iff.mp h
    cases h
    obtain ⟨hlt, hget, _⟩ := List.idxOf?_eq_some_iff.mp hd
    obtain ⟨htail, hall⟩ := ih hds'
    refine ⟨?_, ?_⟩
    · rw [List.map_cons, ← htail, hexDigit, List.getD_eq_getElem?_getD,
        List.getElem?_eq_getElem hlt, Option.getD_some, hget]
    · rintro d' (_ | ⟨_, hd'⟩)
      · exact hlt
      · exact hall d' hd'

/-- 32 digits are those of the number they denote. -/
theorem hex_ofDigits {ds : List ℕ} (hlength : ds.length = 32) (hds : ∀ d ∈ ds, d < 16) :
    hex (Nat.ofDigits 16 ds.reverse) = String.ofList (ds.map hexDigit) := by
  have hpadded : Nat.digitsAppend 16 32 (Nat.ofDigits 16 ds.reverse) = ds.reverse :=
    (Nat.setInvOn_digitsAppend_ofDigits (by norm_num) 32).1
      ⟨by rw [List.length_reverse, hlength], fun d hd => hds d (List.mem_reverse.mp hd)⟩
  rw [← String.toList_inj, hex_toList, String.toList_ofList, ← List.reverse_replicate,
    ← List.reverse_append, ← Nat.digitsAppend, hpadded, List.reverse_reverse]

theorem Stored.parseId_eq_some_iff {a : Stored} {n : ℕ} :
    a.parseId = some n ↔ a.Same (str (hex n)) ∧ n < 16 ^ 32 := by
  rw [same_str]
  constructor
  · intro h
    have hself : a = str (hex n) := by
      unfold parseId at h
      split at h
      · next s =>
        split at h
        · next hlength =>
          obtain ⟨ds, hds, rfl⟩ := Option.map_eq_some_iff.mp h
          obtain ⟨htext, hall⟩ := eq_map_hexDigit hds
          have hds : ds.length = 32 := by
            rw [← hlength, htext, List.length_map]
          rw [hex_ofDigits hds hall, ← htext, String.ofList_toList]
        · cases h
      · cases h
    refine ⟨hself, ?_⟩
    by_contra hge
    rw [hself, parseId_hex, if_neg hge] at h
    cases h
  · rintro ⟨rfl, hlt⟩
    rw [parseId_hex, if_pos hlt]

/-! ## Records -/

theorem bind_eq_ok_iff {ε α β : Type} {x : Except ε α} {f : α → Except ε β} {b : β} :
    (x >>= f) = .ok b ↔ ∃ a, x = .ok a ∧ f a = .ok b := by
  cases x <;> simp [bind, Except.bind]

theorem versioned_eq_some_iff {fields : List String} {version : ℤ}
    {record : Option (Dict String Stored)} {d : Dict String Stored} :
    versioned fields version record = some d ↔
      record = some d ∧ d.hasKeys fields = true ∧ storedAt d "version" = .int version := by
  simp [versioned, Option.filter_eq_some_iff]

namespace Session

theorem make_eq_ok_iff {r : SessionRecord} {s : Session} :
    make r = .ok s ↔ r = s.toSessionRecord :=
  ⟨fun h => (make_ok h).symm, fun h => h ▸ s.make_self⟩

theorem sameRecord_toRecord_iff {d : Dict String Stored} {s : Session} :
    SameRecord d s.toRecord ↔ d.hasKeys fields = true ∧
      (storedAt d "version").Same (.int 1) ∧
      (storedAt d "start_time").Same (.float s.startTime) ∧
      (storedAt d "end_time").Same (.float s.endTime) ∧
      (storedAt d "target").Same (.float s.target) ∧
      (storedAt d "maintenance").Same (.float s.maintenance) ∧
      (storedAt d "unit").Same (.str s.unit.text) ∧
      (storedAt d "phase").Same (.str s.phase.text) := by
  rw [sameRecord_iff (show s.toRecord.keys = fields from rfl)]
  simp only [fields, List.forall_mem_cons, List.not_mem_nil, false_implies, implies_true, and_true,
    s.storedAt_toRecord]

/-- **The dictionaries that are loaded**: the record of the session, up to the types of its
    numbers. -/
theorem fromRecord_eq_ok_iff {record : Option (Dict String Stored)} {s : Session} :
    fromRecord record = .ok s ↔
      ∃ d, record = some d ∧ storedAt d "version" = .int 1 ∧ SameRecord d s.toRecord := by
  unfold fromRecord
  constructor
  · intro h
    split at h
    · cases h
    next d hd =>
    obtain ⟨rfl, hkeys, hversion⟩ := versioned_eq_some_iff.mp hd
    simp only [bind_eq_ok_iff, mapError_eq_ok_iff, make_eq_ok_iff, Stored.number_eq_ok_iff,
      Stored.unit_eq_ok_iff, Stored.phase_eq_ok_iff] at h
    obtain ⟨_, hstart, _, hend, _, htarget, _, hmaintenance, _, hunit, _, hphase, hs⟩ := h
    obtain ⟨r, hchecked⟩ := s
    subst hs
    refine ⟨d, rfl, hversion, sameRecord_toRecord_iff.mpr ⟨hkeys, hversion ▸ .refl _, ?_⟩⟩
    exact ⟨hstart, hend, htarget, hmaintenance, hunit, hphase⟩
  · rintro ⟨d, rfl, hversion, hsame⟩
    obtain ⟨hkeys, _, hstart, hend, htarget, hmaintenance, hunit, hphase⟩ :=
      sameRecord_toRecord_iff.mp hsame
    rw [versioned_eq_some_iff.mpr ⟨rfl, hkeys, hversion⟩]
    simp only [Stored.number_eq_ok_iff.mpr hstart, Stored.number_eq_ok_iff.mpr hend,
      Stored.number_eq_ok_iff.mpr htarget, Stored.number_eq_ok_iff.mpr hmaintenance,
      Stored.unit_eq_ok_iff.mpr hunit, Stored.phase_eq_ok_iff.mpr hphase, ok_bind]
    exact mapError_eq_ok_iff.mpr s.make_self

end Session

namespace RangeSession

theorem make_eq_ok_iff {r : RangeRecord} {s : RangeSession} :
    make r = .ok s ↔ r = s.toRangeRecord :=
  ⟨fun h => (make_ok h).symm, fun h => h ▸ s.make_self⟩

/-- `UUID(hex=operation_id).hex == operation_id` has a solution: the part of the constructor's
    check that concerns the identifier alone. -/
def Identified (s : RangeSession) : Prop := s.operationId < 16 ^ 32

theorem sameRecord_toRecord_iff {d : Dict String Stored} {s : RangeSession} :
    SameRecord d s.toRecord ↔ d.hasKeys fields = true ∧
      (storedAt d "version").Same (.int 2) ∧
      (storedAt d "operation_id").Same (.str (hex s.operationId)) ∧
      (storedAt d "start_time").Same (.float s.startTime) ∧
      (storedAt d "end_time").Same (.float s.endTime) ∧
      (storedAt d "minimum").Same (.float s.minimum) ∧
      (storedAt d "maintenance").Same (.float s.maintenance) ∧
      (storedAt d "unit").Same (.str s.unit.text) ∧
      (storedAt d "original_range").Same (.bool s.originalRange) ∧
      (storedAt d "original_mode").Same (.str s.originalMode.name) ∧
      (storedAt d "original_high").Same (.ofOption s.originalHigh) ∧
      (storedAt d "step").Same (.str s.step.text) ∧
      (storedAt d "phase").Same (.str s.phase.text) ∧
      (storedAt d "target_owned").Same (.bool s.targetOwned) ∧
      (storedAt d "mode_owned").Same (.bool s.modeOwned) := by
  rw [sameRecord_iff (show s.toRecord.keys = fields from rfl)]
  simp only [fields, List.forall_mem_cons, List.not_mem_nil, false_implies, implies_true, and_true,
    s.storedAt_toRecord]

theorem construct_eq_ok_iff {r : RangeRecord} {range target mode id : Stored} {s : RangeSession} :
    construct r range target mode id = .ok s ↔
      range.Same (.bool s.originalRange) ∧ target.Same (.bool s.targetOwned) ∧
      mode.Same (.bool s.modeOwned) ∧ id.Same (.str (hex s.operationId)) ∧ s.Identified ∧
      { r with
        originalRange := s.originalRange
        targetOwned := s.targetOwned
        modeOwned := s.modeOwned
        operationId := s.operationId } = s.toRangeRecord := by
  constructor
  · intro h
    unfold construct at h
    split at h
    · cases h
    split at h
    · next hrange htarget hmode hid =>
      have hs := make_eq_ok_iff.mp (mapError_eq_ok_iff.mp h)
      obtain ⟨r, hchecked⟩ := s
      subst hs
      obtain ⟨hid, hlt⟩ := Stored.parseId_eq_some_iff.mp hid
      exact ⟨Stored.flag_eq_some_iff.mp hrange, Stored.flag_eq_some_iff.mp htarget,
        Stored.flag_eq_some_iff.mp hmode, hid, hlt, rfl⟩
    · cases h
  · rintro ⟨hrange, htarget, hmode, hid, hlt, hs⟩
    rw [Stored.same_bool.mp hrange, Stored.same_bool.mp htarget, Stored.same_bool.mp hmode,
      Stored.same_str.mp hid, construct_self s r hs]
    exact if_pos hlt

/-- **The dictionaries that are loaded** as a bathing session: the record of the session, up
    to the types of its numbers, whose identifier is one. -/
theorem fromRecord_eq_ok_iff {record : Option (Dict String Stored)} {s : RangeSession} :
    fromRecord record = .ok s ↔ s.Identified ∧
      ∃ d, record = some d ∧ storedAt d "version" = .int 2 ∧ SameRecord d s.toRecord := by
  unfold fromRecord
  constructor
  · intro h
    split at h
    · cases h
    next d hd =>
    obtain ⟨rfl, hkeys, hversion⟩ := versioned_eq_some_iff.mp hd
    simp only [bind_eq_ok_iff, construct_eq_ok_iff, Stored.number_eq_ok_iff,
      Stored.unit_eq_ok_iff, Stored.mode_eq_ok_iff, Stored.optionalNumber_eq_ok_iff,
      Stored.step_eq_ok_iff, Stored.phase_eq_ok_iff] at h
    obtain ⟨_, hstart, _, hend, _, hminimum, _, hmaintenance, _, hunit, _, hmode, _, hhigh, _,
      hstep, _, hphase, hrange, htarget, hheat, hid, hlt, hs⟩ := h
    obtain ⟨⟨⟩, hchecked⟩ := s
    cases hs
    refine ⟨hlt, d, rfl, hversion, sameRecord_toRecord_iff.mpr ⟨hkeys, hversion ▸ .refl _, ?_⟩⟩
    exact ⟨hid, hstart, hend, hminimum, hmaintenance, hunit, hrange, hmode, hhigh, hstep, hphase,
      htarget, hheat⟩
  · rintro ⟨hlt, d, rfl, hversion, hsame⟩
    obtain ⟨hkeys, _, hid, hstart, hend, hminimum, hmaintenance, hunit, hrange, hmode, hhigh,
      hstep, hphase, htarget, hheat⟩ := sameRecord_toRecord_iff.mp hsame
    rw [versioned_eq_some_iff.mpr ⟨rfl, hkeys, hversion⟩]
    simp only [Stored.number_eq_ok_iff.mpr hstart, Stored.number_eq_ok_iff.mpr hend,
      Stored.number_eq_ok_iff.mpr hminimum, Stored.number_eq_ok_iff.mpr hmaintenance,
      Stored.unit_eq_ok_iff.mpr hunit, Stored.mode_eq_ok_iff.mpr hmode,
      Stored.optionalNumber_eq_ok_iff.mpr hhigh, Stored.step_eq_ok_iff.mpr hstep,
      Stored.phase_eq_ok_iff.mpr hphase, ok_bind]
    exact construct_eq_ok_iff.mpr ⟨hrange, htarget, hheat, hid, hlt, rfl⟩

end RangeSession

/-- **The durable format**: a valid session is read back from its record as it was, and a
    record is loaded as a session only if it is the record of that session up to the types of
    its numbers, with the version of that session as an integer. So no record is loaded as
    both, and one that is the record of no valid session is loaded as none. -/
theorem durable_format :
    (∀ s : Session, Session.fromRecord (some s.toRecord) = .ok s) ∧
    (∀ s : RangeSession, s.Identified → RangeSession.fromRecord (some s.toRecord) = .ok s) ∧
    (∀ record (s : Session), Session.fromRecord record = .ok s →
      ∃ d, record = some d ∧ d.hasKeys Session.fields = true ∧
        storedAt d "version" = .int 1 ∧ SameRecord d s.toRecord) ∧
    (∀ record (s : RangeSession), RangeSession.fromRecord record = .ok s → s.Identified ∧
      ∃ d, record = some d ∧ d.hasKeys RangeSession.fields = true ∧
        storedAt d "version" = .int 2 ∧ SameRecord d s.toRecord) ∧
    (∀ record,
      (∃ e, Session.fromRecord record = .error e) ∨
        ∃ e, RangeSession.fromRecord record = .error e) := by
  refine ⟨Session.fromRecord_toRecord, ?_, ?_, ?_, ?_⟩
  · intro s hs
    rw [s.fromRecord_toRecord]
    exact if_pos hs
  · intro record s h
    obtain ⟨d, hd, hversion, hsame⟩ := Session.fromRecord_eq_ok_iff.mp h
    exact ⟨d, hd, (Session.sameRecord_toRecord_iff.mp hsame).1, hversion, hsame⟩
  · intro record s h
    obtain ⟨hid, d, hd, hversion, hsame⟩ := RangeSession.fromRecord_eq_ok_iff.mp h
    exact ⟨hid, d, hd, (RangeSession.sameRecord_toRecord_iff.mp hsame).1, hversion, hsame⟩
  · intro record
    cases h : Session.fromRecord record with
    | error e => exact Or.inl ⟨e, rfl⟩
    | ok s =>
      cases h' : RangeSession.fromRecord record with
      | error e => exact Or.inr ⟨e, rfl⟩
      | ok s' =>
        obtain ⟨d, rfl, hversion, _⟩ := Session.fromRecord_eq_ok_iff.mp h
        obtain ⟨_, d', hd', hversion', _⟩ := RangeSession.fromRecord_eq_ok_iff.mp h'
        cases hd'
        rw [hversion] at hversion'
        cases hversion'

end BalboaRs485
