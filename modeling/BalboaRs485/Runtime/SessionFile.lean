import BalboaRs485.Runtime.Runner
import BalboaRs485.Session.Format

/-!
# The file of a session

What `_save` of `SessionController` writes and `async_load` reads
(`custom_components/balboa_rs485/sessions.py`): the record of a session of either kind, with the
connection it belongs to.

* `load_stored`: a saved session is loaded as it was.
* `load_of_shows`: a file that can be loaded and equals a record is loaded as its session.
-/

namespace BalboaRs485

/-! ## Records -/

/-- `==` of two dictionaries whose values are no containers. -/
def sameDict (d d' : Dict String Stored) : Bool :=
  d.hasKeys d'.keys ∧ ∀ key ∈ d'.keys, (storedAt d key).norm = (storedAt d' key).norm

theorem sameDict_refl (d : Dict String Stored) : sameDict d d = true := by
  simp [sameDict, Dict.hasKeys_of_keys]

theorem map_eq_ok_iff {ε α β : Type} {x : Except ε α} {f : α → β} {b : β} :
    x.map f = .ok b ↔ ∃ a, x = .ok a ∧ f a = b := by
  cases x <;> simp [Except.map]

namespace SessionIntent

/-- `to_record`. -/
def toRecord : SessionIntent → Dict String Stored
  | session s => s.toRecord
  | range s => s.toRecord

/-- `from_record` of `session_type` (lines 68–74); `none` is an object that is no dictionary. -/
def fromRecord (record : Option (Dict String Stored)) : Except RecordError SessionIntent :=
  if record.any fun record => (storedAt record "version").norm = .float 2 then
    (RangeSession.fromRecord record).map range
  else (Session.fromRecord record).map session

end SessionIntent

/-- `record["session"]`. -/
inductive StoredSession where
  | null
  /-- An object; `none` is one that is no dictionary. -/
  | object (record : Option (Dict String Stored))

/-- What the store finds on disk. -/
inductive SessionFile where
  | absent
  | unreadable
  /-- An object, but no dictionary of `"connection"` and `"session"`. -/
  | malformed
  /-- `none` is a `"connection"` that is no dictionary. -/
  | holds (connection : Option (Dict String Stored)) (session : StoredSession)

/-- How the awaits of a save end. -/
inductive SaveEnd where
  /-- `async_save` or `async_load` raises. -/
  | raised
  | cancelled
  /-- The file is read back. -/
  | read

/-- How the load of a store ends while an entry is set up. -/
inductive LoadEnd where
  /-- The file is read. -/
  | read
  /-- An exception is raised, and caught. -/
  | failed
  /-- The setup is cancelled or raises before the load has ended, and `async_setup_entry` closes
      the entry (`__init__.py`, lines 34–39). -/
  | aborted
deriving DecidableEq

/-- What `async_load` catches. -/
inductive LoadError where
  /-- The store raises, or `ValueError("Session storage could not be read")`. -/
  | unreadable
  /-- `ValueError("Invalid session storage")`. -/
  | malformed
  /-- `ValueError("Stored session belongs to a different spa endpoint")`. -/
  | elsewhere
  | record (e : RecordError)

namespace SessionFile

/-- The session `async_load` finds (lines 52–74). -/
def load (connection : Dict String Stored) : SessionFile → Except LoadError (Option SessionIntent)
  | absent => .ok none
  | unreadable => .error .unreadable
  | malformed => .error .malformed
  | holds _ .null => .ok none
  | holds owner (.object record) =>
    if owner.any fun owner => sameDict owner connection then
      ((SessionIntent.fromRecord record).mapError .record).map some
    else .error .elsewhere

/-- The record of `_save` (lines 84–87), on disk. -/
def stored (connection : Dict String Stored) (session : Option SessionIntent) : SessionFile :=
  holds (some connection)
    (match session with
      | none => .null
      | some session => .object (some session.toRecord))

/-- `await self._store().async_load() == record` (line 91). -/
def shows (connection : Dict String Stored) (session : Option SessionIntent) : SessionFile → Bool
  | holds (some owner) saved =>
    sameDict owner connection &&
      match saved, session with
      | .null, none => true
      | .object (some record), some session => sameDict record session.toRecord
      | _, _ => false
  | _ => false

end SessionFile

/-! ## Equal records -/

theorem sameDict_norm {d d' : Dict String Stored} (h : sameDict d d' = true) (key : String) :
    (storedAt d key).norm = (storedAt d' key).norm := by
  simp only [sameDict, decide_eq_true_eq] at h
  by_cases hkey : key ∈ d'.keys
  · exact h.2 key hkey
  · have hd : d.get? key = none := get?_eq_none h.1 hkey
    have hkeys : d'.hasKeys d'.keys = true := Dict.hasKeys_of_keys rfl
    have hd' : d'.get? key = none := get?_eq_none hkeys hkey
    rw [storedAt, storedAt, hd, hd']

theorem sameDict_trans {d d' d'' : Dict String Stored} (h : sameDict d d' = true)
    (h' : sameDict d' d'' = true) : sameDict d d'' = true := by
  have hnorm : ∀ key, (storedAt d key).norm = (storedAt d'' key).norm := fun key =>
    (sameDict_norm h key).trans (sameDict_norm h' key)
  simp only [sameDict, Dict.hasKeys, decide_eq_true_eq, List.all_eq_true] at h h' ⊢
  refine ⟨⟨fun key hkey => h'.1.1 key (h.1.1 key hkey), fun key hkey => ?_⟩, fun key _ => hnorm key⟩
  obtain ⟨value, hvalue⟩ := d'.contains_iff.mp (h'.1.2 key hkey)
  exact h.1.2 key (d'.mem_keys.mpr ⟨value, hvalue⟩)

theorem SameRecord.norm {d d' : Dict String Stored} (h : SameRecord d d') (key : String) :
    (storedAt d key).norm = (storedAt d' key).norm := by
  have hrel := h key
  unfold storedAt
  generalize d.get? key = value, d'.get? key = value' at hrel
  cases hrel with
  | some h => exact h.norm
  | none => rfl

theorem Stored.unit_inj {u v : TemperatureUnit} (h : str u.text = str v.text) : u = v :=
  Except.ok.inj ((unit_text u).symm.trans ((congrArg unit h).trans (unit_text v)))

theorem Stored.phase_inj {p q : SessionPhase} (h : str p.text = str q.text) : p = q :=
  Except.ok.inj ((phase_text p).symm.trans ((congrArg phase h).trans (phase_text q)))

theorem Stored.step_inj {p q : RangeStep} (h : str p.text = str q.text) : p = q :=
  Except.ok.inj ((step_text p).symm.trans ((congrArg step h).trans (step_text q)))

theorem Stored.mode_inj {m n : HeatMode} (h : str m.name = str n.name) : m = n :=
  Except.ok.inj ((mode_name m).symm.trans ((congrArg mode h).trans (mode_name n)))

theorem Stored.id_inj {m n : ℕ} (hm : m < 16 ^ 32) (hn : n < 16 ^ 32)
    (h : str (hex m) = str (hex n)) : m = n := by
  have hread := (parseId_hex m).symm.trans ((congrArg parseId h).trans (parseId_hex n))
  rw [if_pos hm, if_pos hn] at hread
  exact Option.some.inj hread

theorem Stored.flag_inj {b c : Bool} (h : (bool b).norm = (bool c).norm) : b = c := by
  revert h
  cases b <;> cases c <;> simp [norm]

theorem Stored.ofOption_inj {x y : Option ℚ} (h : (ofOption x).norm = (ofOption y).norm) :
    x = y := by
  cases x <;> cases y <;> simp_all [ofOption, norm]

/-- Records that are equal are those of one session. -/
theorem Session.toRecord_inj {s t : Session}
    (h : ∀ key, (storedAt s.toRecord key).norm = (storedAt t.toRecord key).norm) : s = t := by
  have hstart := h "start_time"
  have hend := h "end_time"
  have htarget := h "target"
  have hmaintenance := h "maintenance"
  have hunit := h "unit"
  have hphase := h "phase"
  simp only [s.storedAt_toRecord, t.storedAt_toRecord, Stored.norm, Stored.float.injEq]
    at hstart hend htarget hmaintenance hunit hphase
  have hrecord : s.toSessionRecord = t.toSessionRecord := by
    show SessionRecord.mk _ _ _ _ _ _ = ⟨_, _, _, _, _, _⟩
    rw [hstart, hend, htarget, hmaintenance, Stored.unit_inj hunit, Stored.phase_inj hphase]
  exact Except.ok.inj (s.make_self.symm.trans (hrecord ▸ t.make_self))

theorem RangeSession.toRecord_inj {s t : RangeSession} (hs : s.Identified) (ht : t.Identified)
    (h : ∀ key, (storedAt s.toRecord key).norm = (storedAt t.toRecord key).norm) : s = t := by
  have hid := h "operation_id"
  have hstart := h "start_time"
  have hend := h "end_time"
  have hminimum := h "minimum"
  have hmaintenance := h "maintenance"
  have hunit := h "unit"
  have hrange := h "original_range"
  have hmode := h "original_mode"
  have hhigh := h "original_high"
  have hstep := h "step"
  have hphase := h "phase"
  have htarget := h "target_owned"
  have hheat := h "mode_owned"
  simp only [s.storedAt_toRecord, t.storedAt_toRecord]
    at hid hstart hend hminimum hmaintenance hunit hrange hmode hhigh hstep hphase htarget hheat
  have hrecord : s.toRangeRecord = t.toRangeRecord := by
    show RangeRecord.mk _ _ _ _ _ _ _ _ _ _ _ _ _ = ⟨_, _, _, _, _, _, _, _, _, _, _, _, _⟩
    rw [Stored.id_inj hs ht hid, Stored.float.inj hstart, Stored.float.inj hend,
      Stored.float.inj hminimum, Stored.float.inj hmaintenance, Stored.unit_inj hunit,
      Stored.flag_inj hrange, Stored.mode_inj hmode, Stored.ofOption_inj hhigh,
      Stored.step_inj hstep, Stored.phase_inj hphase, Stored.flag_inj htarget,
      Stored.flag_inj hheat]
  exact Except.ok.inj (s.make_self.symm.trans (hrecord ▸ t.make_self))

namespace SessionIntent

/-- The identifier of a bathing session has 128 bits. -/
def Identified : SessionIntent → Prop
  | session _ => True
  | range s => s.Identified

theorem fromRecord_toRecord {s : SessionIntent} (h : s.Identified) :
    fromRecord (some s.toRecord) = .ok s := by
  unfold fromRecord toRecord
  cases s with
  | session s =>
    simp only [Option.any_some, s.storedAt_toRecord, Stored.norm]
    rw [if_neg (by norm_num), Session.fromRecord_toRecord]
    rfl
  | range s =>
    simp only [Option.any_some, s.storedAt_toRecord, Stored.norm]
    have hlt : s.operationId < 16 ^ 32 := h
    rw [if_pos (by norm_num), RangeSession.fromRecord_toRecord, if_pos hlt]
    rfl

/-- What is loaded is the session of the record, up to the types of its numbers. -/
theorem fromRecord_ok {record : Option (Dict String Stored)} {s : SessionIntent}
    (h : fromRecord record = .ok s) :
    s.Identified ∧ ∃ d, record = some d ∧ SameRecord d s.toRecord := by
  unfold fromRecord at h
  split at h
  · obtain ⟨t, hread, rfl⟩ := map_eq_ok_iff.mp h
    obtain ⟨hid, d, hd, -, hsame⟩ := RangeSession.fromRecord_eq_ok_iff.mp hread
    exact ⟨hid, d, hd, hsame⟩
  · obtain ⟨t, hread, rfl⟩ := map_eq_ok_iff.mp h
    obtain ⟨d, hd, -, hsame⟩ := Session.fromRecord_eq_ok_iff.mp hread
    exact ⟨trivial, d, hd, hsame⟩

/-- Records that are equal are those of one session. -/
theorem toRecord_inj {s t : SessionIntent} (hs : s.Identified) (ht : t.Identified)
    (h : ∀ key, (storedAt s.toRecord key).norm = (storedAt t.toRecord key).norm) : s = t := by
  have hversion := h "version"
  cases s with
  | session s =>
    cases t with
    | session t => rw [Session.toRecord_inj h]
    | range t =>
      exfalso
      simp only [toRecord, s.storedAt_toRecord, t.storedAt_toRecord, Stored.norm] at hversion
      norm_num at hversion
  | range s =>
    cases t with
    | session t =>
      exfalso
      simp only [toRecord, s.storedAt_toRecord, t.storedAt_toRecord, Stored.norm] at hversion
      norm_num at hversion
    | range t => rw [RangeSession.toRecord_inj hs ht h]

end SessionIntent

namespace SessionFile

variable {connection : Dict String Stored}

/-- **A saved session is loaded as it was.** -/
theorem load_stored {next : Option SessionIntent} (h : ∀ s ∈ next, s.Identified) :
    (stored connection next).load connection = .ok next := by
  unfold stored
  cases next with
  | none => rfl
  | some s =>
    simp only [load, Option.any_some, sameDict_refl, SessionIntent.fromRecord_toRecord (h s rfl)]
    rfl

theorem load_identified {file : SessionFile} {session : Option SessionIntent}
    (h : file.load connection = .ok session) : ∀ s ∈ session, s.Identified := by
  rintro s rfl
  unfold load at h
  split at h
  · cases h
  · cases h
  · cases h
  · cases h
  · next owner record =>
    split at h
    · obtain ⟨t, hread, hs⟩ := map_eq_ok_iff.mp h
      cases hs
      exact (SessionIntent.fromRecord_ok (mapError_eq_ok_iff.mp hread)).1
    · cases h

/-- **A file that can be loaded and equals a record** is loaded as the session of the record. -/
theorem load_of_shows {file : SessionFile} {session next : Option SessionIntent}
    (hload : file.load connection = .ok session) (hshows : file.shows connection next = true)
    (hnext : ∀ s ∈ next, s.Identified) : session = next := by
  unfold shows at hshows
  split at hshows
  · next owner saved =>
    obtain ⟨howner, hsaved⟩ := Bool.and_eq_true_iff.mp hshows
    split at hsaved
    · cases hload
      rfl
    · next record s =>
      simp only [load, Option.any_some, howner, if_true] at hload
      obtain ⟨t, hread, rfl⟩ := map_eq_ok_iff.mp hload
      obtain ⟨hid, d, hd, hsame⟩ := SessionIntent.fromRecord_ok (mapError_eq_ok_iff.mp hread)
      obtain rfl := Option.some.inj hd
      rw [SessionIntent.toRecord_inj hid (hnext s rfl) fun key =>
        (hsame.norm key).symm.trans (sameDict_norm hsaved key)]
    · cases hsaved
  · cases hshows

end SessionFile

end BalboaRs485
