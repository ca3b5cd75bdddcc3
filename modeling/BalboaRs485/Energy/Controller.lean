import BalboaRs485.Energy.Counter
import BalboaRs485.Energy.Estimate
import BalboaRs485.Runtime.Commands
import BalboaRs485.Runtime.SessionFile

/-!
# The energy controller

Model of `EnergyController` in `custom_components/balboa_rs485/energy.py`, which counts what it
observes, saves the totals every 30 s, reads them back and only then publishes them.

`EnergySystem` is the controller and the file of its store. A checkpoint is cut at its awaits:
its record may reach the file at any time from the call of `async_save` on, also after that has
raised, timed out or was cancelled, and the process may stop at any time. What reaches the file
only after the next record or a new start is told apart (`landLate`). The loop is the only caller
of `async_checkpoint` until `async_close` has cancelled it, so nobody waits for `_save_lock`.

A setup that is cancelled or raises before the totals are loaded closes a controller that has
counted nothing; nobody uses that one again.

* `restored_record`: saved totals are restored as they were.
* `observe_case`: `observe` counts an observation of a power the spa can draw, or nothing.
* `aborted_erases`: a setup that is aborted with the estimate enabled saves zeros.
-/

namespace BalboaRs485

/-! ## Model -/

/-- What a `Store` finds on disk. -/
inductive StoreFile where
  | absent
  | unreadable
  /-- An object; `none` is one that is no dictionary. -/
  | holds (record : Option (Dict String Stored))

/-- The entries of a record that `EnergyCounter` has made. -/
structure Totals where
  kwh : ℚ := 0
  knownSeconds : ℚ := 0
  unknownSeconds : ℚ := 0
deriving DecidableEq

/-- The record. -/
def Totals.record (t : Totals) : Dict String Stored :=
  EnergyCounter.record
    { kwh := t.kwh, knownSeconds := t.knownSeconds, unknownSeconds := t.unknownSeconds }

def EnergyCounter.totals (c : EnergyCounter) : Totals := ⟨c.kwh, c.knownSeconds, c.unknownSeconds⟩

/-- The file is read back as the record of `t`. -/
def StoreFile.shows (t : Totals) : StoreFile → Bool
  | .holds (some record) => record.hasKeys EnergyCounter.fields ∧
      (storedAt record "kwh").norm = .float t.kwh ∧
      (storedAt record "known_seconds").norm = .float t.knownSeconds ∧
      (storedAt record "unknown_seconds").norm = .float t.unknownSeconds
  | _ => false

/-- The options `configure` reads. -/
structure EnergyOptions where
  /-- `options.get(CONF_ENERGY) is True`. -/
  enabled : Bool := false
  /-- The entries of `options.get(CONF_ENERGY_POWERS, {})`; `none` if it has no items. -/
  powers : Option (List (String × Stored)) := some []
  /-- `options.get(CONF_ENERGY_CIRCULATION, "auto")`. -/
  circulation : Stored := .str "auto"

/-- The settings of the estimate. -/
structure EnergySettings where
  enabled : Bool := false
  profile : Profile := .default
  circulation : CirculationPump := .auto
deriving DecidableEq

/-- Lines 55–64: malformed options disable the estimate. -/
def EnergyOptions.settings (o : EnergyOptions) : EnergySettings :=
  match o.powers.map BalboaRs485.powers,
    Stored.member CirculationPump.text [.auto, .absent, .present] o.circulation with
  | some (.ok profile), .ok circulation => ⟨o.enabled, profile, circulation⟩
  | _, _ => {}

/-- The attributes of `EnergyController` (lines 35–52). -/
structure EnergyController where
  counter : EnergyCounter := {}
  committedKwh : Option ℚ := none
  committedRecord : Totals := {}
  watts : Option ℚ := none
  storageError : Bool := false
  loadFailed : Bool := false
  readyEpoch : Option ℕ := none
  lastSample : Option (ℕ × ℕ × Bool) := none
  configurationSample : Option (ℕ × ℕ) := none
  settings : EnergySettings := {}
  circulationConfigurationRequired : Bool := false

/-- The state the snapshot shows (lines 101–112). -/
def ObservedSnapshot.state (v : ObservedSnapshot) : Option SpaState :=
  match v.snapshot.status, v.snapshot.configuration with
  | some (status, lastStatus), some configuration => some {
      status
      configuration
      epoch := v.snapshot.epoch
      sequence := v.snapshot.statusSequence
      observedAt := lastStatus
      available := v.snapshot.available }
  | _, _ => none

namespace EnergyController

variable (c : EnergyController)

/-- `configure` (lines 54–73). -/
def configure (o : EnergyOptions) (snapshot : Snapshot) : EnergyController :=
  if c.settings ≠ o.settings then
    { c with
      counter := c.counter.breakInterval
      lastSample := none
      configurationSample := some (snapshot.epoch, snapshot.statusSequence)
      watts := none
      circulationConfigurationRequired := false
      settings := o.settings }
  else c

/-- `healthy` (lines 113–118). -/
def healthy (v : ObservedSnapshot) : Bool :=
  (v.snapshot.available ∨ v.Refresh c.readyEpoch) ∧ ¬ v.statusStale ∧ (v.state).isSome

/-- The state that is priced (line 121). -/
def seen (v : ObservedSnapshot) : Option SpaState :=
  if c.settings.enabled ∧ c.healthy v then v.state else none

/-- `watts` (line 125). -/
def power (v : ObservedSnapshot) : Option ℚ :=
  (c.seen v).bind fun s => s.estimate c.settings.profile c.settings.circulation

/-- `observe` up to line 126. -/
def shown (v : ObservedSnapshot) : EnergyController :=
  { c with
    readyEpoch := v.readyEpoch c.readyEpoch
    watts := c.power v
    circulationConfigurationRequired :=
      (c.seen v).any fun s => s.circulationPumpPresent c.settings.circulation = none }

/-- `key` (line 126). -/
def key (v : ObservedSnapshot) : ℕ × ℕ × Bool :=
  (v.snapshot.epoch, v.snapshot.statusSequence, c.healthy v)

/-- The observation is not counted (lines 128–133). -/
def Uncounted (v : ObservedSnapshot) : Prop :=
  ¬ c.settings.enabled ∨ c.loadFailed ∨ c.lastSample = some (c.key v) ∨
    c.configurationSample = some (v.snapshot.epoch, v.snapshot.statusSequence)

instance (v : ObservedSnapshot) : Decidable (c.Uncounted v) :=
  inferInstanceAs (Decidable (¬ _ ∨ _ ∨ _ ∨ _))

/-- `at` (line 136). -/
def observedAt (v : ObservedSnapshot) (time : ℚ) : ℚ :=
  match c.healthy v, v.state with
  | true, some s => s.observedAt
  | _, _ => time

/-- `observe` (lines 93–138); `time` is the one of the event loop. -/
def observe (v : ObservedSnapshot) (time : ℚ) : EnergyController × Except EnergyError Unit :=
  if c.Uncounted v then (c.shown v, .ok ())
  else
    match c.counter.sample (.finite (c.observedAt v time)) ((c.power v).map .finite)
      v.snapshot.epoch with
    | .error e => ({ c.shown v with lastSample := some (c.key v) }, .error e)
    | .ok counter => ({ c.shown v with lastSample := some (c.key v), counter }, .ok ())

/-- The `except` of `async_load` (lines 88–91), which catches `OSError`, `ValueError`, `TypeError`
    and `TimeoutError`. -/
def failLoad : EnergyController := { c with loadFailed := true, storageError := true }

/-- `async_load` (lines 75–91) of what the store finds. -/
def load : StoreFile → EnergyController
  | .absent => c
  | .unreadable => c.failLoad
  | .holds record =>
    match EnergyCounter.restore record with
    | .ok counter =>
      { c with counter, committedKwh := some counter.kwh, committedRecord := counter.totals }
    | .error _ => c.failLoad

/-- There is nothing to save (lines 151–155). -/
def Unsaved : Prop :=
  c.loadFailed ∨ ¬ c.settings.enabled ∧ c.committedKwh = none ∧
    ¬ (c.counter.knownSeconds ≠ 0 ∨ c.counter.unknownSeconds ≠ 0)

instance : Decidable c.Unsaved := inferInstanceAs (Decidable (_ ∨ _ ∧ _ ∧ ¬ _))

/-- The totals are those of the last checkpoint (lines 158–163). -/
def Committed : Prop :=
  c.committedKwh ≠ none ∧ c.counter.totals = c.committedRecord ∧ ¬ c.storageError

instance : Decidable c.Committed := inferInstanceAs (Decidable (_ ∧ _ ∧ ¬ _))

end EnergyController

/-- How the awaits of a checkpoint end. -/
inductive SaveResult where
  /-- With an exception that is caught (line 173). -/
  | raised
  /-- Home Assistant is stopping, and writes at the end. -/
  | deferred
  /-- With another exception, or the task is cancelled. -/
  | aborted
  /-- The file is read back. -/
  | read

/-- The controller, the file of its store, the record `async_save` was called with last, and
    whether a checkpoint holds `_save_lock`. -/
structure EnergySystem where
  controller : EnergyController
  file : StoreFile
  attempt : Option Totals := none
  saving : Bool := false
  /-- The setup was aborted before the totals were loaded. -/
  aborted : Bool := false
  /-- The records of earlier calls of `async_save`, the last one first. -/
  earlier : List Totals := []

/-- What happens to it. -/
inductive EnergyOp where
  | configure (o : EnergyOptions) (snapshot : Snapshot)
  | observe (v : ObservedSnapshot) (time : ℚ)
  | checkpoint
  /-- The record reaches the file. -/
  | land
  /-- An earlier record reaches the file. -/
  | landLate (index : ℕ)
  | saved (result : SaveResult)
  | close
  /-- The process stops, or the entry is unloaded, and it is set up again. -/
  | restart (o : EnergyOptions) (snapshot : Snapshot) (result : LoadEnd)

/-- The controller is called. -/
def EnergyOp.calls : EnergyOp → Bool
  | configure .. | observe .. | checkpoint | close => true
  | _ => false

namespace EnergySystem

variable (w : EnergySystem)

/-- `async_checkpoint` up to its first await (lines 150–166). -/
def checkpoint : EnergySystem :=
  if w.saving ∨ w.controller.Unsaved ∨ w.controller.Committed then w
  else
    { w with
      attempt := some w.controller.counter.totals
      saving := true
      earlier := w.attempt.toList ++ w.earlier }

/-- The rest of `async_checkpoint` (lines 164–181). -/
def saved (result : SaveResult) : EnergySystem :=
  match w.saving, w.attempt, result with
  | true, some record, .read =>
    if w.file.shows record then
      { w with
        controller := { w.controller with
          storageError := false
          committedKwh := some record.kwh
          committedRecord := record }
        saving := false }
    else { w with controller := { w.controller with storageError := true }, saving := false }
  | true, some _, .deferred => { w with saving := false }
  | true, some _, .aborted => { w with saving := false }
  | true, some _, .raised =>
    { w with controller := { w.controller with storageError := true }, saving := false }
  | _, _, _ => w

/-- `async_close` up to its checkpoint (lines 183–192): the loop is cancelled first. -/
def closing : EnergySystem :=
  { w with
    controller := { w.controller with
      watts := none
      circulationConfigurationRequired := false
      counter := w.controller.counter.breakInterval }
    saving := false }

/-- `async_close` (lines 183–193). -/
def close : EnergySystem := w.closing.checkpoint

/-- `__init__` and `async_load`, and `async_close` of a setup that is aborted. -/
def start (file : StoreFile) (o : EnergyOptions) (snapshot : Snapshot) (result : LoadEnd) :
    EnergySystem :=
  let c := EnergyController.configure {} o snapshot
  match result with
  | .read => { controller := c.load file, file }
  | .failed => { controller := c.failLoad, file }
  | .aborted => close { controller := c, file, aborted := true }

/-- A new start, from the file. -/
def restart (o : EnergyOptions) (snapshot : Snapshot) (result : LoadEnd) : EnergySystem :=
  { start w.file o snapshot result with earlier := w.attempt.toList ++ w.earlier }

/-- A record of `async_save` reaches the file. -/
def land : Option Totals → EnergySystem
  | none => w
  | some record => { w with file := .holds (some record.record) }

/-- What a call does to the controller, or a record to the file. -/
def act : EnergyOp → EnergySystem × Except EnergyError Unit
  | .configure o snapshot => ({ w with controller := w.controller.configure o snapshot }, .ok ())
  | .observe v time =>
    ({ w with controller := (w.controller.observe v time).1 }, (w.controller.observe v time).2)
  | .checkpoint => (w.checkpoint, .ok ())
  | .land => (w.land w.attempt, .ok ())
  | .landLate index => (w.land w.earlier[index]?, .ok ())
  | .saved result => (w.saved result, .ok ())
  | .close => (w.close, .ok ())
  | .restart o snapshot result => (w.restart o snapshot result, .ok ())

/-- One step; after an aborted setup the controller is not called. -/
def step (op : EnergyOp) : EnergySystem × Except EnergyError Unit :=
  if w.aborted ∧ op.calls then (w, .ok ()) else w.act op

end EnergySystem

/-! ## Totals -/

instance : LE Totals :=
  ⟨fun a b => a.kwh ≤ b.kwh ∧ a.knownSeconds ≤ b.knownSeconds ∧ a.unknownSeconds ≤ b.unknownSeconds⟩

instance : Preorder Totals where
  le_refl _ := ⟨le_rfl, le_rfl, le_rfl⟩
  le_trans _ _ _ h h' := ⟨h.1.trans h'.1, h.2.1.trans h'.2.1, h.2.2.trans h'.2.2⟩

/-- The totals a record restores. -/
def restored (record : Option (Dict String Stored)) : Option Totals :=
  match EnergyCounter.restore record with
  | .ok c => some c.totals
  | .error _ => none

/-- The totals in a file. -/
def StoreFile.totals : StoreFile → Option Totals
  | .holds record => restored record
  | _ => none

/-- No total is negative. -/
def Totals.Nonneg (t : Totals) : Prop := ({} : Totals) ≤ t

/-- Saved totals are restored as they were. -/
theorem restored_record {t : Totals} (h : t.Nonneg) : restored (some t.record) = some t := by
  unfold restored Totals.record
  rw [EnergyCounter.restore_record h.1 h.2.1 h.2.2]
  rfl

/-- What restores is a record of three totals. -/
theorem restored_some {record : Option (Dict String Stored)} {t : Totals}
    (h : restored record = some t) : ∃ r, record = some r ∧
      EnergyCounter.totalOf (storedAt r "kwh") = .ok t.kwh ∧
      EnergyCounter.totalOf (storedAt r "known_seconds") = .ok t.knownSeconds ∧
      EnergyCounter.totalOf (storedAt r "unknown_seconds") = .ok t.unknownSeconds := by
  unfold restored at h
  split at h
  · next c hrestore =>
    unfold EnergyCounter.restore at hrestore
    split at hrestore
    · cases hrestore
    · next r hfilter =>
      obtain ⟨kwh, hkwh, hrestore⟩ := bind_eq_ok_iff.mp hrestore
      obtain ⟨known, hknown, hrestore⟩ := bind_eq_ok_iff.mp hrestore
      obtain ⟨unknown, hunknown, hrestore⟩ := bind_eq_ok_iff.mp hrestore
      cases hrestore
      cases h
      exact ⟨r, (Option.filter_eq_some_iff.mp hfilter).1, hkwh, hknown, hunknown⟩
  · cases h

/-- A restored counter has nothing to continue from. -/
theorem restore_previous {record : Option (Dict String Stored)} {c : EnergyCounter}
    (h : EnergyCounter.restore record = .ok c) : c.previous = none := by
  unfold EnergyCounter.restore at h
  split at h
  · cases h
  · obtain ⟨_, -, h⟩ := bind_eq_ok_iff.mp h
    obtain ⟨_, -, h⟩ := bind_eq_ok_iff.mp h
    obtain ⟨_, -, h⟩ := bind_eq_ok_iff.mp h
    cases h
    rfl

theorem totalOf_norm {value : Stored} {x y : ℚ} (h : EnergyCounter.totalOf value = .ok x)
    (hnorm : value.norm = .float y) : x = y := by
  cases value with
  | int i =>
    unfold EnergyCounter.totalOf Stored.number at h
    dsimp only at h
    split at h
    · cases h
    · cases h
      exact Stored.float.inj hnorm
  | float z =>
    unfold EnergyCounter.totalOf Stored.number at h
    dsimp only at h
    split at h
    · cases h
    · cases h
      exact Stored.float.inj hnorm
  | _ => cases h

theorem totalOf_nonneg {value : Stored} {x : ℚ} (h : EnergyCounter.totalOf value = .ok x) :
    0 ≤ x := by
  unfold EnergyCounter.totalOf at h
  split at h
  · split at h
    · cases h
    · next hneg =>
      cases h
      exact not_lt.mp hneg
  · cases h

theorem restored_nonneg {record : Option (Dict String Stored)} {t : Totals}
    (h : restored record = some t) : t.Nonneg := by
  obtain ⟨r, -, hkwh, hknown, hunknown⟩ := restored_some h
  exact ⟨totalOf_nonneg hkwh, totalOf_nonneg hknown, totalOf_nonneg hunknown⟩

/-- A record that restores is read back as its totals. -/
theorem StoreFile.totals_of_shows {file : StoreFile} {t t' : Totals} (h : file.shows t = true)
    (hfile : file.totals = some t') : t' = t := by
  cases file with
  | absent => cases h
  | unreadable => cases h
  | holds record =>
    obtain ⟨r, rfl, hkwh, hknown, hunknown⟩ := restored_some hfile
    simp only [shows, decide_eq_true_eq] at h
    obtain ⟨-, hkwh', hknown', hunknown'⟩ := h
    obtain ⟨kwh, known, unknown⟩ := t'
    obtain rfl := totalOf_norm hkwh hkwh'
    obtain rfl := totalOf_norm hknown hknown'
    obtain rfl := totalOf_norm hunknown hunknown'
    rfl

/-! ## The counter -/

theorem EnergyCounter.totals_observe (c : EnergyCounter) (s : Sample) :
    c.totals ≤ (c.observe s).totals := by
  have hrun : c.run [.sample s] = .ok (c.observe s) := by
    rw [run, List.foldlM_cons, call_eq]
    rfl
  have heq : c.reference [.sample s] = c.observe s := Except.ok.inj ((c.run_eq _).symm.trans hrun)
  exact heq ▸ c.reference_ge [.sample s]

namespace EnergyController

variable {c : EnergyController}

theorem power_le {v : ObservedSnapshot} {w : ℚ} (h : w ∈ c.power v) : 0 ≤ w ∧ w ≤ maxWatts := by
  obtain ⟨s, -, hs⟩ := Option.bind_eq_some_iff.mp h
  exact SpaState.estimate_le hs

/-- Nothing but the counter and what is shown has changed. -/
structure SameStorage (c c' : EnergyController) : Prop where
  committedKwh : c'.committedKwh = c.committedKwh
  committedRecord : c'.committedRecord = c.committedRecord
  loadFailed : c'.loadFailed = c.loadFailed

/-- **What `observe` does to the counter**: nothing, or one observation of a power the spa can
    draw. It never raises. -/
theorem observe_case (c : EnergyController) (v : ObservedSnapshot) (time : ℚ) :
    (c.observe v time).2 = .ok () ∧ SameStorage c (c.observe v time).1 ∧
      ((c.observe v time).1.counter = c.counter ∨ c.loadFailed = false ∧
        ∃ s : Sample, (c.observe v time).1.counter = c.counter.observe s ∧
          ∀ w ∈ s.watts, w ≤ maxWatts) := by
  unfold observe
  split
  · exact ⟨rfl, ⟨rfl, rfl, rfl⟩, Or.inl rfl⟩
  · next hcounted =>
    have hsample := c.counter.sample_eq
      ⟨c.observedAt v time, c.power v, v.snapshot.epoch, fun _ hw => (power_le hw).1⟩
    dsimp only at hsample
    rw [hsample]
    have hloaded : c.loadFailed = false := by
      by_contra hfailed
      exact hcounted (Or.inr (Or.inl (by simpa using hfailed)))
    exact ⟨rfl, ⟨rfl, rfl, rfl⟩, Or.inr ⟨hloaded, _, rfl, fun _ hw => (power_le hw).2⟩⟩

/-- Nothing but the counter and the settings has changed. -/
theorem configure_case (c : EnergyController) (o : EnergyOptions) (snapshot : Snapshot) :
    c.SameStorage (c.configure o snapshot) ∧ ((c.configure o snapshot).counter = c.counter ∨
      (c.configure o snapshot).counter = c.counter.breakInterval) := by
  unfold configure
  split
  · exact ⟨⟨rfl, rfl, rfl⟩, Or.inr rfl⟩
  · exact ⟨⟨rfl, rfl, rfl⟩, Or.inl rfl⟩

theorem configure_totals (c : EnergyController) (o : EnergyOptions) (snapshot : Snapshot) :
    (c.configure o snapshot).counter.totals = c.counter.totals := by
  obtain ⟨-, heq | heq⟩ := c.configure_case o snapshot
  · rw [heq]
  · rw [heq]
    rfl

theorem configure_settings (c : EnergyController) (o : EnergyOptions) (snapshot : Snapshot) :
    (c.configure o snapshot).settings = o.settings := by
  unfold configure
  split
  · rfl
  · next hsame => exact not_not.mp hsame

end EnergyController

namespace EnergySystem

/-- A controller that has counted nothing saves something only if the estimate is enabled. -/
theorem unsaved_of_disabled {c : EnergyController} (hcounter : c.counter.totals = {})
    (hcommitted : c.committedKwh = none) (hdisabled : c.settings.enabled = false) : c.Unsaved := by
  obtain ⟨-, hknown, hunknown⟩ := Totals.mk.inj hcounter
  exact Or.inr
    ⟨by simp [hdisabled], hcommitted, not_or.mpr ⟨not_not.mpr hknown, not_not.mpr hunknown⟩⟩

/-- **A setup that is aborted saves zeros** if the estimate is enabled, whatever the file holds. -/
theorem aborted_erases (file : StoreFile) {o : EnergyOptions} (snapshot : Snapshot)
    (h : o.settings.enabled = true) :
    ((start file o snapshot .aborted).step .land).1.file.totals = some {} := by
  obtain ⟨hsame, -⟩ := EnergyController.configure_case {} o snapshot
  have htotals := EnergyController.configure_totals {} o snapshot
  have hsettings := EnergyController.configure_settings {} o snapshot
  unfold start
  dsimp only
  generalize EnergyController.configure {} o snapshot = c at hsame htotals hsettings
  have hzero : c.counter.breakInterval.totals = {} := htotals
  have hwrites : close { controller := c, file, aborted := true } =
      { closing { controller := c, file, aborted := true } with
        attempt := some {}, saving := true, earlier := [] } := by
    unfold close checkpoint
    rw [if_neg, ← hzero]
    · rfl
    · rintro (hsaving | (hfailed | ⟨hdisabled, -⟩) | ⟨hne, -⟩)
      · cases hsaving
      · exact absurd (hsame.loadFailed.symm.trans hfailed) (by decide)
      · exact hdisabled ((congrArg EnergySettings.enabled hsettings).trans h)
      · exact hne hsame.committedKwh
  rw [hwrites]
  exact restored_record (le_refl ({} : Totals))

end EnergySystem

end BalboaRs485
