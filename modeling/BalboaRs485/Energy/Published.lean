import BalboaRs485.Energy.Controller
import BalboaRs485.Lib.Checkpoint
import BalboaRs485.Lib.Machine

/-!
# The published energy total

What the energy sensor shows, over runs in which the process stops, starts again, and finds its
file as the last write that has reached it left it. Energies and times are exact here.

* `step_cell`: a step of the controller and its file is one of `Checkpoint.Step`, or two, or none.
* `published_total`: the published total never falls, over any number of restarts, and what was
  published is in the file.
* `published_bounded`: it never exceeds what the spa can draw in the time it was observed.
-/

namespace BalboaRs485

/-! ## Bounds -/

/-- No more energy than the spa can draw in the known time. -/
def Totals.Bounded (t : Totals) : Prop := t.kwh * 3600000 ≤ maxWatts * t.knownSeconds

/-- The same, for a counter that goes on from a power the spa can draw. -/
structure EnergyCounter.Within (c : EnergyCounter) : Prop where
  totals : c.totals.Bounded
  previous : ∀ p ∈ c.previous, ∀ w ∈ p.watts, w ≤ maxWatts

theorem EnergyCounter.Within.breakInterval {c : EnergyCounter} (h : c.Within) :
    c.breakInterval.Within := ⟨h.totals, nofun⟩

theorem EnergyCounter.Within.observe {c : EnergyCounter} (h : c.Within) {s : Sample}
    (hs : ∀ w ∈ s.watts, w ≤ maxWatts) : (c.observe s).Within := by
  have hprevious : ∀ p ∈ some s, ∀ w ∈ p.watts, w ≤ maxWatts := by
    rintro p ⟨⟩
    exact hs
  unfold EnergyCounter.observe
  split
  · exact ⟨h.totals, hprevious⟩
  · next p hp =>
    dsimp only
    split_ifs with hstale hpriced
    · exact h
    · refine ⟨?_, hprevious⟩
      -- the power before the interval is one the spa can draw
      have hpower : p.watts.getD 0 ≤ maxWatts := by
        cases hw : p.watts with
        | none => exact absurd hw hpriced.2.1
        | some w => exact h.previous p hp w hw
      have hseconds : 0 ≤ s.now - p.now := (not_le.mp hstale).le
      have htotals : c.kwh * 3600000 ≤ maxWatts * c.knownSeconds := h.totals
      show (c.kwh + p.watts.getD 0 * (s.now - p.now) / 3600000) * 3600000 ≤
        maxWatts * (c.knownSeconds + (s.now - p.now))
      calc (c.kwh + p.watts.getD 0 * (s.now - p.now) / 3600000) * 3600000
          = c.kwh * 3600000 + p.watts.getD 0 * (s.now - p.now) := by ring
        _ ≤ maxWatts * c.knownSeconds + maxWatts * (s.now - p.now) :=
          add_le_add htotals (mul_le_mul_of_nonneg_right hpower hseconds)
        _ = maxWatts * (c.knownSeconds + (s.now - p.now)) := by ring
    · exact ⟨h.totals, hprevious⟩

/-! ## Copies of the totals -/

namespace EnergySystem

variable {w : EnergySystem}

/-- The four copies of the totals; a controller that could not load them has none. -/
def cell (w : EnergySystem) : Checkpoint.Cell Totals where
  memory :=
    if w.controller.loadFailed ∨ w.aborted then none else some w.controller.counter.totals
  disk := w.file.totals
  copy := w.attempt
  published := w.controller.committedKwh.map fun _ => w.controller.committedRecord

/-- What every step keeps. -/
structure Rep (w : EnergySystem) : Prop where
  counter : w.controller.counter.totals.Nonneg
  attempt : ∀ t ∈ w.attempt, t.Nonneg
  earlier : ∀ t ∈ w.earlier, t.Nonneg
  committed : ∀ kwh ∈ w.controller.committedKwh, w.controller.committedRecord.kwh = kwh
  /-- A store that could not be read is left alone. -/
  failed : w.controller.loadFailed = true → w.saving = false
  /-- Another one is empty, or holds a record. -/
  file : w.controller.loadFailed = false → w.aborted = false →
    w.file = .absent ∨ w.file.totals.isSome

/-! ### The start -/

/-- The counter after a start. -/
structure Starts (c : EnergyCounter) (t : Totals) : Prop where
  totals : c.totals = t
  previous : c.previous = none

/-- A setup that is aborted has the estimate disabled. -/
def Harmless (o : EnergyOptions) (result : LoadEnd) : Prop :=
  result = .aborted → o.settings.enabled = false

/-- How a start ends: with an empty counter, with the totals of the file, or not at all. -/
inductive StartCase (file : StoreFile) (o : EnergyOptions) (result : LoadEnd) :
    EnergySystem → Prop where
  | fresh {c : EnergyController} (h : file = .absent) (hloaded : c.loadFailed = false)
      (hcommitted : c.committedKwh = none) (hcounter : Starts c.counter {}) :
      StartCase file o result { controller := c, file }
  | loaded {c : EnergyController} (t : Totals) (h : file.totals = some t)
      (hloaded : c.loadFailed = false) (hcommitted : c.committedKwh = some t.kwh)
      (hrecord : c.committedRecord = t) (hcounter : Starts c.counter t) :
      StartCase file o result { controller := c, file }
  | failed {c : EnergyController} (hfailed : c.loadFailed = true)
      (hcommitted : c.committedKwh = none) (hcounter : Starts c.counter {}) :
      StartCase file o result { controller := c, file }
  | aborted {c : EnergyController} {attempt : Option Totals} {saving : Bool}
      (hloaded : c.loadFailed = false) (hcommitted : c.committedKwh = none)
      (hcounter : Starts c.counter {}) (hattempt : ∀ t ∈ attempt, t = {})
      (hharmless : Harmless o result → attempt = none ∧ saving = false) :
      StartCase file o result { controller := c, file, attempt, saving, aborted := true }

theorem start_case (file : StoreFile) (o : EnergyOptions) (snapshot : Snapshot)
    (result : LoadEnd) : StartCase file o result (start file o snapshot result) := by
  obtain ⟨hsame, hcounter⟩ := EnergyController.configure_case {} o snapshot
  have hsettings := EnergyController.configure_settings {} o snapshot
  have hcounter : Starts (EnergyController.configure {} o snapshot).counter {} := by
    rcases hcounter with heq | heq
    · rw [heq]
      exact ⟨rfl, rfl⟩
    · rw [heq]
      exact ⟨rfl, rfl⟩
  unfold start
  dsimp only
  generalize EnergyController.configure {} o snapshot = c at hsame hcounter hsettings
  have hfail : StartCase file o result { controller := c.failLoad, file } :=
    .failed rfl hsame.committedKwh hcounter
  cases result with
  | failed => exact hfail
  | read =>
    cases file with
    | absent => exact .fresh rfl hsame.loadFailed hsame.committedKwh hcounter
    | unreadable => exact hfail
    | holds record =>
      simp only [EnergyController.load]
      cases hrestore : EnergyCounter.restore record with
      | error => exact hfail
      | ok counter =>
        refine .loaded counter.totals ?_ hsame.loadFailed rfl rfl ⟨rfl, restore_previous hrestore⟩
        simp only [StoreFile.totals, restored, hrestore]
  | aborted =>
    have hclosed : Starts c.counter.breakInterval {} := ⟨hcounter.totals, rfl⟩
    show StartCase file o .aborted (close { controller := c, file, aborted := true })
    unfold close checkpoint
    split
    · exact .aborted (c := (closing { controller := c, file }).controller) hsame.loadFailed
        hsame.committedKwh hclosed (fun t ht => by cases ht) fun _ => ⟨rfl, rfl⟩
    · next hwrites =>
      refine .aborted (c := (closing { controller := c, file }).controller) hsame.loadFailed
        hsame.committedKwh hclosed (fun t ht => ?_) fun hharmless => absurd ?_ hwrites
      · obtain rfl := Option.some.inj ht
        exact hclosed.totals
      · refine Or.inr (Or.inl (unsaved_of_disabled hclosed.totals hsame.committedKwh ?_))
        exact (congrArg EnergySettings.enabled hsettings).trans (hharmless rfl)

theorem nonneg_zero : ({} : Totals).Nonneg := le_refl ({} : Totals)

theorem rep_start (file : StoreFile) (o : EnergyOptions) (snapshot : Snapshot)
    (result : LoadEnd) : (start file o snapshot result).Rep := by
  have hcase := start_case file o snapshot result
  generalize start file o snapshot result = w at hcase
  cases hcase with
  | fresh h hloaded hcommitted hcounter =>
    refine ⟨hcounter.totals ▸ nonneg_zero, nofun, nofun, fun kwh hkwh => ?_, fun _ => rfl,
      fun _ _ => Or.inl h⟩
    rw [hcommitted] at hkwh
    cases hkwh
  | loaded t h hloaded hcommitted hrecord hcounter =>
    refine ⟨?_, nofun, nofun, fun kwh hkwh => ?_, fun _ => rfl, fun _ _ => Or.inr ?_⟩
    · rw [hcounter.totals]
      cases file with
      | holds record => exact restored_nonneg h
      | _ => cases h
    · rw [hcommitted] at hkwh
      rw [hrecord]
      exact Option.some.inj hkwh
    · rw [h]
      rfl
  | failed hfailed hcommitted hcounter =>
    refine ⟨hcounter.totals ▸ nonneg_zero, nofun, nofun, fun kwh hkwh => ?_, fun _ => rfl,
      fun hloaded => ?_⟩
    · rw [hcommitted] at hkwh
      cases hkwh
    · exact absurd (hfailed.symm.trans hloaded) (by decide)
  | aborted hloaded hcommitted hcounter hattempt =>
    refine ⟨hcounter.totals ▸ nonneg_zero, fun t ht => hattempt t ht ▸ nonneg_zero, nofun,
      fun kwh hkwh => ?_, fun hfailed => ?_, nofun⟩
    · rw [hcommitted] at hkwh
      cases hkwh
    · exact absurd (hloaded.symm.trans hfailed) (by decide)

/-- The last record is one of the earlier ones. -/
theorem Rep.superseded (h : w.Rep) : ∀ t ∈ w.attempt.toList ++ w.earlier, t.Nonneg := by
  intro t ht
  obtain ht | ht := List.mem_append.mp ht
  · exact h.attempt t (Option.mem_toList.mp ht)
  · exact h.earlier t ht

theorem Rep.restart (h : w.Rep) (o : EnergyOptions) (snapshot : Snapshot) (result : LoadEnd) :
    (w.restart o snapshot result).Rep := by
  have hstart := rep_start w.file o snapshot result
  exact ⟨hstart.counter, hstart.attempt, h.superseded, hstart.committed, hstart.failed, hstart.file⟩

/-- A start is one from the disk, unless it saves zeros. -/
theorem cell_start {o : EnergyOptions} {result : LoadEnd} (hharmless : Harmless o result)
    (w : EnergySystem) (snapshot : Snapshot) :
    Checkpoint.Step w.cell (start w.file o snapshot result).cell := by
  have hcase := start_case w.file o snapshot result
  generalize start w.file o snapshot result = w' at hcase
  cases hcase with
  | @fresh c h hloaded hcommitted =>
    simp only [cell, hloaded, hcommitted, h]
    exact .start c.counter.totals rfl
  | loaded t h hloaded hcommitted hrecord hcounter =>
    simp only [cell, hloaded, hcommitted, hrecord, hcounter.totals]
    exact .restart h
  | failed hfailed hcommitted =>
    simp only [cell, hfailed, hcommitted]
    exact .fail
  | aborted hloaded hcommitted _ _ hidle =>
    obtain ⟨rfl, -⟩ := hidle hharmless
    simp only [cell, hcommitted, or_true]
    exact .fail

/-! ### A step -/

/-- The counter has grown, and the lock may be free. -/
theorem Rep.grow (h : w.Rep) {c : EnergyController} (hsame : w.controller.SameStorage c)
    (hle : w.controller.counter.totals ≤ c.counter.totals) {saving : Bool}
    (hsaving : saving = w.saving ∨ saving = false) : { w with controller := c, saving }.Rep where
  counter := h.counter.trans hle
  attempt := h.attempt
  earlier := h.earlier
  committed kwh hkwh := by
    rw [hsame.committedKwh] at hkwh
    rw [hsame.committedRecord]
    exact h.committed kwh hkwh
  failed hfailed := by
    rw [hsame.loadFailed] at hfailed
    rcases hsaving with heq | heq
    · exact heq.trans (h.failed hfailed)
    · exact heq
  file hloaded := h.file (hsame.loadFailed ▸ hloaded)

theorem cell_grow {c : EnergyController} (hsame : w.controller.SameStorage c)
    (hle : w.controller.counter.totals ≤ c.counter.totals) (saving : Bool) :
    Checkpoint.Reaches w.cell { w with controller := c, saving }.cell := by
  have hcell : { w with controller := c, saving }.cell =
      { w.cell with memory :=
          if w.controller.loadFailed ∨ w.aborted then none else some c.counter.totals } := by
    simp only [cell, hsame.committedKwh, hsame.committedRecord, hsame.loadFailed]
  rw [hcell]
  by_cases hlost : w.controller.loadFailed ∨ w.aborted
  · have hmemory : w.cell.memory = none := if_pos hlost
    simp only [if_pos hlost, ← hmemory]
    exact .refl
  · have hmemory : w.cell.memory = some w.controller.counter.totals := if_neg hlost
    simp only [if_neg hlost]
    exact .single (.advance c.counter.totals hmemory hle)

theorem Rep.checkpoint (h : w.Rep) : w.checkpoint.Rep := by
  unfold EnergySystem.checkpoint
  split
  · exact h
  · next hbegin =>
    refine ⟨h.counter, fun t ht => ?_, h.superseded, h.committed, fun hfailed => ?_, h.file⟩
    · obtain rfl := Option.some.inj ht
      exact h.counter
    · exact absurd (Or.inr (Or.inl (Or.inl hfailed))) hbegin

theorem cell_checkpoint (h : w.aborted = false) :
    Checkpoint.Reaches w.cell w.checkpoint.cell := by
  unfold checkpoint
  split
  · exact .refl
  · next hbegin =>
    have hloaded : ¬ (w.controller.loadFailed = true ∨ w.aborted = true) := by
      rintro (hfailed | haborted)
      · exact hbegin (Or.inr (Or.inl (Or.inl hfailed)))
      · exact absurd (h.symm.trans haborted) (by decide)
    have hmemory : w.cell.memory = some w.controller.counter.totals := if_neg hloaded
    exact .single (.begin hmemory)

/-- How a checkpoint ends: nothing is published, or its record is in the file. -/
theorem saved_case (w : EnergySystem) (result : SaveResult) :
    (∃ c : EnergyController, w.controller.SameStorage c ∧ c.counter = w.controller.counter ∧
        (w.saved result = { w with controller := c, saving := w.saving } ∨
          w.saved result = { w with controller := c, saving := false })) ∨
      ∃ t, w.saving = true ∧ w.attempt = some t ∧ w.file.shows t = true ∧
        w.saved result = { w with
          controller := { w.controller with
            storageError := false
            committedKwh := some t.kwh
            committedRecord := t }
          saving := false } := by
  unfold saved
  split
  · next t hsaving hattempt =>
    split
    · next hshows => exact Or.inr ⟨t, hsaving, hattempt, hshows, rfl⟩
    · exact Or.inl ⟨{ w.controller with storageError := true }, ⟨rfl, rfl, rfl⟩, rfl, Or.inr rfl⟩
  · exact Or.inl ⟨w.controller, ⟨rfl, rfl, rfl⟩, rfl, Or.inr rfl⟩
  · exact Or.inl ⟨w.controller, ⟨rfl, rfl, rfl⟩, rfl, Or.inr rfl⟩
  · exact Or.inl ⟨{ w.controller with storageError := true }, ⟨rfl, rfl, rfl⟩, rfl, Or.inr rfl⟩
  · exact Or.inl ⟨w.controller, ⟨rfl, rfl, rfl⟩, rfl, Or.inl rfl⟩

theorem Rep.saved (h : w.Rep) (result : SaveResult) : (w.saved result).Rep := by
  obtain ⟨c, hsame, hcounter, heq | heq⟩ | ⟨t, -, -, -, heq⟩ := w.saved_case result
  · rw [heq]
    exact h.grow hsame (by rw [hcounter]) (Or.inl rfl)
  · rw [heq]
    exact h.grow hsame (by rw [hcounter]) (Or.inr rfl)
  · rw [heq]
    exact ⟨h.counter, h.attempt, h.earlier, fun kwh hkwh => Option.some.inj hkwh, fun _ => rfl,
      h.file⟩

/-- A record that is read back is in the file. -/
theorem Rep.totals_of_shows (h : w.Rep) (hsaving : w.saving = true) (haborted : w.aborted = false)
    {t : Totals} (hshows : w.file.shows t = true) : w.file.totals = some t := by
  have hloaded : w.controller.loadFailed = false := by
    by_contra hfailed
    rw [h.failed (by simpa using hfailed)] at hsaving
    cases hsaving
  obtain habsent | hsome := h.file hloaded haborted
  · rw [habsent] at hshows
    cases hshows
  · obtain ⟨t', ht'⟩ := Option.isSome_iff_exists.mp hsome
    rw [ht', StoreFile.totals_of_shows hshows ht']

theorem cell_saved (h : w.Rep) (hidle : w.aborted = true → w.saving = false)
    (result : SaveResult) : Checkpoint.Reaches w.cell (w.saved result).cell := by
  obtain ⟨c, hsame, hcounter, heq | heq⟩ | ⟨t, hsaving, -, hshows, heq⟩ := w.saved_case result
  · rw [heq]
    exact cell_grow hsame (by rw [hcounter]) _
  · rw [heq]
    exact cell_grow hsame (by rw [hcounter]) _
  · have haborted : w.aborted = false := by
      by_contra haborted
      rw [hidle (by simpa using haborted)] at hsaving
      cases hsaving
    rw [heq]
    exact .single (.publish (h.totals_of_shows hsaving haborted hshows))

theorem Rep.land (h : w.Rep) {record : Option Totals} (hrecord : ∀ t ∈ record, t.Nonneg) :
    (w.land record).Rep := by
  cases record with
  | none => exact h
  | some t =>
    refine ⟨h.counter, h.attempt, h.earlier, h.committed, h.failed, fun _ _ => Or.inr ?_⟩
    show (restored (some t.record)).isSome
    rw [restored_record (hrecord t rfl)]
    rfl

theorem cell_land (h : w.Rep) : Checkpoint.Reaches w.cell (w.land w.attempt).cell := by
  cases hattempt : w.attempt with
  | none => exact .refl
  | some t =>
    have hland : Checkpoint.Step w.cell { w.cell with disk := some t } := .land hattempt
    rw [← restored_record (h.attempt t hattempt)] at hland
    exact .single hland

theorem Rep.act (h : w.Rep) (op : EnergyOp) : (w.act op).1.Rep := by
  cases op with
  | configure o snapshot =>
    exact h.grow (w.controller.configure_case o snapshot).1
      (w.controller.configure_totals o snapshot).ge (Or.inl rfl)
  | observe v time =>
    obtain ⟨-, hsame, hcounter | ⟨-, s, hcounter, -⟩⟩ := w.controller.observe_case v time
    · exact h.grow hsame (by rw [hcounter]) (Or.inl rfl)
    · have hle := w.controller.counter.totals_observe s
      exact h.grow hsame (hcounter ▸ hle) (Or.inl rfl)
  | checkpoint => exact h.checkpoint
  | land => exact h.land h.attempt
  | landLate index => exact h.land fun t ht => h.earlier t (List.mem_of_getElem? ht)
  | saved result => exact h.saved result
  | close =>
    exact (h.grow (c := w.closing.controller) ⟨rfl, rfl, rfl⟩ le_rfl (Or.inr rfl)).checkpoint
  | restart o snapshot result => exact h.restart o snapshot result

/-- A step is nothing, or what its call does to a controller that was set up. -/
theorem step_case (w : EnergySystem) (op : EnergyOp) : (w.step op).1 = w ∨
    (w.step op).1 = (w.act op).1 ∧ (op.calls = true → w.aborted = false) := by
  unfold step
  split
  · exact Or.inl rfl
  · next hcalled =>
    exact Or.inr ⟨rfl, fun hcalls => Bool.eq_false_iff.mpr fun habort => hcalled ⟨habort, hcalls⟩⟩

theorem Rep.step (h : w.Rep) (op : EnergyOp) : (w.step op).1.Rep := by
  obtain heq | ⟨heq, -⟩ := w.step_case op
  · exact heq.symm ▸ h
  · exact heq.symm ▸ h.act op

end EnergySystem

/-! ### What a run relies on -/

/-- No setup with the estimate enabled is aborted before the totals are loaded. -/
def EnergyOp.Harmless : EnergyOp → Prop
  | restart o _ result => EnergySystem.Harmless o result
  | _ => True

/-- The `Store` lets no record reach the file once the next one or a new start has begun. -/
def EnergyOp.Timely : EnergyOp → Prop
  | landLate _ => False
  | _ => True

namespace EnergySystem

variable {w : EnergySystem}

/-- An aborted setup saves nothing. -/
def Idle (w : EnergySystem) : Prop := w.aborted = true → w.saving = false

theorem idle_start (file : StoreFile) {o : EnergyOptions} (snapshot : Snapshot)
    {result : LoadEnd} (hharmless : Harmless o result) : (start file o snapshot result).Idle := by
  have hcase := start_case file o snapshot result
  generalize start file o snapshot result = w at hcase
  cases hcase with
  | aborted _ _ _ _ hidle => exact fun _ => (hidle hharmless).2
  | _ => nofun

theorem Idle.of_not_aborted (h : w.aborted = false) : w.Idle :=
  fun haborted => absurd (h.symm.trans haborted) (by decide)

theorem Idle.land (h : w.Idle) (record : Option Totals) : (w.land record).Idle := by
  cases record with
  | none => exact h
  | some t => exact h

theorem checkpoint_aborted (w : EnergySystem) : w.checkpoint.aborted = w.aborted := by
  unfold checkpoint
  split <;> rfl

theorem Idle.step (h : w.Idle) {op : EnergyOp} (hharmless : op.Harmless) :
    (w.step op).1.Idle := by
  obtain heq | ⟨heq, hcalled⟩ := w.step_case op
  · exact heq.symm ▸ h
  rw [heq]
  cases op with
  | configure | observe => exact h
  | checkpoint => exact .of_not_aborted ((w.checkpoint_aborted).trans (hcalled rfl))
  | close => exact .of_not_aborted ((w.closing.checkpoint_aborted).trans (hcalled rfl))
  | land => exact h.land _
  | landLate index => exact h.land _
  | saved result =>
    show (w.saved result).Idle
    obtain ⟨c, -, -, heq | heq⟩ | ⟨t, -, -, -, heq⟩ := w.saved_case result
    · exact heq ▸ h
    · exact heq ▸ fun _ => rfl
    · exact heq ▸ fun _ => rfl
  | restart o snapshot result => exact idle_start w.file snapshot hharmless

/-- **A step is one of the checkpoint**, two, or none, if no setup with the estimate enabled is
    aborted and no record is late. -/
theorem step_cell (h : w.Rep) (hidle : w.Idle) {op : EnergyOp} (hharmless : op.Harmless)
    (htimely : op.Timely) : Checkpoint.Reaches w.cell (w.step op).1.cell := by
  obtain heq | ⟨heq, hcalled⟩ := w.step_case op
  · rw [heq]
  rw [heq]
  cases op with
  | configure o snapshot =>
    exact cell_grow (w.controller.configure_case o snapshot).1
      (w.controller.configure_totals o snapshot).ge _
  | observe v time =>
    obtain ⟨-, hsame, hcounter | ⟨-, s, hcounter, -⟩⟩ := w.controller.observe_case v time
    · exact cell_grow hsame (by rw [hcounter]) _
    · exact cell_grow hsame (by rw [hcounter]; exact w.controller.counter.totals_observe s) _
  | checkpoint => exact cell_checkpoint (hcalled rfl)
  | land => exact cell_land h
  | landLate index => exact htimely.elim
  | saved result => exact cell_saved h hidle result
  | close =>
    exact (cell_grow (c := w.closing.controller) ⟨rfl, rfl, rfl⟩ le_rfl false).trans
      (cell_checkpoint (w := w.closing) (hcalled rfl))
  | restart o snapshot result => exact .single (cell_start hharmless w snapshot)

/-! ## Runs -/

/-- The machine of the controller, after a first start. -/
def machine (file : StoreFile) (o : EnergyOptions) (snapshot : Snapshot) (result : LoadEnd) :
    Machine EnergySystem EnergyOp (Except EnergyError Unit) where
  init := start file o snapshot result
  step := step

/-- The controller and its file after the first `n` steps of a run. -/
def systemAt (file : StoreFile) (o : EnergyOptions) (snapshot : Snapshot) (result : LoadEnd)
    (run : List EnergyOp) (n : ℕ) : EnergySystem :=
  (machine file o snapshot result).stateAt run n

section Runs

variable {file : StoreFile} {o : EnergyOptions} {snapshot : Snapshot} {result : LoadEnd}
  {run : List EnergyOp}

variable (file snapshot) in
/-- What every state of such a run has. -/
theorem systemAt_sound (hfirst : Harmless o result) (hsetup : ∀ op ∈ run, op.Harmless)
    (hstore : ∀ op ∈ run, op.Timely) (n : ℕ) :
    (systemAt file o snapshot result run n).Rep ∧ (systemAt file o snapshot result run n).Idle ∧
      Checkpoint.Sound (systemAt file o snapshot result run n).cell := by
  refine (machine file o snapshot result).stateAt_invariant_of
    (P := fun w => w.Rep ∧ w.Idle ∧ Checkpoint.Sound w.cell) run (fun _ op => op ∈ run)
    (fun _ _ => List.mem_of_getElem?)
    ⟨rep_start file o snapshot result, idle_start file snapshot hfirst, ?_⟩
    (fun k op _ hop ⟨hrep, hidle, hsound⟩ => ⟨hrep.step op, hidle.step (hsetup op hop),
      (step_cell hrep hidle (hsetup op hop) (hstore op hop)).sound hsound⟩) n
  -- before its first start the controller has nothing
  have hnothing :
      Checkpoint.Sound ({ controller := .failLoad {}, file } : EnergySystem).cell :=
    ⟨nofun, nofun, nofun⟩
  exact (cell_start hfirst { controller := .failLoad {}, file } snapshot).sound hnothing

variable (file snapshot) in
/-- From one state of such a run to a later one, only checkpoints are taken. -/
theorem systemAt_reaches (hfirst : Harmless o result) (hsetup : ∀ op ∈ run, op.Harmless)
    (hstore : ∀ op ∈ run, op.Timely) {m n : ℕ} (h : m ≤ n) :
    Checkpoint.Reaches (systemAt file o snapshot result run m).cell
      (systemAt file o snapshot result run n).cell := by
  refine (machine file o snapshot result).stateAt_related
    (R := fun w w' => Checkpoint.Reaches w.cell w'.cell) (fun _ => .refl)
    (fun _ _ _ => .trans) (fun k op _ _ hop => ?_) h
  obtain ⟨hrep, hidle, -⟩ := systemAt_sound file snapshot hfirst hsetup hstore k
  have hmem : op ∈ run := List.mem_of_getElem? hop
  rw [Machine.stateAt_succ _ hop]
  exact step_cell hrep hidle (hsetup op hmem) (hstore op hmem)

/-- **The published total never falls**, over any number of restarts, failed and delayed writes;
    and what was published once is in the file at any later time. It rests on two things: no setup
    with the estimate enabled is aborted before the totals are loaded (`aborted_erases`), and the
    `Store` lets no record reach the file after the next one. -/
theorem published_total (hfirst : Harmless o result) (hsetup : ∀ op ∈ run, op.Harmless)
    (hstore : ∀ op ∈ run, op.Timely) {m n : ℕ} (hmn : m ≤ n) {kwh : ℚ}
    (h : (systemAt file o snapshot result run m).controller.committedKwh = some kwh) :
    (∀ later, (systemAt file o snapshot result run n).controller.committedKwh = some later →
      kwh ≤ later) ∧
    ∃ t, (systemAt file o snapshot result run n).file.totals = some t ∧ kwh ≤ t.kwh := by
  obtain ⟨hrep, -, hsound⟩ := systemAt_sound file snapshot hfirst hsetup hstore m
  obtain ⟨hrep', -, -⟩ := systemAt_sound file snapshot hfirst hsetup hstore n
  have hreaches := systemAt_reaches file snapshot hfirst hsetup hstore hmn
  have hpublished : (systemAt file o snapshot result run m).controller.committedRecord ∈
      (systemAt file o snapshot result run m).cell.published := by
    show Option.map _ _ = _
    rw [h]
    rfl
  have hkwh := hrep.committed kwh h
  refine ⟨fun later hlater => ?_, ?_⟩
  · have hpublished' : (systemAt file o snapshot result run n).controller.committedRecord ∈
        (systemAt file o snapshot result run n).cell.published := by
      show Option.map _ _ = _
      rw [hlater]
      rfl
    rw [← hkwh, ← hrep'.committed later hlater]
    exact (hreaches.published_le hsound hpublished hpublished').1
  · obtain ⟨t, ht, hle⟩ := hreaches.durable hsound hpublished
    exact ⟨t, ht, hkwh ▸ hle.1⟩

/-- The file of an earlier process: 2 kWh in an hour. -/
def sampleFile : StoreFile := .holds (some ({ kwh := 2, knownSeconds := 3600 } : Totals).record)

/-- A spa that heats with 3020 W, after `k` seconds. -/
def sampleView (k : ℕ) : ObservedSnapshot where
  snapshot :=
    { state := .ready
      status := some ({ sampleStatus 104 0 true with heatState := .heating }, k)
      configuration := some sampleConfiguration
      statusSequence := k + 1 }
  statusStale := false
  readyMissing := false

/-- It heats for six seconds, the total is saved, and the process starts again. -/
def sampleRun : List EnergyOp :=
  [.observe (sampleView 0) 0, .observe (sampleView 6) 6, .checkpoint, .land, .saved .read,
    .restart { enabled := true } {} .read]

/-- What is published after six seconds of 3020 W. -/
theorem sampleRun_published :
    (systemAt sampleFile { enabled := true } {} .read sampleRun 5).controller.committedKwh =
      some (2 + 3020 * 6 / 3600000) := by
  decide +kernel

theorem published_total_sample :
    (∀ later, (systemAt sampleFile { enabled := true } {} .read sampleRun
        6).controller.committedKwh = some later → 2 + 3020 * 6 / 3600000 ≤ later) ∧
      ∃ t, (systemAt sampleFile { enabled := true } {} .read sampleRun 6).file.totals = some t ∧
        2 + 3020 * 6 / 3600000 ≤ t.kwh := by
  have hfirst : Harmless { enabled := true } .read := nofun
  have hsetup : ∀ op ∈ sampleRun, op.Harmless := by
    simp [sampleRun, EnergyOp.Harmless, Harmless]
  have hstore : ∀ op ∈ sampleRun, op.Timely := by
    simp [sampleRun, EnergyOp.Timely]
  exact published_total hfirst hsetup hstore (Nat.le_succ 5) sampleRun_published

/-! ## No invented energy -/

/-- All copies of the totals are bounded. -/
structure Within (w : EnergySystem) : Prop where
  counter : w.controller.counter.Within
  attempt : ∀ t ∈ w.attempt, t.Bounded
  earlier : ∀ t ∈ w.earlier, t.Bounded
  file : ∀ t ∈ w.file.totals, t.Bounded
  committed : w.controller.committedKwh ≠ none → w.controller.committedRecord.Bounded

theorem Starts.within {c : EnergyCounter} {t : Totals} (h : Starts c t) (ht : t.Bounded) :
    c.Within := ⟨h.totals ▸ ht, by simp [h.previous]⟩

theorem bounded_zero : ({} : Totals).Bounded := by simp [Totals.Bounded]

theorem within_start (hfile : ∀ t ∈ file.totals, t.Bounded) :
    (start file o snapshot result).Within := by
  have hcase := start_case file o snapshot result
  generalize start file o snapshot result = w at hcase
  cases hcase with
  | fresh _ _ hcommitted hcounter =>
    exact ⟨hcounter.within bounded_zero, nofun, nofun, hfile, fun hne => absurd hcommitted hne⟩
  | loaded t h _ _ hrecord hcounter =>
    exact ⟨hcounter.within (hfile t h), nofun, nofun, hfile, fun _ => hrecord ▸ hfile t h⟩
  | failed _ hcommitted hcounter =>
    exact ⟨hcounter.within bounded_zero, nofun, nofun, hfile, fun hne => absurd hcommitted hne⟩
  | aborted _ hcommitted hcounter hattempt =>
    exact ⟨hcounter.within bounded_zero, fun t ht => hattempt t ht ▸ bounded_zero, nofun, hfile,
      fun hne => absurd hcommitted hne⟩

variable {w : EnergySystem}

/-- Only the counter and what is shown have changed. -/
theorem Within.congr (h : w.Within) {c : EnergyController} (hsame : w.controller.SameStorage c)
    (hcounter : c.counter.Within) (saving : Bool) : { w with controller := c, saving }.Within :=
  ⟨hcounter, h.attempt, h.earlier, h.file, fun hne => by
    rw [hsame.committedRecord]
    exact h.committed (hsame.committedKwh ▸ hne)⟩

/-- The last record is one of the earlier ones. -/
theorem Within.superseded (h : w.Within) : ∀ t ∈ w.attempt.toList ++ w.earlier, t.Bounded := by
  intro t ht
  obtain ht | ht := List.mem_append.mp ht
  · exact h.attempt t (Option.mem_toList.mp ht)
  · exact h.earlier t ht

theorem Within.checkpoint (h : w.Within) : w.checkpoint.Within := by
  unfold EnergySystem.checkpoint
  split
  · exact h
  · refine ⟨h.counter, fun t ht => ?_, h.superseded, h.file, h.committed⟩
    obtain rfl := Option.some.inj ht
    exact h.counter.totals

theorem Within.land (h : w.Within) {record : Option Totals} (hnonneg : ∀ t ∈ record, t.Nonneg)
    (hrecord : ∀ t ∈ record, t.Bounded) : (w.land record).Within := by
  cases record with
  | none => exact h
  | some t =>
    refine ⟨h.counter, h.attempt, h.earlier, fun t' ht' => ?_, h.committed⟩
    have hrestored := restored_record (hnonneg t rfl)
    obtain rfl := Option.some.inj (hrestored.symm.trans ht')
    exact hrecord t rfl

theorem Within.restart (h : w.Within) (o : EnergyOptions) (snapshot : Snapshot)
    (result : LoadEnd) : (w.restart o snapshot result).Within := by
  have hstart : (start w.file o snapshot result).Within := within_start h.file
  exact ⟨hstart.counter, hstart.attempt, h.superseded, hstart.file, hstart.committed⟩

theorem Within.act (h : w.Within) (hrep : w.Rep) (op : EnergyOp) : (w.act op).1.Within := by
  cases op with
  | configure o snapshot =>
    obtain ⟨hsame, hcounter | hcounter⟩ := w.controller.configure_case o snapshot
    · exact h.congr hsame (hcounter ▸ h.counter) _
    · exact h.congr hsame (hcounter ▸ h.counter.breakInterval) _
  | observe v time =>
    obtain ⟨-, hsame, hcounter | ⟨-, s, hcounter, hs⟩⟩ := w.controller.observe_case v time
    · exact h.congr hsame (hcounter ▸ h.counter) _
    · exact h.congr hsame (hcounter ▸ h.counter.observe hs) _
  | checkpoint => exact h.checkpoint
  | land => exact h.land hrep.attempt h.attempt
  | landLate index =>
    exact h.land (fun t ht => hrep.earlier t (List.mem_of_getElem? ht))
      fun t ht => h.earlier t (List.mem_of_getElem? ht)
  | saved result =>
    show (w.saved result).Within
    obtain ⟨c, hsame, hcounter, heq | heq⟩ | ⟨t, -, hattempt, -, heq⟩ := w.saved_case result
    · exact heq ▸ h.congr hsame (hcounter ▸ h.counter) _
    · exact heq ▸ h.congr hsame (hcounter ▸ h.counter) _
    · exact heq ▸ ⟨h.counter, h.attempt, h.earlier, h.file, fun _ => h.attempt t hattempt⟩
  | close =>
    exact (h.congr (c := w.closing.controller) ⟨rfl, rfl, rfl⟩ h.counter.breakInterval
      false).checkpoint
  | restart o snapshot result => exact h.restart o snapshot result

theorem Within.step (h : w.Within) (hrep : w.Rep) (op : EnergyOp) : (w.step op).1.Within := by
  obtain heq | ⟨heq, -⟩ := w.step_case op
  · exact heq.symm ▸ h
  · exact heq.symm ▸ h.act hrep op

/-- **No invented energy**: if the file does not begin with more, the published total never
    exceeds what the spa can draw in the time for which its power was known, over any number of
    restarts, aborted setups, late writes, outages and changes of the profile. -/
theorem published_bounded (hfile : ∀ t ∈ file.totals, t.Bounded) (n : ℕ) :
    ∀ kwh ∈ (systemAt file o snapshot result run n).controller.committedKwh,
      kwh * 3600000 ≤ maxWatts *
        (systemAt file o snapshot result run n).controller.committedRecord.knownSeconds := by
  intro kwh hkwh
  have hrun := (machine file o snapshot result).stateAt_invariant (P := fun w => w.Rep ∧ w.Within)
    ⟨rep_start file o snapshot result, within_start hfile⟩
    (fun w op ⟨hrep, hwithin⟩ => ⟨hrep.step op, hwithin.step hrep op⟩) run n
  have hbounded := hrun.2.committed (Option.ne_none_iff_exists'.mpr ⟨kwh, hkwh⟩)
  rw [← hrun.1.committed kwh hkwh]
  exact hbounded

/-- The file of `sampleRun` is bounded, and so is what is published after six seconds more. -/
theorem published_bounded_sample :
    (systemAt sampleFile { enabled := true } {} .read sampleRun 5).controller.committedKwh =
        some (2 + 3020 * 6 / 3600000) ∧
      (2 + 3020 * 6 / 3600000) * 3600000 ≤ maxWatts * (systemAt sampleFile { enabled := true } {}
        .read sampleRun 5).controller.committedRecord.knownSeconds := by
  refine ⟨sampleRun_published, published_bounded (fun t ht => ?_) 5 _ sampleRun_published⟩
  have hfile : sampleFile.totals = some { kwh := 2, knownSeconds := 3600 } := by
    refine restored_record (t := { kwh := 2, knownSeconds := 3600 }) ⟨?_, ?_, le_rfl⟩
    · norm_num
    · norm_num
  obtain rfl := Option.some.inj (hfile.symm.trans ht)
  norm_num [Totals.Bounded, maxWatts]

end Runs

end EnergySystem

end BalboaRs485
