import BalboaRs485.Lib.WriteBack
import BalboaRs485.Prediction.Collector
import BalboaRs485.Prediction.Eta
import BalboaRs485.Prediction.Reload
import BalboaRs485.Runtime.Commands
import BalboaRs485.Runtime.SessionFile

/-!
# The prediction controller

Model of `PredictionController` in `custom_components/balboa_rs485/prediction.py`, which learns
from what it observes, shows a forecast, and saves the model in the background.

`PredictionSystem` is the controller, its worker and the file of its store. `async_save` is cut at
its awaits: its record may reach the file at any time from there on, also after the await has
raised or was cancelled, and the process may stop at any time. What reaches the file only after the
next record or a new start is told apart (`landLate`). The worker is the only caller of
`async_save` until `async_close` has cancelled it, so nobody waits for `_save_lock`.

A setup that is cancelled or raises before the model is loaded closes a controller that has learned
nothing; nobody uses that one again.

* `load_eq_some`: a model is loaded from a record of the same connection and entity only.
* `start_case`: how a process starts.
* `aborted_erases`: a setup that is aborted with an outdoor entity saves a new model.
-/

namespace BalboaRs485

/-! ## Model -/

/-- `round(x, digits)`: half to even. -/
def roundTo (digits : ℕ) (x : ℚ) : ℚ :=
  let scaled := x * 10 ^ digits
  let below := ⌊scaled⌋
  let rest := scaled - below
  ((if rest < 1 / 2 ∨ rest = 1 / 2 ∧ below % 2 = 0 then below else below + 1 : ℤ) : ℚ) / 10 ^ digits

/-- The fallback rate of a new entry is valid. -/
theorem default_fallback : (1 : ℚ) / 10 ≤ 2 ∧ (2 : ℚ) ≤ 8 := by norm_num

/-- The options `configure` reads; the form they are entered in checks the fallback rate. -/
structure PredictionOptions where
  /-- `options.get(CONF_OUTDOOR) or None`. -/
  outdoorEntity : Option String := none
  /-- `options.get(CONF_FALLBACK, 2.0)`. -/
  fallback : ℚ := 2
  fallback_valid : 1 / 10 ≤ fallback ∧ fallback ≤ 8 := by exact default_fallback

/-- The state of the outdoor entity. -/
structure OutdoorState where
  /-- `(now - state.last_reported).total_seconds()`. -/
  age : ℚ
  /-- `float(state.state)`; `none` is a `ValueError`. -/
  value : Option Number
  /-- `none` is any other unit. -/
  unit : Option TemperatureUnit

/-- `value if -60 <= value <= 60 else None` (line 106). -/
def outdoorRange : Number → Option ℚ
  | .finite x => if -60 ≤ x ∧ x ≤ 60 then some x else none
  | .nonfinite => none

/-- `(value - 32) / 1.8`. -/
def celsiusOf (x : ℚ) : ℚ := (x - 32) / (9 / 5)

/-- The rest of `_outdoor` (lines 95–106). -/
def OutdoorState.celsius (s : OutdoorState) : Option ℚ :=
  if ¬ (0 ≤ s.age ∧ s.age ≤ 900) then none
  else
    match s.value, s.unit with
    | some value, some .celsius => outdoorRange value
    | some (.finite x), some .fahrenheit => outdoorRange (.finite (celsiusOf x))
    | _, _ => none

/-- What `observe` is called with, and the clocks and the entity it reads. -/
structure PredictionInput where
  view : ObservedSnapshot
  /-- `now.timestamp()`. -/
  now : ℚ
  /-- `hass.loop.time()`. -/
  time : ℚ
  outdoor : Option OutdoorState := none

namespace PredictionInput

variable (i : PredictionInput)

/-- A temperature of the status in Celsius (lines 121–125). -/
def temperature (read : StatusMessage → Option ℚ) : Option ℚ :=
  i.view.observedStatus.bind fun (status, _) =>
    (read status).map fun x => if status.unit = .fahrenheit then celsiusOf x else x

/-- `water`. -/
def water : Option ℚ := i.temperature StatusMessage.currentTemperature

/-- `target`. -/
def target : Option ℚ := i.temperature StatusMessage.targetTemperature

/-- `heating` (line 128). -/
def heating : Bool := i.view.observedStatus.any fun (status, _) => status.heatState = .heating

/-- `observation` (line 129). -/
def observation : ℕ × ℕ := (i.view.snapshot.epoch, i.view.snapshot.statusSequence)

/-- When the status was received, on the wall clock (lines 135–137). -/
def at_ : ℚ := i.now - max 0 (i.time - (i.view.observedStatus.map Prod.snd).getD 0)

end PredictionInput

/-- `values`. -/
structure PredictionValues where
  heatingRate : Option ℚ
  heatingEta : Option ℚ
  readyAt : Option ℚ
  predictionMae : Option ℚ
  predictionSamples : ℕ

/-- `_forecast_key`. -/
structure ForecastKey where
  healthy : Bool
  water : Option ℚ
  target : Option ℚ
  air : Option ℚ
  heating : Bool
  samples : ℕ
  fallback : ℚ
deriving DecidableEq

/-- The attributes of `PredictionController` (lines 30–43) but its worker. -/
structure PredictionController where
  outdoorEntity : Option String := none
  model : HeatingModel
  collector : SegmentCollector
  storageFailed : Bool := false
  dirty : Bool := false
  /-- `_save_event`. -/
  saveEvent : Bool := false
  forecastAt : ℚ := 0
  /-- `none` is the empty tuple. -/
  forecastKey : Option ForecastKey := none
  observation : Option (ℕ × ℕ) := none
  readyEpoch : Option ℕ := none
  values : Option PredictionValues := none

/-- What `observe` could raise. -/
inductive PredictionError where
  | collector (e : CollectorError)
  | model (e : ModelError)

/-- A model that has learned nothing. -/
def PredictionOptions.model (o : PredictionOptions) : HeatingModel where
  outdoor := o.outdoorEntity.isSome
  fallback := o.fallback
  fallback_valid := o.fallback_valid

namespace PredictionController

variable (c : PredictionController)

/-- `_mark_dirty` (lines 58–60). -/
def markDirty : PredictionController := { c with dirty := true, saveEvent := true }

/-- Another outdoor entity begins anew (lines 49–53). -/
def renewed (o : PredictionOptions) : PredictionController :=
  if o.outdoorEntity ≠ c.outdoorEntity then
    { c with
      outdoorEntity := o.outdoorEntity
      model := o.model
      collector := { outdoor := o.outdoorEntity.isSome } }.markDirty
  else c

/-- `configure` (lines 46–56). -/
def configure (o : PredictionOptions) : PredictionController :=
  { c.renewed o with
    model := { (c.renewed o).model with
      fallback := o.fallback, fallback_valid := o.fallback_valid }
    forecastKey := none }

/-- `__init__` (lines 29–44). -/
def init (o : PredictionOptions) : PredictionController :=
  configure { model := PredictionOptions.model {}, collector := { outdoor := false } } o

/-- `_outdoor` (lines 91–106). -/
def air (i : PredictionInput) : Option ℚ :=
  if c.outdoorEntity = none then none else i.outdoor.bind OutdoorState.celsius

/-- `healthy` (lines 111–120, 127). -/
def healthy (i : PredictionInput) : Bool :=
  (i.view.snapshot.available ∨ i.view.Refresh c.readyEpoch) ∧ i.view.observedStatus.isSome ∧
    (c.outdoorEntity = none ∨ (c.air i).isSome)

/-- What the collector is given (lines 135–140). -/
def collected (i : PredictionInput) : Observation where
  at_ := .finite i.at_
  water := i.water.map .finite
  outdoor := (c.air i).map .finite
  heating := i.heating
  healthy := c.healthy i

/-- A new connection begins a new run (lines 133–134). -/
def continued (i : PredictionInput) : SegmentCollector :=
  if c.observation.any fun old => old.1 ≠ i.view.snapshot.epoch then c.collector.reset
  else c.collector

/-- The segment is learned, or the collector begins anew (lines 142–147). -/
def learn (segment : HeatingSegment) : PredictionController :=
  match c.model.update segment with
  | (.error _, model) => { c with model, collector := c.collector.reset }
  | (.ok (), model) => { c with model }.markDirty

/-- Lines 130–148: what the observation is to the collector and the model. -/
def collect (i : PredictionInput) : Except PredictionError PredictionController :=
  if ¬ c.healthy i then .ok { c with collector := c.collector.reset }
  else if c.observation = some i.observation then .ok c
  else
    match (c.continued i).observe (c.collected i) with
    | .error e => .error (.collector e)
    | .ok (none, collector) => .ok { c with collector }
    | .ok (some segment, collector) => .ok ({ c with collector }.learn segment)

/-- `key` (line 149). -/
def key (i : PredictionInput) : ForecastKey where
  healthy := c.healthy i
  water := i.water
  target := i.target
  air := c.air i
  heating := i.heating
  samples := c.model.samples
  fallback := c.model.fallback

/-- `rate` and `eta` (lines 153–162). -/
def forecast (i : PredictionInput) : Except ModelError (Option ℚ × Option ℚ) :=
  match i.water, i.target with
  | some water, some target =>
    if c.healthy i ∧ (0 ≤ water ∧ water ≤ 45) ∧ (0 ≤ target ∧ target ≤ 45) then do
      let rate ← c.model.rate water (c.air i)
      let eta ← c.model.eta water target (c.air i)
      .ok (rate, eta)
    else .ok (none, none)
  | _, _ => .ok (none, none)

/-- `values` (lines 163–170). -/
def shown (i : PredictionInput) (rate eta : Option ℚ) : PredictionValues where
  heatingRate := rate.map (roundTo 3)
  heatingEta := eta.map (roundTo 1)
  readyAt := (eta.filter fun eta => i.heating ∨ eta = 0).map fun eta => i.now + 60 * eta
  predictionMae := c.model.mae.map (roundTo 1)
  predictionSamples := c.model.samples

/-- The rest of `observe` (lines 149–170). -/
def refresh (i : PredictionInput) : PredictionController × Except PredictionError Unit :=
  if c.forecastKey = some (c.key i) ∧ i.now - c.forecastAt < 30 then (c, .ok ())
  else
    let c := { c with forecastKey := some (c.key i), forecastAt := i.now }
    match c.forecast i with
    | .error e => (c, .error (.model e))
    | .ok (rate, eta) => ({ c with values := some (c.shown i rate eta) }, .ok ())

/-- Lines 111–112. -/
def noted (i : PredictionInput) : PredictionController :=
  { c with readyEpoch := i.view.readyEpoch c.readyEpoch }

/-- `observe` (lines 108–170). -/
def observe (i : PredictionInput) : PredictionController × Except PredictionError Unit :=
  match (c.noted i).collect i with
  | .error e => (c.noted i, .error e)
  | .ok c => { c with observation := some i.observation }.refresh i

end PredictionController

/-! ### Storage -/

/-- `binding` (lines 62–67). -/
structure PredictionBinding where
  connection : Dict String Stored
  outdoorEntity : Option String

/-- `==` of two bindings. -/
def PredictionBinding.same (a b : PredictionBinding) : Bool :=
  sameDict a.connection b.connection ∧ a.outdoorEntity = b.outdoorEntity

/-- The representative of a value among those that Python's `==` identifies. -/
def ModelStored.norm : ModelStored → ModelStored
  | plain value => plain value.norm
  | list items => list (items.map Stored.norm)

/-- `==` of two records of models. -/
def HeatingModel.sameRecord (d d' : Dict String ModelStored) : Bool :=
  d.hasKeys d'.keys ∧ ∀ key ∈ d'.keys, (fieldOf d key).norm = (fieldOf d' key).norm

/-- What a `Store` finds on disk. -/
inductive PredictionFile where
  | absent
  | unreadable
  /-- An object, but no dictionary of `"binding"` and `"model"`. -/
  | malformed
  /-- `none` is a `"binding"` that no controller has, or a `"model"` that is no dictionary. -/
  | holds (binding : Option PredictionBinding) (model : Option (Dict String ModelStored))

/-- What `async_load` catches. -/
inductive PredictionLoadError where
  /-- The store raises. -/
  | unreadable
  /-- `ValueError("Invalid prediction storage")`. -/
  | malformed
  | model (e : ModelError)

namespace PredictionFile

/-- The model `async_load` finds for a binding, if any (lines 72–85). -/
def load (binding : PredictionBinding) (fallback : ℚ) :
    PredictionFile → Except PredictionLoadError (Option HeatingModel)
  | absent => .ok none
  | unreadable => .error .unreadable
  | malformed => .error .malformed
  | holds owner record =>
    if owner.any fun owner => owner.same binding then
      ((HeatingModel.fromRecord record binding.outdoorEntity.isSome fallback).mapError .model).map
        some
    else .ok none

/-- The record of `async_save` (line 188), on disk. -/
def stored (binding : PredictionBinding) (m : HeatingModel) : PredictionFile :=
  holds (some binding) (some m.toRecord)

/-- `await self._store().async_load() == record` (line 195). -/
def shows (binding : PredictionBinding) (m : HeatingModel) : PredictionFile → Bool
  | holds (some owner) (some record) =>
    owner.same binding && HeatingModel.sameRecord record m.toRecord
  | _ => false

end PredictionFile

/-- The controller, the connection of its coordinator, the file of its store, the record
    `async_save` was called with last, and its task. -/
structure PredictionSystem where
  controller : PredictionController
  connection : Dict String Stored
  file : PredictionFile
  attempt : Option (PredictionBinding × HeatingModel) := none
  /-- `_task`: asleep at line 211, writing in its `async_save`, or gone; `last` is the
      `async_save` of `async_close`. -/
  task : WriteBack.Saver := .asleep
  /-- `hass.state is CoreState.stopping`. -/
  stopping : Bool := false
  /-- The setup was aborted before the model was loaded. -/
  aborted : Bool := false
  /-- The records of earlier calls of `async_save`, the last one first. -/
  earlier : List (PredictionBinding × HeatingModel) := []

/-- What happens to it. -/
inductive PredictionOp where
  | configure (o : PredictionOptions)
  | observe (i : PredictionInput)
  /-- The task goes on after `_save_event.wait()`. -/
  | wake
  /-- The record reaches the file. -/
  | land
  /-- An earlier record reaches the file. -/
  | landLate (index : ℕ)
  | saved (result : SaveEnd)
  /-- The task is cancelled. -/
  | cancel
  | close
  | stop
  /-- The process stops, or the entry is unloaded, and it is set up again. -/
  | restart (o : PredictionOptions) (connection : Dict String Stored) (result : LoadEnd)

/-- The controller is called, or its task goes on. -/
def PredictionOp.calls : PredictionOp → Bool
  | configure _ | observe _ | wake | cancel | close => true
  | _ => false

namespace PredictionSystem

variable (w : PredictionSystem)

def binding : PredictionBinding := ⟨w.connection, w.controller.outdoorEntity⟩

/-- `async_save` up to its first await (lines 184–191). -/
def save (busy idle : WriteBack.Saver) : PredictionSystem :=
  if ¬ w.controller.dirty ∨ w.controller.storageFailed then { w with task := idle }
  else
    { w with
      controller := { w.controller with dirty := false }
      attempt := some (w.binding, w.controller.model)
      task := busy
      earlier := w.attempt.toList ++ w.earlier }

/-- `self._save_event.clear()`. -/
def cleared : PredictionSystem := { w with controller := { w.controller with saveEvent := false } }

/-- One turn of `_run` (lines 210–213). -/
def wake : PredictionSystem :=
  if w.task = .asleep ∧ w.controller.saveEvent then w.cleared.save .writing .asleep else w

/-- A record of `async_save` reaches the file. -/
def land : Option (PredictionBinding × HeatingModel) → PredictionSystem
  | none => w
  | some (binding, m) => { w with file := .stored binding m }

/-- Lines 197–199. -/
def cancelled : PredictionSystem :=
  { w with controller := { w.controller with dirty := true }, task := .gone }

/-- Lines 200–202. -/
def raised : PredictionSystem :=
  { w with controller := { w.controller with storageFailed := true }, task := w.task.after }

/-- The rest of `async_save` (lines 191–202); nothing is read back while Home Assistant stops. -/
def saved (result : SaveEnd) : PredictionSystem :=
  match w.attempt, result with
  | some (binding, m), .read =>
    if ¬ w.task.busy then w
    else if w.stopping ∨ w.file.shows binding m then { w with task := w.task.after }
    else w.raised
  | _, .cancelled => if w.task.busy then w.cancelled else w
  | _, _ => if w.task.busy then w.raised else w

/-- The task is cancelled (lines 216–218). -/
def cancel : PredictionSystem :=
  match w.task with
  | .asleep => { w with task := .gone }
  | .writing => w.cancelled
  | _ => w

/-- `async_close` (lines 215–221). -/
def close : PredictionSystem :=
  if w.task = .last then w else w.cancel.save .last .gone

/-- `__init__`, `async_load` (lines 72–89) and `start`, or `async_close` of a setup that is
    aborted. -/
def start (file : PredictionFile) (o : PredictionOptions) (connection : Dict String Stored)
    (result : LoadEnd) : PredictionSystem :=
  let c := PredictionController.init o
  match result with
  | .aborted => close { controller := c, connection, file, aborted := true }
  | .failed => { controller := { c with storageFailed := true }, connection, file }
  | .read =>
    match file.load ⟨connection, o.outdoorEntity⟩ c.model.fallback with
    | .ok none => { controller := c, connection, file }
    | .ok (some model) => { controller := { c with model, dirty := false }, connection, file }
    | .error _ => { controller := { c with storageFailed := true }, connection, file }

/-- A new start, from the file. -/
def restart (o : PredictionOptions) (connection : Dict String Stored) (result : LoadEnd) :
    PredictionSystem :=
  { start w.file o connection result with earlier := w.attempt.toList ++ w.earlier }

/-- What a call does to the controller, or a record to the file. -/
def act : PredictionOp → PredictionSystem × Except PredictionError Unit
  | .configure o => ({ w with controller := w.controller.configure o }, .ok ())
  | .observe i => ({ w with controller := (w.controller.observe i).1 }, (w.controller.observe i).2)
  | .wake => (w.wake, .ok ())
  | .land => (w.land w.attempt, .ok ())
  | .landLate index => (w.land w.earlier[index]?, .ok ())
  | .saved result => (w.saved result, .ok ())
  | .cancel => (w.cancel, .ok ())
  | .close => (w.close, .ok ())
  | .stop => ({ w with stopping := true }, .ok ())
  | .restart o connection result => (w.restart o connection result, .ok ())

/-- One step; after an aborted setup the controller is not called. -/
def step (op : PredictionOp) : PredictionSystem × Except PredictionError Unit :=
  if w.aborted ∧ op.calls then (w, .ok ()) else w.act op

/-- The machine of a controller that finds `file`. -/
def machine (file : PredictionFile) (o : PredictionOptions) (connection : Dict String Stored)
    (result : LoadEnd) : Machine PredictionSystem PredictionOp (Except PredictionError Unit) where
  init := start file o connection result
  step := step

/-- The controller and its file after the first `n` steps of a run. -/
def systemAt (file : PredictionFile) (o : PredictionOptions) (connection : Dict String Stored)
    (result : LoadEnd) (run : List PredictionOp) (n : ℕ) : PredictionSystem :=
  (machine file o connection result).stateAt run n

end PredictionSystem

/-! ## What is loaded -/

/-- What `from_record` makes is made with its arguments. -/
theorem HeatingModel.fromRecord_made {record : Option (Dict String ModelStored)} {outdoor : Bool}
    {fallback : ℚ} {m : HeatingModel} (h : fromRecord record outdoor fallback = .ok m) :
    m.outdoor = outdoor ∧ m.fallback = fallback := by
  obtain ⟨made, hinit, h⟩ := bind_eq_ok_iff.mp h
  obtain ⟨d, -, h⟩ := bind_eq_ok_iff.mp h
  obtain ⟨samples, -, h⟩ := bind_eq_ok_iff.mp h
  obtain ⟨⟨sums, errors⟩, -, h⟩ := bind_eq_ok_iff.mp h
  obtain ⟨lastUpdate, -, h⟩ := bind_eq_ok_iff.mp h
  obtain ⟨houtdoor, hfallback, -⟩ := init_ok hinit
  unfold checkMetrics at h
  split at h
  · cases h
  · cases h
    exact ⟨houtdoor, hfallback⟩

/-- A model that is loaded comes from a record of the same binding. -/
theorem PredictionFile.load_eq_some {file : PredictionFile} {binding : PredictionBinding}
    {fallback : ℚ} {m : HeatingModel} (h : file.load binding fallback = .ok (some m)) :
    ∃ owner record, file = .holds (some owner) record ∧ owner.same binding = true ∧
      HeatingModel.fromRecord record binding.outdoorEntity.isSome fallback = .ok m := by
  unfold load at h
  split at h
  · cases h
  · cases h
  · cases h
  · next owner record =>
    split at h
    · next hsame =>
      obtain ⟨m', hread, hm⟩ := map_eq_ok_iff.mp h
      obtain rfl := Option.some.inj hm
      cases owner with
      | none => cases hsame
      | some owner =>
        refine ⟨owner, record, rfl, hsame, ?_⟩
        cases hrecord : HeatingModel.fromRecord record binding.outdoorEntity.isSome fallback with
        | error e =>
          rw [hrecord] at hread
          cases hread
        | ok m =>
          rw [hrecord] at hread
          cases hread
          rfl
    · cases h

namespace PredictionSystem

/-- What a new controller is. -/
theorem init_eq (o : PredictionOptions) : PredictionController.init o =
    { outdoorEntity := o.outdoorEntity
      model := o.model
      collector := { outdoor := o.outdoorEntity.isSome }
      dirty := o.outdoorEntity.isSome
      saveEvent := o.outdoorEntity.isSome } := by
  unfold PredictionController.init PredictionController.configure PredictionController.renewed
  obtain ⟨entity, fallback, hfallback⟩ := o
  cases entity with
  | none =>
    rw [if_neg (not_not.mpr rfl)]
    rfl
  | some name =>
    rw [if_pos nofun]
    rfl

/-- A setup that is aborted has no outdoor entity. -/
def Harmless (o : PredictionOptions) (result : LoadEnd) : Prop :=
  result = .aborted → o.outdoorEntity = none

/-- How a start ends: with a new model, with that of the file, without one, or not at all. -/
inductive StartCase (file : PredictionFile) (o : PredictionOptions)
    (connection : Dict String Stored) (result : LoadEnd) : PredictionSystem → Prop where
  | fresh (h : file.load ⟨connection, o.outdoorEntity⟩ o.fallback = .ok none) :
      StartCase file o connection result
        { controller := PredictionController.init o, connection, file }
  | loaded (m : HeatingModel)
      (h : file.load ⟨connection, o.outdoorEntity⟩ o.fallback = .ok (some m)) :
      StartCase file o connection result
        { controller := { PredictionController.init o with model := m, dirty := false }
          connection
          file }
  | failed :
      StartCase file o connection result
        { controller := { PredictionController.init o with storageFailed := true }
          connection
          file }
  /-- Nothing is saved. -/
  | aborted :
      StartCase file o connection result
        { controller := PredictionController.init o
          connection
          file
          task := .gone
          aborted := true }
  | erased (h : ¬ Harmless o result) :
      StartCase file o connection result
        { controller := { PredictionController.init o with dirty := false }
          connection
          file
          attempt := some (⟨connection, o.outdoorEntity⟩, o.model)
          task := .last
          aborted := true }

theorem start_aborted (file : PredictionFile) (o : PredictionOptions)
    (connection : Dict String Stored) : start file o connection .aborted =
      if o.outdoorEntity = none then
        { controller := PredictionController.init o
          connection
          file
          task := .gone
          aborted := true }
      else
        { controller := { PredictionController.init o with dirty := false }
          connection
          file
          attempt := some (⟨connection, o.outdoorEntity⟩, o.model)
          task := .last
          aborted := true } := by
  unfold start close cancel save
  rw [init_eq]
  cases hentity : o.outdoorEntity with
  | none => rfl
  | some name => simp [binding]

theorem start_case (file : PredictionFile) (o : PredictionOptions) (connection : Dict String Stored)
    (result : LoadEnd) : StartCase file o connection result (start file o connection result) := by
  have hfallback : (PredictionController.init o).model.fallback = o.fallback := by
    rw [init_eq]
    rfl
  cases result with
  | aborted =>
    rw [start_aborted]
    split
    · exact .aborted
    · next hentity => exact .erased fun hharmless => hentity (hharmless rfl)
  | failed => exact .failed
  | read =>
    unfold start
    dsimp only
    rw [hfallback]
    split
    · next hload => exact .fresh hload
    · next m hload => exact .loaded m hload
    · exact .failed

/-- **A setup that is aborted saves a new model** if there is an outdoor entity, whatever the file
    holds. -/
theorem aborted_erases (file : PredictionFile) {o : PredictionOptions}
    (connection : Dict String Stored) (h : o.outdoorEntity ≠ none) :
    ((start file o connection .aborted).step .land).1.file =
      .stored ⟨connection, o.outdoorEntity⟩ o.model := by
  rw [start_aborted, if_neg h]
  rfl

/-- A controller that was set up is called. -/
theorem step_eq {w : PredictionSystem} {op : PredictionOp}
    (h : w.aborted = false ∨ op.calls = false) : w.step op = w.act op := by
  refine if_neg fun hskipped => ?_
  obtain hused | hcalls := h
  · exact absurd (hused.symm.trans hskipped.1) (by decide)
  · exact absurd (hcalls.symm.trans hskipped.2) (by decide)

/-- A step is nothing, or what its call does to a controller that was set up. -/
theorem step_case (w : PredictionSystem) (op : PredictionOp) : w.step op = (w, .ok ()) ∨
    w.step op = w.act op ∧ (op.calls = true → w.aborted = false) := by
  unfold step
  split
  · exact Or.inl rfl
  · next hcalled =>
    exact Or.inr ⟨rfl, fun hcalls => Bool.eq_false_iff.mpr fun habort => hcalled ⟨habort, hcalls⟩⟩

end PredictionSystem

end BalboaRs485
