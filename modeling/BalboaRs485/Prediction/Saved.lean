import BalboaRs485.Prediction.Learning

/-!
# The saved heating model

What `async_save` writes is what `async_load` finds, whatever the fallback rate is by then.

* `fromRecord_toRecord_under`: a learned model is read back under other options.
* `finds_of_shows`: a file that equals a record is loaded as its model.
* `step_reaches`: a step of the controller is steps of a value that is written back.
* `model_durable`: so a restart between two saves has the same model.
-/

namespace BalboaRs485

namespace HeatingModel

/-- The model under other options of the same entity. -/
def under (m : HeatingModel) (o : PredictionOptions) : HeatingModel :=
  { m with fallback := o.fallback, fallback_valid := o.fallback_valid }

/-! ## Reading a record back -/

theorem coefficients_under {m : HeatingModel} (h : 0 < m.sums.weight) (o : PredictionOptions) :
    (m.under o).coefficients = m.coefficients := by
  have hpos : ¬ m.sums.weight ≤ 0 := not_le.mpr h
  have hpos' : ¬ (m.under o).sums.weight ≤ 0 := hpos
  unfold coefficients
  dsimp only
  rw [if_neg hpos, if_neg hpos']
  rfl

theorem checkMetrics_under {m : HeatingModel} (h : m.samples ≠ 0 → 0 < m.sums.weight)
    (o : PredictionOptions) : (m.under o).checkMetrics m.toRecord = .ok (m.under o) := by
  have hcoefficients : fieldOf m.toRecord "coefficients" =
      .list ([m.coefficients.1, m.coefficients.2].map .float) := fieldOf_eq 5 rfl
  have hmae : fieldOf m.toRecord "mae" = .plain (.ofOption (m.under o).mae) := fieldOf_eq 7 rfl
  have hmedian : fieldOf m.toRecord "median_error" = .plain (.ofOption (m.under o).medianError) :=
    fieldOf_eq 8 rfl
  unfold checkMetrics
  rw [hcoefficients, hmae, hmedian, ModelStored.equals_ofOption, ModelStored.equals_ofOption,
    if_neg]
  rintro (⟨hsamples, hne⟩ | h | h)
  · rw [coefficients_under (h hsamples)] at hne
    exact hne (by simp [ModelStored.equalsPair, Stored.equals])
  · exact h rfl
  · exact h rfl

/-- **A learned model is read back under other options**: its record does not depend on the
    fallback rate unless it is empty, when its coefficients are not compared. -/
theorem fromRecord_toRecord_under {m : HeatingModel} (h : Learned m)
    (hsamples : m.samples ≤ 1000000000) (o : PredictionOptions) :
    fromRecord (some m.toRecord) m.outdoor o.fallback = .ok (m.under o) := by
  have hlast : fieldOf m.toRecord "last_update" = .plain (.ofOption m.lastUpdate) :=
    fieldOf_eq 3 rfl
  have hinit : init m.outdoor o.fallback =
      .ok { outdoor := m.outdoor, fallback := o.fallback, fallback_valid := o.fallback_valid } :=
    dif_pos o.fallback_valid
  have hlearned : ({ m.under o with lastUpdate := none } : HeatingModel).checkLearned
      (.plain (.ofOption m.lastUpdate)) = .ok m.lastUpdate := h.checkLearned
  unfold fromRecord
  simp only [hinit, shaped_toRecord, storedSamples_toRecord hsamples,
    storedStatistics_toRecord h.errors, hlast, ok_bind]
  unfold under at hlearned
  dsimp only at hlearned
  rw [hlearned, ok_bind]
  exact checkMetrics_under (fun hne => (h.learned hne).1) o

theorem finite_ofOption {x : Option ℚ} {y : ℚ} (h : (Stored.ofOption x).finite = .ok y) :
    x = some y := by
  cases x with
  | none => cases h
  | some x =>
    cases h
    rfl

theorem checkLearned_eq {m : HeatingModel} {x last : Option ℚ}
    (h : m.checkLearned (.plain (.ofOption x)) = .ok last) : x = last := by
  unfold checkLearned at h
  dsimp only at h
  split at h
  · obtain ⟨y, hy, h⟩ := bind_eq_ok_iff.mp h
    split at h
    · cases h
    split at h
    · cases h
    · cases h
      exact finite_ofOption hy
  · split at h
    · cases h
    · next hempty =>
      cases h
      cases x with
      | none => rfl
      | some x => exact absurd (Or.inl nofun) hempty

/-- What is read from the record of a model is the model, whatever has been checked. -/
theorem fromRecord_toRecord_eq {m m' : HeatingModel} {outdoor : Bool} {o : PredictionOptions}
    (h : fromRecord (some m.toRecord) outdoor o.fallback = .ok m') :
    outdoor = m.outdoor ∧ m' = m.under o := by
  have hlast : fieldOf m.toRecord "last_update" = .plain (.ofOption m.lastUpdate) :=
    fieldOf_eq 3 rfl
  have houtdoor : fieldOf m.toRecord "outdoor" = .plain (.bool m.outdoor) := fieldOf_eq 1 rfl
  have hcount : fieldOf m.toRecord "samples" = .plain (.int m.samples) := fieldOf_eq 2 rfl
  have hinit : init outdoor o.fallback =
      .ok { outdoor, fallback := o.fallback, fallback_valid := o.fallback_valid } :=
    dif_pos o.fallback_valid
  unfold fromRecord at h
  rw [hinit, ok_bind, shaped_toRecord, ok_bind] at h
  obtain ⟨samples, hsamples, h⟩ := bind_eq_ok_iff.mp h
  obtain ⟨⟨sums, errors⟩, hstatistics, h⟩ := bind_eq_ok_iff.mp h
  obtain ⟨lastUpdate, hlearned, h⟩ := bind_eq_ok_iff.mp h
  have hlength : m.errors.length ≤ 64 := by
    have hsums : fieldOf m.toRecord "sums" =
        .list ([m.sums.weight, m.sums.x, m.sums.xx, m.sums.y, m.sums.xy].map .float) :=
      fieldOf_eq 4 rfl
    have herrors : fieldOf m.toRecord "errors" = .list (m.errors.map .float) := fieldOf_eq 6 rfl
    unfold storedStatistics at hstatistics
    simp only [hsums, herrors, List.map_cons, List.map_nil, List.length_map] at hstatistics
    split at hstatistics
    · cases hstatistics
    · next hle => exact not_lt.mp hle
  rw [storedStatistics_toRecord hlength] at hstatistics
  obtain ⟨rfl, rfl⟩ := Prod.mk.inj (Except.ok.inj hstatistics)
  unfold storedSamples at hsamples
  simp only [houtdoor, hcount] at hsamples
  split at hsamples
  · next hvalid =>
    obtain rfl := hvalid.1
    rw [Int.toNat_natCast] at hsamples
    cases hsamples
    rw [hlast] at hlearned
    obtain rfl := checkLearned_eq hlearned
    unfold checkMetrics at h
    split at h
    · cases h
    · cases h
      exact ⟨rfl, rfl⟩
  · cases hsamples

/-! ## Equal records -/

theorem map_float_inj {l l' : List ℚ}
    (h : (l.map Stored.float).map Stored.norm = (l'.map Stored.float).map Stored.norm) :
    l = l' := by
  have hnorm : Stored.norm ∘ Stored.float = Stored.float := rfl
  rw [List.map_map, List.map_map, hnorm] at h
  exact List.map_injective_iff.mpr (fun _ _ => Stored.float.inj) h

/-- Records that are equal are those of one model, up to its fallback rate. -/
theorem toRecord_inj {m m' : HeatingModel} (h : sameRecord m.toRecord m'.toRecord = true)
    (o : PredictionOptions) : m.outdoor = m'.outdoor ∧ m.under o = m'.under o := by
  have hkeys : m'.toRecord.keys = fields := rfl
  simp only [sameRecord, decide_eq_true_eq, hkeys] at h
  obtain ⟨-, hfield⟩ := h
  have hvalue : ∀ (i : ℕ) (key : String) (value value' : ModelStored), key ∈ fields →
      m.toRecord.entries[i]? = some (key, value) → m'.toRecord.entries[i]? = some (key, value') →
      value.norm = value'.norm := by
    intro i key value value' hkey hv hv'
    rw [← fieldOf_eq i hv, ← fieldOf_eq i hv']
    exact hfield key hkey
  have houtdoor := hvalue 1 "outdoor" _ _ (by decide) rfl rfl
  have hsamples := hvalue 2 "samples" _ _ (by decide) rfl rfl
  have hlast := hvalue 3 "last_update" _ _ (by decide) rfl rfl
  have hsums := hvalue 4 "sums" _ _ (by decide) rfl rfl
  have herrors := hvalue 6 "errors" _ _ (by decide) rfl rfl
  have houtdoor : m.outdoor = m'.outdoor := Stored.flag_inj (ModelStored.plain.inj houtdoor)
  have hsamples : m.samples = m'.samples := by
    simpa [ModelStored.norm, Stored.norm] using hsamples
  have hlast : m.lastUpdate = m'.lastUpdate := Stored.ofOption_inj (ModelStored.plain.inj hlast)
  have hsums : [m.sums.weight, m.sums.x, m.sums.xx, m.sums.y, m.sums.xy] =
      [m'.sums.weight, m'.sums.x, m'.sums.xx, m'.sums.y, m'.sums.xy] :=
    map_float_inj (ModelStored.list.inj hsums)
  have herrors : m.errors = m'.errors := map_float_inj (ModelStored.list.inj herrors)
  have hsums : m.sums = m'.sums := by
    simp only [List.cons.injEq, and_true] at hsums
    obtain ⟨hweight, hx, hxx, hy, hxy⟩ := hsums
    show Moments.mk _ _ _ _ _ = ⟨_, _, _, _, _⟩
    rw [hweight, hx, hxx, hy, hxy]
  refine ⟨houtdoor, ?_⟩
  unfold under
  rw [houtdoor, hsamples, hlast, hsums, herrors]

end HeatingModel

/-! ## The file -/

/-- What a controller keeps: a model, and what it belongs to. -/
structure Kept where
  binding : PredictionBinding
  model : HeatingModel

/-- The model can have been learned for the entity. -/
structure Kept.Valid (a : Kept) : Prop where
  learned : a.model.Learned
  outdoor : a.model.outdoor = a.binding.outdoorEntity.isSome

theorem PredictionOptions.model_valid (o : PredictionOptions) (connection : Dict String Stored) :
    Kept.Valid ⟨⟨connection, o.outdoorEntity⟩, o.model⟩ :=
  ⟨HeatingModel.learned_init (dif_pos o.fallback_valid), rfl⟩

theorem Kept.Valid.under {b : PredictionBinding} {m : HeatingModel} (h : Kept.Valid ⟨b, m⟩)
    (o : PredictionOptions) : Kept.Valid ⟨b, m.under o⟩ :=
  ⟨⟨h.learned.spread, h.learned.rates, h.learned.weight, h.learned.learned, h.learned.empty,
    h.learned.errors⟩, h.outdoor⟩

theorem Kept.Valid.update {b : PredictionBinding} {m : HeatingModel} (h : Kept.Valid ⟨b, m⟩)
    (segment : HeatingSegment) : Kept.Valid ⟨b, (m.update segment).2⟩ :=
  ⟨h.learned.update segment, (PredictionController.update_outdoor m segment).trans h.outdoor⟩

theorem PredictionBinding.same_refl (b : PredictionBinding) : b.same b = true := by
  simp [same, sameDict_refl]

theorem PredictionBinding.same_entity {b b' : PredictionBinding} (h : b.same b' = true) :
    b.outdoorEntity = b'.outdoorEntity := by
  simp only [same, decide_eq_true_eq] at h
  exact h.2

namespace PredictionFile

variable {file : PredictionFile} {b b' : PredictionBinding} {m : HeatingModel}

theorem load_holds (h : b.same b' = true) (record : Option (Dict String ModelStored))
    (fallback : ℚ) : (holds (some b) record).load b' fallback =
      ((HeatingModel.fromRecord record b'.outdoorEntity.isSome fallback).mapError
        .model).map some :=
  if_pos h

/-- **A saved model is loaded**, under the options of its new controller. -/
theorem load_stored (hm : Kept.Valid ⟨b, m⟩) (hsamples : m.samples ≤ 1000000000)
    (h : b.same b' = true) (o : PredictionOptions) :
    (stored b m).load b' o.fallback = .ok (some (m.under o)) := by
  have houtdoor : b'.outdoorEntity.isSome = m.outdoor := by
    rw [← PredictionBinding.same_entity h]
    exact hm.outdoor.symm
  rw [stored, load_holds h, houtdoor, HeatingModel.fromRecord_toRecord_under hm.learned hsamples o]
  rfl

/-- Every start with the binding has the model, if the loader accepts its number of samples. -/
def Finds (file : PredictionFile) (a : Kept) : Prop :=
  a.model.samples ≤ 1000000000 →
    ∀ o : PredictionOptions, o.outdoorEntity = a.binding.outdoorEntity →
      ∃ found, file.load a.binding o.fallback = .ok found ∧ found.getD o.model = a.model.under o

/-- What the file holds was saved by a controller. -/
def Own : PredictionFile → Prop
  | holds owner record =>
    ∃ a : Kept, a.Valid ∧ owner = some a.binding ∧ record = some a.model.toRecord
  | _ => True

theorem finds_stored (a : Kept) (h : a.Valid) : Finds (stored a.binding a.model) a :=
  fun hsamples o _ => ⟨_, load_stored h hsamples a.binding.same_refl o, rfl⟩

/-- A file that equals a record is loaded as its model. -/
theorem finds_of_shows (hown : file.Own) (h : file.shows b m = true) : file.Finds ⟨b, m⟩ := by
  unfold shows at h
  split at h
  · obtain ⟨a, ha, howner, hrecord⟩ := hown
    cases howner
    cases hrecord
    obtain ⟨hsame, hrecord⟩ := Bool.and_eq_true_iff.mp h
    intro hsamples o _
    obtain ⟨-, hunder⟩ := HeatingModel.toRecord_inj hrecord o
    have hcount : (a.model.under o).samples = (m.under o).samples := congrArg _ hunder
    exact ⟨_, load_stored ha (hcount.trans_le hsamples) hsame o, hunder⟩
  · cases h

/-- What a start takes from a file that a controller saved. -/
theorem Own.load (hown : file.Own) {o : PredictionOptions}
    (h : file.load b o.fallback = .ok (some m)) :
    ∃ a : Kept, a.Valid ∧ file = stored a.binding a.model ∧ a.binding.same b = true ∧
      m = a.model.under o := by
  obtain ⟨owner, record, rfl, hsame, hread⟩ := load_eq_some h
  obtain ⟨a, ha, howner, hrecord⟩ := hown
  cases howner
  cases hrecord
  exact ⟨a, ha, rfl, hsame, (HeatingModel.fromRecord_toRecord_eq hread).2⟩

/-- A file that has no model for a binding has none under other options. -/
theorem load_none {fallback : ℚ} (h : file.load b fallback = .ok none) (fallback' : ℚ) :
    file.load b fallback' = .ok none := by
  unfold load at h ⊢
  split at h
  · rfl
  · cases h
  · cases h
  · next owner record =>
    split at h
    · obtain ⟨m, -, hm⟩ := map_eq_ok_iff.mp h
      cases hm
    · next hother => exact if_neg hother

/-- The store of a prediction controller. -/
def medium : WriteBack.Medium Kept PredictionFile where
  Valid := Kept.Valid
  Finds := Finds
  write a := stored a.binding a.model
  finds_write := finds_stored

/-- The file need not know of another fallback rate. -/
theorem covers_under (b : PredictionBinding) (m : HeatingModel) (o : PredictionOptions) :
    medium.Covers ⟨b, m⟩ ⟨b, m.under o⟩ := fun _ h => h

end PredictionFile

/-! ## What is saved -/

namespace PredictionController

variable {c c' c'' : PredictionController}

/-- The rest of the controller has the same to save. -/
structure SameStore (c c' : PredictionController) : Prop where
  outdoorEntity : c'.outdoorEntity = c.outdoorEntity
  model : c'.model = c.model
  storageFailed : c'.storageFailed = c.storageFailed
  dirty : c'.dirty = c.dirty
  saveEvent : c'.saveEvent = c.saveEvent

theorem SameStore.trans (h : SameStore c c') (h' : SameStore c' c'') : SameStore c c'' :=
  ⟨h'.outdoorEntity.trans h.outdoorEntity, h'.model.trans h.model,
    h'.storageFailed.trans h.storageFailed, h'.dirty.trans h.dirty,
    h'.saveEvent.trans h.saveEvent⟩

/-- The model has learned a segment, and is to be saved. -/
def learned (c : PredictionController) (segment : HeatingSegment) : PredictionController :=
  { c with model := (c.model.update segment).2 }.markDirty

/-- What an observation leaves to save. -/
def Saves (c c' : PredictionController) : Prop :=
  SameStore c c' ∨ ∃ segment, SameStore (c.learned segment) c'

theorem Saves.trans (h : Saves c c') (h' : SameStore c' c'') : Saves c c'' :=
  h.imp (·.trans h') fun ⟨segment, h⟩ => ⟨segment, h.trans h'⟩

theorem refresh_store (c : PredictionController) (i : PredictionInput) :
    SameStore c (c.refresh i).1 := by
  unfold refresh
  split
  · exact ⟨rfl, rfl, rfl, rfl, rfl⟩
  · dsimp only
    split <;> exact ⟨rfl, rfl, rfl, rfl, rfl⟩

theorem learn_saves (c : PredictionController) (collector : SegmentCollector)
    (segment : HeatingSegment) :
    Saves c (({ c with collector } : PredictionController).learn segment) := by
  obtain h | ⟨-, h⟩ := learn_case { c with collector } segment
  · rw [h]
    exact Or.inl ⟨rfl, rfl, rfl, rfl, rfl⟩
  · rw [h]
    exact Or.inr ⟨segment, rfl, rfl, rfl, rfl, rfl⟩

theorem Saves.noted {i : PredictionInput} (h : (c.noted i).Saves c') : Saves c c' := by
  obtain h | ⟨segment, h⟩ := h
  · exact Or.inl ⟨h.outdoorEntity, h.model, h.storageFailed, h.dirty, h.saveEvent⟩
  · exact Or.inr ⟨segment, h.outdoorEntity, h.model, h.storageFailed, h.dirty, h.saveEvent⟩

theorem collect_saves {i : PredictionInput} (h : c.collect i = .ok c') : Saves c c' := by
  unfold collect at h
  split at h
  · cases h
    exact Or.inl ⟨rfl, rfl, rfl, rfl, rfl⟩
  split at h
  · cases h
    exact Or.inl ⟨rfl, rfl, rfl, rfl, rfl⟩
  split at h
  · cases h
  · cases h
    exact Or.inl ⟨rfl, rfl, rfl, rfl, rfl⟩
  · cases h
    exact c.learn_saves _ _

/-- An observation learns at most one segment, and marks it. -/
theorem observe_saves (c : PredictionController) (i : PredictionInput) :
    Saves c (c.observe i).1 := by
  unfold observe
  split
  · exact Or.inl ⟨rfl, rfl, rfl, rfl, rfl⟩
  · next c' hcollect =>
    have hsaves : Saves c { c' with observation := some i.observation } :=
      (collect_saves hcollect).noted.trans ⟨rfl, rfl, rfl, rfl, rfl⟩
    exact hsaves.trans (refresh_store _ i)

end PredictionController

/-! ## What a run relies on -/

/-- No setup with an outdoor entity is aborted before the model is loaded. -/
def PredictionOp.Harmless : PredictionOp → Prop
  | restart o _ result => PredictionSystem.Harmless o result
  | _ => True

/-- The `Store` lets no record reach the file once the next one or a new start has begun. -/
def PredictionOp.Timely : PredictionOp → Prop
  | landLate _ => False
  | _ => True

/-! ## Steps of the value -/

open PredictionController (SameStore)

namespace PredictionSystem

variable {w : PredictionSystem}

/-- The controller as a value that is written back; after an aborted setup it is none. -/
def cell (w : PredictionSystem) : WriteBack.Cell Kept PredictionFile where
  memory := ⟨w.binding, w.controller.model⟩
  disk := w.file
  copy := w.attempt.map fun a => ⟨a.1, a.2⟩
  dirty := w.controller.dirty
  signal := w.controller.saveEvent
  saver := w.task
  failed := w.controller.storageFailed || w.aborted
  late := w.stopping

theorem cell_congr (w : PredictionSystem) {c c' : PredictionController} (h : SameStore c c') :
    ({ w with controller := c' } : PredictionSystem).cell =
      ({ w with controller := c } : PredictionSystem).cell := by
  unfold cell binding
  dsimp only
  rw [h.outdoorEntity, h.model, h.storageFailed, h.dirty, h.saveEvent]

/-- What holds of the file, of the model in memory and of the records that were saved. -/
structure Holds (F : PredictionFile → Prop) (V : Kept → Prop) (w : PredictionSystem) : Prop where
  file : F w.file
  memory : V ⟨w.binding, w.controller.model⟩
  attempt : ∀ a ∈ w.attempt, V ⟨a.1, a.2⟩
  earlier : ∀ a ∈ w.earlier, V ⟨a.1, a.2⟩

/-- It holds of what is made, saved and loaded. -/
structure Closed (F : PredictionFile → Prop) (V : Kept → Prop) : Prop where
  fresh : ∀ (o : PredictionOptions) (connection : Dict String Stored),
    V ⟨⟨connection, o.outdoorEntity⟩, o.model⟩
  under : ∀ {b : PredictionBinding} {m : HeatingModel} (o : PredictionOptions), V ⟨b, m⟩ →
    V ⟨b, m.under o⟩
  stored : ∀ a, V a → F (.stored a.binding a.model)
  load : ∀ {file : PredictionFile} {b : PredictionBinding} {o : PredictionOptions}
    {m : HeatingModel}, F file → file.load b o.fallback = .ok (some m) → V ⟨b, m⟩

variable {F : PredictionFile → Prop} {V : Kept → Prop}

theorem Holds.start (hclosed : Closed F V) {file : PredictionFile} (hfile : F file)
    (o : PredictionOptions) (connection : Dict String Stored) (result : LoadEnd) :
    Holds F V (start file o connection result) := by
  have hcase := start_case file o connection result
  generalize PredictionSystem.start file o connection result = w at hcase
  have hfresh := hclosed.fresh o connection
  cases hcase with
  | loaded m h =>
    rw [init_eq]
    exact ⟨hfile, hclosed.load hfile h, (fun a ha => by cases ha), fun a ha => by cases ha⟩
  | fresh | failed | aborted =>
    rw [init_eq]
    exact ⟨hfile, hfresh, (fun a ha => by cases ha), fun a ha => by cases ha⟩
  | erased =>
    rw [init_eq]
    refine ⟨hfile, hfresh, ?_, fun a ha => by cases ha⟩
    rintro _ ⟨⟩
    exact hfresh

/-- The last record is one of the earlier ones. -/
theorem Holds.superseded (h : Holds F V w) :
    ∀ a ∈ w.attempt.toList ++ w.earlier, V ⟨a.1, a.2⟩ := by
  intro a ha
  obtain ha | ha := List.mem_append.mp ha
  · exact h.attempt a (Option.mem_toList.mp ha)
  · exact h.earlier a ha

theorem Holds.restart (hclosed : Closed F V) (h : Holds F V w) (o : PredictionOptions)
    (connection : Dict String Stored) (result : LoadEnd) :
    Holds F V (w.restart o connection result) := by
  have hstart := Holds.start hclosed h.file o connection result
  exact ⟨hstart.file, hstart.memory, hstart.attempt, h.superseded⟩

theorem Holds.configure (hclosed : Closed F V) (h : Holds F V w) (o : PredictionOptions) :
    Holds F V { w with controller := w.controller.configure o } := by
  refine ⟨h.file, ?_, h.attempt, h.earlier⟩
  unfold binding PredictionController.configure PredictionController.renewed
  dsimp only
  by_cases hsame : o.outdoorEntity = w.controller.outdoorEntity
  · rw [if_neg (not_not.mpr hsame)]
    exact hclosed.under o h.memory
  · rw [if_pos hsame]
    exact hclosed.fresh o w.connection

theorem observe_binding (w : PredictionSystem) (i : PredictionInput) :
    ({ w with controller := (w.controller.observe i).1 } : PredictionSystem).binding =
      w.binding := by
  unfold binding
  dsimp only
  obtain hsame | ⟨segment, hsame⟩ := w.controller.observe_saves i
  · rw [hsame.outdoorEntity]
  · rw [hsame.outdoorEntity]
    rfl

theorem Holds.save (h : Holds F V w) (busy idle : WriteBack.Saver) :
    Holds F V (w.save busy idle) := by
  unfold PredictionSystem.save
  split
  · exact ⟨h.file, h.memory, h.attempt, h.earlier⟩
  · refine ⟨h.file, h.memory, ?_, h.superseded⟩
    rintro a ⟨⟩
    exact h.memory

theorem Holds.cancel (h : Holds F V w) : Holds F V w.cancel := by
  unfold PredictionSystem.cancel
  split
  · exact ⟨h.file, h.memory, h.attempt, h.earlier⟩
  · exact ⟨h.file, h.memory, h.attempt, h.earlier⟩
  · exact h

theorem Holds.land (hclosed : Closed F V) (h : Holds F V w)
    {record : Option (PredictionBinding × HeatingModel)}
    (hrecord : ∀ a ∈ record, V ⟨a.1, a.2⟩) : Holds F V (w.land record) := by
  cases record with
  | none => exact h
  | some a =>
    exact ⟨hclosed.stored ⟨a.1, a.2⟩ (hrecord a rfl), h.memory, h.attempt, h.earlier⟩

/-- **One step**: it holds on, if it holds of what an observation learns. -/
theorem Holds.step (hclosed : Closed F V) (h : Holds F V w) (op : PredictionOp)
    (hobserve : ∀ i, op = .observe i → w.aborted = false →
      V ⟨w.binding, (w.controller.observe i).1.model⟩) : Holds F V (w.step op).1 := by
  obtain heq | ⟨heq, hcalled⟩ := w.step_case op
  · rw [heq]
    exact h
  rw [heq]
  cases op with
  | configure o => exact h.configure hclosed o
  | observe i =>
    refine ⟨h.file, ?_, h.attempt, h.earlier⟩
    have hbinding : (w.act (.observe i)).1.binding = w.binding := w.observe_binding i
    rw [hbinding]
    exact hobserve i rfl (hcalled rfl)
  | wake =>
    show Holds F V w.wake
    unfold PredictionSystem.wake
    split
    · have hcleared : Holds F V w.cleared := ⟨h.file, h.memory, h.attempt, h.earlier⟩
      exact hcleared.save _ _
    · exact h
  | land => exact h.land hclosed h.attempt
  | landLate index => exact h.land hclosed fun a ha => h.earlier a (List.mem_of_getElem? ha)
  | saved result =>
    show Holds F V (w.saved result)
    unfold PredictionSystem.saved
    repeat' split
    all_goals first | exact h | exact ⟨h.file, h.memory, h.attempt, h.earlier⟩
  | cancel => exact h.cancel
  | close =>
    show Holds F V w.close
    unfold PredictionSystem.close
    split
    · exact h
    · exact h.cancel.save _ _
  | stop => exact ⟨h.file, h.memory, h.attempt, h.earlier⟩
  | restart o connection result => exact h.restart hclosed o connection result

/-- All models can have been learned. -/
abbrev Good : PredictionSystem → Prop := Holds PredictionFile.Own Kept.Valid

theorem closed_valid : Closed PredictionFile.Own Kept.Valid where
  fresh o connection := o.model_valid connection
  under o h := h.under o
  stored a ha := ⟨a, ha, rfl, rfl⟩
  load hfile h := by
    obtain ⟨a, ha, -, hsame, rfl⟩ := hfile.load h
    refine ⟨(ha.under _).learned, (ha.under _).outdoor.trans ?_⟩
    exact congrArg Option.isSome (PredictionBinding.same_entity hsame)

theorem Good.step (h : w.Good) (op : PredictionOp) : (w.step op).1.Good := by
  refine Holds.step closed_valid h op fun i _ _ => ?_
  obtain hsame | ⟨segment, hsame⟩ := w.controller.observe_saves i
  · rw [hsame.model]
    exact h.memory
  · rw [hsame.model]
    exact h.memory.update segment

/-! ## Steps -/

open WriteBack (Reaches Started)
open PredictionFile (medium)

/-- **A start is one from the disk**, unless it saves a new model. An aborted one goes on as if
    its storage had failed, and its task is gone. -/
theorem start_reaches {file : PredictionFile} (hfile : file.Own) {o : PredictionOptions}
    {result : LoadEnd} (hharmless : Harmless o result) (connection : Dict String Stored)
    {c : WriteBack.Cell Kept PredictionFile} (hc : c.disk = file) :
    Reaches medium c (start file o connection result).cell := by
  have hgood : Good _ := .start closed_valid hfile o connection result
  have hcase := start_case file o connection result
  generalize start file o connection result = w at hgood hcase
  cases hcase with
  | fresh hload =>
    rw [init_eq] at hgood ⊢
    refine .single (.restart hc.symm ⟨fun _ => hgood.memory, rfl, rfl, id, fun _ _ _ o' ho' => ?_⟩)
    refine ⟨none, PredictionFile.load_none hload o'.fallback, ?_⟩
    show o'.model = o.model.under o'
    unfold PredictionOptions.model HeatingModel.under
    rw [ho']
    rfl
  | loaded m hload =>
    obtain ⟨a, ha, hstored, hsame, rfl⟩ := hfile.load hload
    rw [init_eq] at hgood ⊢
    refine .single (.restart hc.symm
      ⟨fun _ => hgood.memory, rfl, rfl, nofun, fun _ _ hsamples o' _ => ?_⟩)
    refine ⟨some (a.model.under o'), ?_, rfl⟩
    show file.load ⟨connection, o.outdoorEntity⟩ o'.fallback = _
    rw [hstored]
    exact PredictionFile.load_stored ha hsamples hsame o'
  | failed =>
    rw [init_eq] at hgood ⊢
    exact .single (.restart hc.symm ⟨nofun, rfl, rfl, id, nofun⟩)
  | aborted =>
    rw [init_eq]
    have hstarted : Started medium
        { PredictionSystem.cell
            { controller := PredictionController.init o, connection, file, aborted := true } with
          saver := .asleep } := by
      rw [init_eq]
      exact ⟨nofun, rfl, rfl, id, nofun⟩
    rw [init_eq] at hstarted
    have hidle : ¬ WriteBack.Saver.asleep.busy := by decide
    exact .tail (.single (.restart hc.symm hstarted)) (.stop hidle)
  | erased h => exact absurd hharmless h

theorem configure_reaches (h : w.Good) (o : PredictionOptions) :
    Reaches medium w.cell
      ({ w with controller := w.controller.configure o } : PredictionSystem).cell := by
  unfold PredictionController.configure PredictionController.renewed
  by_cases hsame : o.outdoorEntity = w.controller.outdoorEntity
  · rw [if_neg (not_not.mpr hsame)]
    exact .single (.adjust _ (fun _ => h.memory.under o)
      fun _ => PredictionFile.covers_under _ _ o)
  · rw [if_pos hsame]
    exact .single (.change _ fun _ => o.model_valid w.connection)

theorem observe_reaches (h : w.Good) (i : PredictionInput) :
    Reaches medium w.cell
      ({ w with controller := (w.controller.observe i).1 } : PredictionSystem).cell := by
  obtain hsame | ⟨segment, hsame⟩ := w.controller.observe_saves i
  · rw [w.cell_congr hsame]
  · rw [w.cell_congr hsame]
    exact .single (.change _ fun _ => h.memory.update segment)

/-- The condition under which `async_save` writes. -/
theorem save_writes (hused : w.aborted = false)
    (h : ¬ (¬ w.controller.dirty ∨ w.controller.storageFailed)) : w.cell.failed = false :=
  Bool.or_eq_false_iff.mpr ⟨Bool.eq_false_iff.mpr fun hfailed => h (Or.inr hfailed), hused⟩

theorem wake_reaches (hused : w.aborted = false) : Reaches medium w.cell w.wake.cell := by
  unfold wake
  split
  · next h =>
    obtain ⟨c, connection, file, attempt, task, stopping, aborted, earlier⟩ := w
    obtain ⟨rfl, -⟩ : task = .asleep ∧ c.saveEvent = true := h
    obtain rfl : aborted = false := hused
    unfold save
    split
    · next hidle =>
      have hidle : ¬ c.dirty = true ∨ c.storageFailed = true := hidle
      refine .single (.idle rfl (hidle.imp (Bool.not_eq_true _ ▸ ·) fun hfailed => ?_))
      exact Bool.or_eq_true_iff.mpr (Or.inl hfailed)
    · next hwrites =>
      exact .single (.begin rfl (save_writes (w := ⟨c, connection, file, attempt, .asleep, stopping,
        false, earlier⟩) rfl hwrites))
  · exact .refl

theorem land_reaches (w : PredictionSystem) :
    Reaches medium w.cell (w.land w.attempt).cell := by
  cases hattempt : w.attempt with
  | none => exact .refl
  | some a =>
    have hcopy : w.cell.copy = some ⟨a.1, a.2⟩ := congrArg (Option.map _) hattempt
    exact .single (.land hcopy)

theorem saved_reaches (h : w.Good) (result : SaveEnd) :
    Reaches medium w.cell (w.saved result).cell := by
  unfold saved
  split
  · next b m hattempt =>
    have hcopy : w.cell.copy = some ⟨b, m⟩ := congrArg (Option.map _) hattempt
    split
    · exact .refl
    next hbusy =>
    have hbusy : w.cell.saver.busy := not_not.mp hbusy
    split
    · next hread =>
      refine .single (.confirm hbusy hcopy ?_)
      obtain hstopping | hshows := hread
      · exact Or.inr hstopping
      · exact Or.inl (PredictionFile.finds_of_shows h.file hshows)
    · exact .single (.fail hbusy)
  · split
    · next hbusy => exact .single (.cancel hbusy)
    · exact .refl
  · split
    · next hbusy => exact .single (.fail hbusy)
    · exact .refl

theorem cancel_reaches (w : PredictionSystem) : Reaches medium w.cell w.cancel.cell := by
  unfold cancel
  split
  · next htask =>
    have hidle : ¬ w.cell.saver.busy := by
      show ¬ w.task.busy
      rw [htask]
      decide
    exact .single (.stop hidle)
  · next htask => exact .single (.cancel (Or.inl htask))
  · exact .refl

theorem cancel_aborted (w : PredictionSystem) : w.cancel.aborted = w.aborted := by
  unfold cancel
  split <;> rfl

theorem cancel_gone (h : w.task ≠ .last) : w.cancel.task = .gone := by
  unfold cancel
  split
  · rfl
  · rfl
  · next hasleep hwriting =>
    cases htask : w.task with
    | asleep => exact absurd htask hasleep
    | writing => exact absurd htask hwriting
    | last => exact absurd htask h
    | gone => rfl

theorem close_reaches (hused : w.aborted = false) : Reaches medium w.cell w.close.cell := by
  unfold close
  split
  · exact .refl
  next hlast =>
  have hgone := cancel_gone hlast
  have hused : w.cancel.aborted = false := w.cancel_aborted.trans hused
  refine w.cancel_reaches.trans ?_
  generalize w.cancel = w at hgone hused
  unfold save
  split
  · rw [← hgone]
  · next hwrites => exact .single (.close hgone (save_writes hused hwrites))

/-- **A step of the controller is steps of a value that is written back**, if no setup with an
    outdoor entity is aborted and no record is late. -/
theorem step_reaches (h : w.Good) {op : PredictionOp} (hharmless : op.Harmless)
    (htimely : op.Timely) : Reaches medium w.cell (w.step op).1.cell := by
  obtain heq | ⟨heq, hcalled⟩ := w.step_case op
  · rw [heq]
  rw [heq]
  cases op with
  | configure o => exact configure_reaches h o
  | observe i => exact observe_reaches h i
  | wake => exact wake_reaches (hcalled rfl)
  | land => exact w.land_reaches
  | landLate index => exact htimely.elim
  | saved result => exact saved_reaches h result
  | cancel => exact w.cancel_reaches
  | close => exact close_reaches (hcalled rfl)
  | stop => exact .single .delay
  | restart o connection result => exact start_reaches h.file hharmless connection rfl

/-! ## A model that was not loaded -/

/-- The model was not loaded, and nothing was saved since. -/
structure Refused (w : PredictionSystem) : Prop where
  lost : w.controller.storageFailed = true ∨ w.aborted = true
  attempt : w.attempt = none

/-- A new start only reads the file. -/
theorem restart_file (w : PredictionSystem) (o : PredictionOptions)
    (connection : Dict String Stored) (result : LoadEnd) :
    (w.restart o connection result).file = w.file := by
  have hcase := start_case w.file o connection result
  unfold restart
  dsimp only
  generalize start w.file o connection result = w' at hcase
  cases hcase <;> rfl

/-- What a start whose load fails or is aborted leaves. -/
theorem refused_start {file : PredictionFile} {o : PredictionOptions}
    {connection : Dict String Stored} {result : LoadEnd} (hharmless : Harmless o result)
    (h : (start file o connection result).controller.storageFailed = true ∨
      (start file o connection result).aborted = true) :
    (start file o connection result).Refused := by
  refine ⟨h, ?_⟩
  have hcase := start_case file o connection result
  generalize start file o connection result = w at hcase
  cases hcase with
  | erased hnot => exact absurd hharmless hnot
  | _ => rfl

/-- A failed storage saves nothing. -/
theorem save_failed (busy idle : WriteBack.Saver) (h : w.controller.storageFailed = true) :
    w.save busy idle = { w with task := idle } := if_pos (Or.inr h)

theorem cancel_refused (h : w.controller.storageFailed = true) (hattempt : w.attempt = none) :
    w.cancel.controller.storageFailed = true ∧ w.cancel.attempt = none ∧
      w.cancel.file = w.file := by
  unfold cancel
  split <;> exact ⟨h, hattempt, rfl⟩

/-- **A file that was not loaded is not written** until the next start. -/
theorem Refused.step (h : w.Refused) {op : PredictionOp} (htimely : op.Timely)
    (hstart : ∀ o connection result, op ≠ .restart o connection result) :
    (w.step op).1.Refused ∧ (w.step op).1.file = w.file := by
  obtain heq | ⟨heq, hcalled⟩ := w.step_case op
  · rw [heq]
    exact ⟨h, rfl⟩
  rw [heq]
  have hfailed : op.calls = true → w.controller.storageFailed = true := fun hcalls =>
    h.lost.resolve_right fun haborted => absurd (haborted.symm.trans (hcalled hcalls)) (by decide)
  cases op with
  | configure o =>
    refine ⟨⟨Or.inl ?_, h.attempt⟩, rfl⟩
    show (w.controller.configure o).storageFailed = true
    unfold PredictionController.configure PredictionController.renewed
    split <;> exact hfailed rfl
  | observe i =>
    refine ⟨⟨Or.inl ?_, h.attempt⟩, rfl⟩
    show (w.controller.observe i).1.storageFailed = true
    obtain hsame | ⟨segment, hsame⟩ := w.controller.observe_saves i
    · exact hsame.storageFailed.trans (hfailed rfl)
    · exact hsame.storageFailed.trans (hfailed rfl)
  | wake =>
    show w.wake.Refused ∧ w.wake.file = w.file
    unfold wake
    split
    · rw [save_failed (w := w.cleared) _ _ (hfailed rfl)]
      exact ⟨⟨Or.inl (hfailed rfl), h.attempt⟩, rfl⟩
    · exact ⟨h, rfl⟩
  | land =>
    show (w.land w.attempt).Refused ∧ (w.land w.attempt).file = w.file
    rw [h.attempt]
    exact ⟨h, rfl⟩
  | landLate index => exact htimely.elim
  | saved result =>
    show (w.saved result).Refused ∧ (w.saved result).file = w.file
    unfold saved
    rw [h.attempt]
    split
    · next hread => cases hread
    · split
      · exact ⟨⟨h.lost, h.attempt⟩, rfl⟩
      · exact ⟨h, rfl⟩
    · split
      · exact ⟨⟨Or.inl rfl, h.attempt⟩, rfl⟩
      · exact ⟨h, rfl⟩
  | cancel =>
    obtain ⟨hstorage, hattempt, hfile⟩ := cancel_refused (hfailed rfl) h.attempt
    exact ⟨⟨Or.inl hstorage, hattempt⟩, hfile⟩
  | close =>
    show w.close.Refused ∧ w.close.file = w.file
    unfold close
    split
    · exact ⟨h, rfl⟩
    · obtain ⟨hstorage, hattempt, hfile⟩ := cancel_refused (hfailed rfl) h.attempt
      rw [save_failed _ _ hstorage]
      exact ⟨⟨Or.inl hstorage, hattempt⟩, hfile⟩
  | stop => exact ⟨⟨h.lost, h.attempt⟩, rfl⟩
  | restart o connection result => exact absurd rfl (hstart o connection result)

/-! ## Runs -/

/-- Every start from the file has the model, with the fallback rate of its own options. -/
def Restores (w : PredictionSystem) (file : PredictionFile) : Prop :=
  w.controller.model.samples ≤ 1000000000 →
    ∀ o : PredictionOptions, o.outdoorEntity = w.controller.outdoorEntity →
      (start file o w.connection .read).controller.storageFailed = false ∧
        (start file o w.connection .read).controller.model = w.controller.model.under o

theorem restores_of_finds {file : PredictionFile}
    (h : file.Finds ⟨w.binding, w.controller.model⟩) : w.Restores file := by
  intro hsamples o ho
  obtain ⟨found, hload, hfound⟩ := h hsamples o ho
  have hload : file.load ⟨w.connection, o.outdoorEntity⟩ o.fallback = .ok found := by
    rw [ho]
    exact hload
  have hfallback : (PredictionController.init o).model.fallback = o.fallback := by
    rw [init_eq]
    rfl
  unfold start
  dsimp only
  rw [hfallback, hload, init_eq]
  cases found with
  | none => exact ⟨rfl, hfound⟩
  | some m => exact ⟨rfl, hfound⟩

/-- What a system guarantees to its next start. -/
structure Durable (w : PredictionSystem) : Prop where
  /-- What is not saved will be, unless the task is gone. -/
  told : w.controller.dirty = true →
    w.controller.storageFailed = true ∨ w.controller.saveEvent = true ∨ w.task = .gone
  /-- Between two saves. -/
  asleep : w.controller.storageFailed = false → w.stopping = false → w.task = .asleep →
    w.controller.saveEvent = false → w.Restores w.file
  /-- After `async_close`. -/
  closed : w.controller.storageFailed = false → w.stopping = false → w.task = .gone →
    w.controller.dirty = false → w.Restores w.file
  /-- While Home Assistant stops, when it has written what it was given. -/
  stopping : w.controller.storageFailed = false → ¬ w.task.busy → w.controller.dirty = false →
    w.Restores (w.land w.attempt).file

theorem durable_of_sound (hsound : WriteBack.Sound medium w.cell) (hused : w.aborted = false) :
    w.Durable := by
  have hcell : w.cell.failed = w.controller.storageFailed :=
    (congrArg (w.controller.storageFailed || ·) hused).trans (Bool.or_false _)
  constructor
  case told =>
    intro hdirty
    rw [← hcell]
    exact hsound.told hdirty
  case asleep =>
    intro hfailed hstopping htask hevent
    rw [← hcell] at hfailed
    have hdirty := hsound.dirty_eq_false htask hevent hfailed
    have hbusy : ¬ w.task.busy := by
      rw [htask]
      decide
    exact restores_of_finds (hsound.finds hbusy hdirty hfailed hstopping)
  case closed =>
    intro hfailed hstopping htask hdirty
    rw [← hcell] at hfailed
    have hbusy : ¬ w.task.busy := by
      rw [htask]
      decide
    exact restores_of_finds (hsound.finds hbusy hdirty hfailed hstopping)
  case stopping =>
    intro hfailed hbusy hdirty
    rw [← hcell] at hfailed
    have hfile : (w.land w.attempt).file = w.cell.landed medium := by
      unfold WriteBack.Cell.landed cell
      cases hattempt : w.attempt with
      | none => rfl
      | some a => rfl
    rw [hfile]
    exact restores_of_finds (hsound.landed hbusy hdirty hfailed)

section

variable {file : PredictionFile} {o : PredictionOptions} {connection : Dict String Stored}
  {result : LoadEnd} {run : List PredictionOp}

theorem systemAt_sound (hfile : file.Own) (hfirst : Harmless o result)
    (hsetup : ∀ op ∈ run, op.Harmless) (hstore : ∀ op ∈ run, op.Timely) (n : ℕ) :
    (systemAt file o connection result run n).Good ∧
      WriteBack.Sound medium (systemAt file o connection result run n).cell := by
  refine (machine file o connection result).stateAt_invariant_of
    (P := fun w => w.Good ∧ WriteBack.Sound medium w.cell) run (fun _ op => op ∈ run)
    (fun _ _ => List.mem_of_getElem?) ⟨.start closed_valid hfile o connection result, ?_⟩
    (fun _ op _ hop ⟨hgood, hsound⟩ => ⟨hgood.step op,
      (step_reaches hgood (hsetup op hop) (hstore op hop)).sound hsound⟩) n
  -- before its first start the controller has nothing
  have hnothing : Started medium
      { memory := ⟨⟨connection, none⟩, PredictionOptions.model {}⟩
        disk := file
        failed := true } :=
    ⟨fun h => Bool.noConfusion h, rfl, rfl, fun h => h, fun _ h => Bool.noConfusion h⟩
  exact (start_reaches hfile hfirst connection rfl).sound hnothing.sound

/-- From step `m` to step `n` the process does not start again. -/
def SameStart (run : List PredictionOp) (m n : ℕ) : Prop :=
  ∀ k, m ≤ k → k < n → ∀ o connection result, run[k]? ≠ some (.restart o connection result)

/-- At step `n` the process has just started. -/
def StartsAt (run : List PredictionOp) : ℕ → Prop
  | 0 => True
  | n + 1 => ∃ o connection result, run[n]? = some (.restart o connection result)

/-- So ends every start whose load fails or is aborted. -/
theorem refused_at (hfirst : Harmless o result) (hsetup : ∀ op ∈ run, op.Harmless) {n : ℕ}
    (hstart : StartsAt run n)
    (h : (systemAt file o connection result run n).controller.storageFailed = true ∨
      (systemAt file o connection result run n).aborted = true) :
    (systemAt file o connection result run n).Refused := by
  cases n with
  | zero => exact refused_start hfirst h
  | succ n =>
    obtain ⟨o', connection', result', hop⟩ := hstart
    have hharmless : Harmless o' result' := hsetup _ (List.mem_of_getElem? hop)
    rw [systemAt_succ hop, step_eq (Or.inr rfl)] at h ⊢
    have hrefused : (start (systemAt file o connection result run n).file o' connection'
        result').Refused := refused_start hharmless h
    exact ⟨h, hrefused.attempt⟩

theorem file_of_refused (hstore : ∀ op ∈ run, op.Timely) {m n : ℕ} (hmn : m ≤ n)
    (hsame : SameStart run m n) (h : (systemAt file o connection result run m).Refused) :
    (systemAt file o connection result run n).Refused ∧
      (systemAt file o connection result run n).file =
        (systemAt file o connection result run m).file := by
  refine (machine file o connection result).stateAt_frozen (fun k op hm hk hop hw => ?_) hmn h
  rw [Machine.stateAt_succ _ hop]
  refine hw.step (hstore op (List.mem_of_getElem? hop)) ?_
  rintro o connection result rfl
  exact hsame k hm hk o connection result hop

/-- **Nothing learned is lost.** In every run, with saves that are cancelled, fail, or reach the
    file late, with changes of options and restarts: when no save is due or under way and none has
    failed, a restart has the same model; and what is not saved is due. From a start that has not
    loaded the model until the next one, the file is left alone.

    It rests on two things: no setup with an outdoor entity is aborted before the model is loaded
    (`aborted_erases`), and the `Store` lets no record reach the file after the next one. -/
theorem model_durable (hfile : file.Own) (hfirst : Harmless o result)
    (hsetup : ∀ op ∈ run, op.Harmless) (hstore : ∀ op ∈ run, op.Timely) (n : ℕ) :
    ((systemAt file o connection result run n).aborted = false →
      (systemAt file o connection result run n).Durable) ∧
    (∀ m ≤ n, SameStart run m n → (systemAt file o connection result run m).Refused →
      (systemAt file o connection result run n).file =
        (systemAt file o connection result run m).file) ∧
    (StartsAt run n → (systemAt file o connection result run n).controller.storageFailed = true ∨
      (systemAt file o connection result run n).aborted = true →
        (systemAt file o connection result run n).Refused) :=
  ⟨durable_of_sound (systemAt_sound hfile hfirst hsetup hstore n).2,
    fun _ hmn hsame h => (file_of_refused hstore hmn hsame h).2, refused_at hfirst hsetup⟩

end

/-- The spa of `sampleRun` saves its first segment, and the next setup is cancelled. -/
def savedRun : List PredictionOp :=
  sampleRun ++ [.wake, .land, .saved .read, .restart {} .empty .aborted, .stop]

def savedAt (n : ℕ) : PredictionSystem := systemAt .absent {} .empty .read savedRun n

/-- The setup after that one has the segment. -/
theorem model_durable_sample :
    (start (savedAt 27).file {} (savedAt 25).connection .read).controller.model.samples = 1 := by
  have hfirst : Harmless {} .read := nofun
  have hrun : ∀ op ∈ savedRun, op.Harmless ∧ op.Timely := by
    simp only [savedRun, sampleRun, List.forall_mem_append, List.forall_mem_map,
      List.forall_mem_cons]
    simp [PredictionOp.Harmless, PredictionOp.Timely, Harmless]
  have hsetup : ∀ op ∈ savedRun, op.Harmless := fun op hop => (hrun op hop).1
  have hstore : ∀ op ∈ savedRun, op.Timely := fun op hop => (hrun op hop).2
  have hown : PredictionFile.absent.Own := trivial
  obtain ⟨hused, hfailed, hstopping, htask, hevent, hentity, hsamples⟩ :
      (savedAt 25).aborted = false ∧ (savedAt 25).controller.storageFailed = false ∧
        (savedAt 25).stopping = false ∧ (savedAt 25).task = .asleep ∧
          (savedAt 25).controller.saveEvent = false ∧
            none = (savedAt 25).controller.outdoorEntity ∧
              (savedAt 25).controller.model.samples = 1 := by
    decide +kernel
  have hdurable : (savedAt 25).Durable := (model_durable hown hfirst hsetup hstore 25).1 hused
  -- the cancelled setup leaves the file alone
  have hnext : savedAt 26 = (savedAt 25).restart {} .empty .aborted :=
    (systemAt_succ rfl).trans (congrArg Prod.fst (step_eq (Or.inr rfl)))
  have haborted : (savedAt 26).aborted = true := by
    rw [hnext]
    rfl
  have hrefused : (savedAt 26).Refused :=
    (model_durable hown hfirst hsetup hstore 26).2.2 ⟨_, _, _, rfl⟩ (Or.inr haborted)
  have hsame : SameStart savedRun 26 27 := by
    intro k hk hk' o connection result
    obtain rfl : k = 26 := by omega
    nofun
  have hkept : (savedAt 27).file = (savedAt 26).file :=
    (model_durable hown hfirst hsetup hstore 27).2.1 26 (Nat.le_succ 26) hsame hrefused
  have hfile : (savedAt 26).file = (savedAt 25).file := by
    rw [hnext, restart_file]
  rw [hkept, hfile]
  generalize savedAt 25 = w at *
  have hcount : w.controller.model.samples ≤ 1000000000 := hsamples.trans_le (by norm_num)
  rw [(hdurable.asleep hfailed hstopping htask hevent hcount {} hentity).2]
  exact hsamples

end PredictionSystem

end BalboaRs485
