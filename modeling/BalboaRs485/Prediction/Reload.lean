import BalboaRs485.Lib.Machine
import BalboaRs485.Prediction.Model

/-!
# Reloading the heating model

Model of `to_record` and `from_record` of `HeatingModel`: the loader trusts nothing but the
sums, and checks that some regression can have produced them.

* `Learned`: what the sums of every learned model satisfy; `Learned.update` keeps it.
* `fromRecord_toRecord`: such a model is read back from its record.
* `model_reloads`: this, the loader's checks and the refusals of `update`, over all runs.
-/

namespace BalboaRs485

/-- A value of a model record. -/
inductive ModelStored where
  | plain (value : Stored)
  | list (items : List Stored)
deriving DecidableEq

/-- `_finite` (lines 11–14). -/
def Stored.finite (value : Stored) : Except ModelError ℚ := value.number.mapError fun _ => .finite

/-- `value == x` for a number `x`. -/
def Stored.equals : Stored → ℚ → Bool
  | .bool b, x => (if b then 1 else 0) = x
  | .int i, x => (i : ℚ) = x
  | .float y, x => y = x
  | _, _ => false

namespace ModelStored

/-- `value == x` for a number or `None`. -/
def equals : ModelStored → Option ℚ → Bool
  | .plain .null, none => true
  | .plain value, some x => value.equals x
  | _, _ => false

/-- `value == [x, y]`. -/
def equalsPair : ModelStored → ℚ × ℚ → Bool
  | .list [a, b], (x, y) => a.equals x && b.equals y
  | _, _ => false

theorem equals_ofOption (x : Option ℚ) : (plain (.ofOption x)).equals x = true := by
  cases x <;> simp [Stored.ofOption, equals, Stored.equals]

end ModelStored

theorem finite_float (l : List ℚ) : (l.map Stored.float).mapM Stored.finite = .ok l := by
  induction l with
  | nil => rfl
  | cons x l ih =>
    rw [List.map_cons, List.mapM_cons, ih]
    rfl

namespace HeatingModel

/-! ## Records -/

/-- `keys` (lines 243–253). -/
def fields : List String :=
  ["version", "outdoor", "samples", "last_update", "sums", "coefficients", "errors", "mae",
    "median_error"]

/-- `to_record` (lines 227–238). -/
def toRecord (m : HeatingModel) : Dict String ModelStored where
  entries :=
    [("version", .plain (.int 1)), ("outdoor", .plain (.bool m.outdoor)),
      ("samples", .plain (.int m.samples)), ("last_update", .plain (.ofOption m.lastUpdate)),
      ("sums", .list ([m.sums.weight, m.sums.x, m.sums.xx, m.sums.y, m.sums.xy].map .float)),
      ("coefficients", .list ([m.coefficients.1, m.coefficients.2].map .float)),
      ("errors", .list (m.errors.map .float)), ("mae", .plain (.ofOption m.mae)),
      ("median_error", .plain (.ofOption m.medianError))]
  nodup := show fields.Nodup by decide

/-- `record[key]`, once the keys have been compared. -/
def fieldOf (record : Dict String ModelStored) (key : String) : ModelStored :=
  (record.get? key).getD (.plain .null)

theorem fieldOf_eq {record : Dict String ModelStored} {key : String} {value : ModelStored} (i : ℕ)
    (h : record.entries[i]? = some (key, value)) : fieldOf record key = value := by
  rw [fieldOf, record.get?_of_getElem? h, Option.getD_some]

/-- The shape of the record (lines 254–260). -/
def shaped (record : Option (Dict String ModelStored)) :
    Except ModelError (Dict String ModelStored) :=
  match record with
  | none => .error .shape
  | some record =>
    if record.hasKeys fields ∧ fieldOf record "version" = .plain (.int 1) then .ok record
    else .error .shape

/-- The feature and the sample count (lines 261–266). -/
def storedSamples (outdoor : Bool) (record : Dict String ModelStored) : Except ModelError ℕ :=
  match fieldOf record "outdoor", fieldOf record "samples" with
  | .plain (.bool b), .plain (.int i) =>
    if b = outdoor ∧ 0 ≤ i ∧ i ≤ 1000000000 then .ok i.toNat else .error .samples
  | _, _ => .error .samples

/-- The sums and the errors (lines 267–276). -/
def storedStatistics (record : Dict String ModelStored) :
    Except ModelError (Moments ℚ × List ℚ) :=
  match fieldOf record "sums", fieldOf record "errors" with
  | .list [weight, x, xx, y, xy], .list errors =>
    if 64 < errors.length then .error .statistics
    else do
      let weight ← weight.finite
      let x ← x.finite
      let xx ← xx.finite
      let y ← y.finite
      let xy ← xy.finite
      let errors ← errors.mapM Stored.finite
      .ok (⟨weight, x, xx, y, xy⟩, errors)
  | _, _ => .error .statistics

/-- The checks of the statistics, and the time of the last update (lines 278–292). -/
def checkLearned (m : HeatingModel) (last : ModelStored) : Except ModelError (Option ℚ) :=
  if m.samples ≠ 0 then
    match last with
    | .list _ => .error .finite
    | .plain value => do
      let last ← value.finite
      if ¬ (0 ≤ last ∧ last ≤ 253402300799) ∨
          ¬ (0 < m.sums.weight ∧ m.sums.weight ≤ 375001 / 10000) ∨ m.sums.xx < 0 ∨ m.sums.y ≤ 0 then
        .error .learned
      else if m.sums.xx + 1 / 10000000 < m.sums.x * m.sums.x / m.sums.weight ∨
          ¬ (0 < m.sums.y / m.sums.weight ∧ m.sums.y / m.sums.weight ≤ 8) then .error .impossible
      else .ok (some last)
  else if last ≠ .plain .null ∨ m.sums ≠ .zero ∨ m.errors ≠ [] then .error .empty
  else .ok none

/-- Derived values are only compared (lines 293–300). -/
def checkMetrics (m : HeatingModel) (record : Dict String ModelStored) :
    Except ModelError HeatingModel :=
  if (m.samples ≠ 0 ∧ ¬ (fieldOf record "coefficients").equalsPair m.coefficients) ∨
      ¬ (fieldOf record "mae").equals m.mae ∨
      ¬ (fieldOf record "median_error").equals m.medianError then .error .metrics
  else .ok m

/-- `from_record` (lines 240–301); `none` is an object that is no dictionary. -/
def fromRecord (record : Option (Dict String ModelStored)) (outdoor : Bool) (fallback : ℚ) :
    Except ModelError HeatingModel := do
  let model ← init outdoor fallback
  let record ← shaped record
  let samples ← storedSamples outdoor record
  let (sums, errors) ← storedStatistics record
  let model := { model with sums, errors, samples }
  let lastUpdate ← model.checkLearned (fieldOf record "last_update")
  { model with lastUpdate }.checkMetrics record

theorem shaped_toRecord (m : HeatingModel) : shaped (some m.toRecord) = .ok m.toRecord := by
  have hkeys : m.toRecord.hasKeys fields = true := Dict.hasKeys_of_keys rfl
  have hversion : fieldOf m.toRecord "version" = .plain (.int 1) := fieldOf_eq 0 rfl
  unfold shaped
  dsimp only
  rw [hkeys, hversion]
  rfl

theorem storedSamples_toRecord {m : HeatingModel} (h : m.samples ≤ 1000000000) :
    storedSamples m.outdoor m.toRecord = .ok m.samples := by
  have houtdoor : fieldOf m.toRecord "outdoor" = .plain (.bool m.outdoor) := fieldOf_eq 1 rfl
  have hsamples : fieldOf m.toRecord "samples" = .plain (.int m.samples) := fieldOf_eq 2 rfl
  unfold storedSamples
  simp only [houtdoor, hsamples]
  rw [if_pos ⟨trivial, by omega, by omega⟩, Int.toNat_natCast]

theorem storedStatistics_toRecord {m : HeatingModel} (h : m.errors.length ≤ 64) :
    storedStatistics m.toRecord = .ok (m.sums, m.errors) := by
  have hsums : fieldOf m.toRecord "sums" =
      .list ([m.sums.weight, m.sums.x, m.sums.xx, m.sums.y, m.sums.xy].map .float) :=
    fieldOf_eq 4 rfl
  have herrors : fieldOf m.toRecord "errors" = .list (m.errors.map .float) := fieldOf_eq 6 rfl
  unfold storedStatistics
  simp only [hsums, herrors, List.map_cons, List.map_nil, List.length_map, finite_float, ok_bind]
  rw [if_neg (not_lt.mpr h)]
  rfl

theorem checkMetrics_toRecord (m : HeatingModel) : m.checkMetrics m.toRecord = .ok m := by
  have hcoefficients : fieldOf m.toRecord "coefficients" =
      .list ([m.coefficients.1, m.coefficients.2].map .float) := fieldOf_eq 5 rfl
  have hmae : fieldOf m.toRecord "mae" = .plain (.ofOption m.mae) := fieldOf_eq 7 rfl
  have hmedian : fieldOf m.toRecord "median_error" = .plain (.ofOption m.medianError) :=
    fieldOf_eq 8 rfl
  unfold checkMetrics
  rw [hcoefficients, hmae, hmedian, ModelStored.equals_ofOption, ModelStored.equals_ofOption]
  simp [ModelStored.equalsPair, Stored.equals]

/-! ## The invariant -/

/-- What the loader relies on. A model without samples is empty. -/
structure Learned (m : HeatingModel) : Prop where
  spread : m.sums.Spread
  rates : m.sums.Within 0 8
  weight : (1 - 24 / 25) * m.sums.weight ≤ 3 / 2
  learned : m.samples ≠ 0 → 0 < m.sums.weight ∧ 0 < m.sums.y ∧
    ∃ last, m.lastUpdate = some last ∧ 0 ≤ last ∧ last ≤ 253402300799
  empty : m.samples = 0 → m.lastUpdate = none ∧ m.sums = .zero ∧ m.errors = []
  errors : m.errors.length ≤ 64

theorem init_ok {outdoor : Bool} {fallback : ℚ} {m : HeatingModel}
    (h : init outdoor fallback = .ok m) :
    m.outdoor = outdoor ∧ m.fallback = fallback ∧ m.samples = 0 ∧ m.lastUpdate = none ∧
      m.sums = .zero ∧ m.errors = [] := by
  unfold init at h
  split at h
  · cases h
    exact ⟨rfl, rfl, rfl, rfl, rfl, rfl⟩
  · cases h

theorem learned_init {outdoor : Bool} {fallback : ℚ} {m : HeatingModel}
    (h : init outdoor fallback = .ok m) : Learned m := by
  obtain ⟨-, -, hsamples, hlast, hsums, herrors⟩ := init_ok h
  exact
    { spread := hsums ▸ Moments.spread_zero
      rates := hsums ▸ Moments.within_zero 0 8
      weight := by rw [hsums]; norm_num [Moments.zero]
      learned := fun hne => absurd hsamples hne
      empty := fun _ => ⟨hlast, hsums, herrors⟩
      errors := by rw [herrors]; exact Nat.zero_le _ }

theorem lastErrors_length (errors : List ℚ) : (lastErrors errors).length ≤ 64 := by
  rw [lastErrors, List.length_drop]
  omega

/-- **Every update keeps what the loader relies on.** -/
theorem Learned.update {m : HeatingModel} (h : Learned m) (segment : HeatingSegment) :
    Learned (m.update segment).2 := by
  obtain ⟨hstart, hend, ⟨hlo, -⟩, hrate, hrate8⟩ := segment.valid
  rcases m.update_case segment with ⟨e, he⟩ | ⟨errors, herrors, he⟩
  · rw [he]
    exact h
  · rw [he]
    have hγ : (0 : ℚ) ≤ 24 / 25 := by norm_num
    have hw := segment.weight_pos
    have hweight : 0 ≤ 24 / 25 * m.sums.weight := mul_nonneg hγ h.spread.weight
    have hvalues : 0 ≤ 24 / 25 * m.sums.y :=
      mul_nonneg hγ (by simpa using h.rates.1)
    exact
      { spread := h.spread.add hγ hw.le _ _
        rates := h.rates.add hγ hw.le hrate.le hrate8 _
        weight := Moments.weight_add_le hγ (by norm_num) h.weight segment.weight_le _ _
        learned := fun _ => ⟨add_pos_of_nonneg_of_pos hweight hw,
          add_pos_of_nonneg_of_pos hvalues (mul_pos hw hrate), _, rfl, by linarith, hend⟩
        empty := fun hzero => absurd hzero (Nat.succ_ne_zero _)
        errors := by
          rcases herrors with rfl | ⟨error, rfl⟩
          · exact h.errors
          · exact lastErrors_length _ }

/-- The inequalities in the form in which the loader tests them. -/
theorem Learned.statistics {m : HeatingModel} (h : Learned m) (hsamples : m.samples ≠ 0) :
    0 < m.sums.weight ∧ m.sums.weight ≤ 75 / 2 ∧ m.sums.x * m.sums.x ≤ m.sums.xx * m.sums.weight ∧
      0 < m.sums.y / m.sums.weight ∧ m.sums.y / m.sums.weight ≤ 8 := by
  obtain ⟨hpos, hy, -⟩ := h.learned hsamples
  have hbound := h.weight
  refine ⟨hpos, by linarith, ?_, div_pos hy hpos, (div_le_iff₀ hpos).mpr h.rates.2⟩
  rw [mul_comm m.sums.xx]
  exact h.spread.cauchy

/-- The loader accepts the statistics of a learned model. -/
theorem Learned.checkLearned {m : HeatingModel} (h : Learned m) :
    ({ m with lastUpdate := none } : HeatingModel).checkLearned (.plain (.ofOption m.lastUpdate)) =
      .ok m.lastUpdate := by
  unfold HeatingModel.checkLearned
  dsimp only
  by_cases hsamples : m.samples = 0
  · obtain ⟨hlast, hsums, herrors⟩ := h.empty hsamples
    rw [if_neg (not_not.mpr hsamples), if_neg (by simp [hlast, hsums, herrors, Stored.ofOption]),
      hlast]
  · obtain ⟨hpos, hbound, hcauchy, hmean, hmean8⟩ := h.statistics hsamples
    obtain ⟨-, hy, last, hlast, hlast0, hlastMax⟩ := h.learned hsamples
    have hvariance : m.sums.x * m.sums.x / m.sums.weight ≤ m.sums.xx + 1 / 10000000 := by
      have hdiv := (div_le_iff₀ hpos).mpr hcauchy
      linarith
    rw [if_pos hsamples, hlast]
    show (if ¬ (0 ≤ last ∧ last ≤ 253402300799) ∨
        ¬ (0 < m.sums.weight ∧ m.sums.weight ≤ 375001 / 10000) ∨ m.sums.xx < 0 ∨ m.sums.y ≤ 0 then
        Except.error ModelError.learned else _) = _
    rw [if_neg, if_neg]
    · rw [not_or, not_not, not_lt]
      exact ⟨hvariance, hmean, hmean8⟩
    · rw [not_or, not_or, not_or, not_not, not_not, not_lt, not_le]
      exact ⟨⟨hlast0, hlastMax⟩, ⟨hpos, by linarith⟩, h.spread.xx, hy⟩

/-- **A learned model is read back as it was.** -/
theorem fromRecord_toRecord {m : HeatingModel} (h : Learned m) (hsamples : m.samples ≤ 1000000000) :
    fromRecord (some m.toRecord) m.outdoor m.fallback = .ok m := by
  have hlast : fieldOf m.toRecord "last_update" = .plain (.ofOption m.lastUpdate) := fieldOf_eq 3 rfl
  have hinit : init m.outdoor m.fallback =
      .ok { outdoor := m.outdoor, fallback := m.fallback, fallback_valid := m.fallback_valid } :=
    dif_pos m.fallback_valid
  have hlearned := h.checkLearned
  unfold fromRecord
  simp only [hinit, shaped_toRecord, storedSamples_toRecord hsamples,
    storedStatistics_toRecord h.errors, hlast, ok_bind]
  rw [hlearned, ok_bind]
  exact m.checkMetrics_toRecord

/-! ## Runs -/

/-- A model and the segments it is given. -/
def machine (m : HeatingModel) : Machine HeatingModel HeatingSegment (Except ModelError Unit) where
  init := m
  step m segment := ((m.update segment).2, (m.update segment).1)

/-- The model after the first `n` segments of a run. -/
def modelAt (m : HeatingModel) (run : List HeatingSegment) (n : ℕ) : HeatingModel :=
  (machine m).stateAt run n

/-- No update changes what the model was made with. -/
theorem modelAt_made (m : HeatingModel) (run : List HeatingSegment) (n : ℕ) :
    (modelAt m run n).outdoor = m.outdoor ∧ (modelAt m run n).fallback = m.fallback := by
  refine (machine m).stateAt_invariant
    (P := fun m' => m'.outdoor = m.outdoor ∧ m'.fallback = m.fallback) ⟨rfl, rfl⟩ ?_ run n
  intro m' segment hm'
  show (m'.update segment).2.outdoor = _ ∧ (m'.update segment).2.fallback = _
  rcases m'.update_case segment with ⟨e, he⟩ | ⟨errors, -, he⟩
  · rw [he]
    exact hm'
  · rw [he]
    exact hm'

/-- What a model guarantees that was made with these arguments. -/
structure Reloadable (outdoor : Bool) (fallback : ℚ) (m : HeatingModel) : Prop where
  /-- Its record is read back as a model with the same record and the same predictions. -/
  reload : m.samples ≤ 1000000000 → ∃ m', fromRecord (some m.toRecord) outdoor fallback = .ok m' ∧
    m'.toRecord = m.toRecord ∧ (∀ water air, m'.rate water air = m.rate water air) ∧
      ∀ water target air, m'.eta water target air = m.eta water target air
  /-- The loader's checks, which it makes if there are samples. -/
  statistics : m.samples ≠ 0 → 0 < m.sums.weight ∧ m.sums.weight ≤ 75 / 2 ∧
    m.sums.x * m.sums.x ≤ m.sums.xx * m.sums.weight ∧
      0 < m.sums.y / m.sums.weight ∧ m.sums.y / m.sums.weight ≤ 8
  slope : -1 ≤ m.coefficients.2 ∧ m.coefficients.2 ≤ 0
  errors : m.errors.length ≤ 64
  refused : ∀ segment e, (m.update segment).1 = .error e → (m.update segment).2 = m

/-- **A learned model always reloads**, after any run of accepted and refused updates. -/
theorem model_reloads {outdoor : Bool} {fallback : ℚ} {m : HeatingModel}
    (hm : init outdoor fallback = .ok m) (run : List HeatingSegment) (n : ℕ) :
    Reloadable outdoor fallback (modelAt m run n) := by
  have hlearned : Learned (modelAt m run n) :=
    (machine m).stateAt_invariant (learned_init hm) (fun _ segment h => h.update segment) run n
  obtain ⟨houtdoor, hfallback⟩ := modelAt_made m run n
  obtain ⟨hmOutdoor, hmFallback, -⟩ := init_ok hm
  refine ⟨fun hsamples => ?_, hlearned.statistics, slope_mem _, hlearned.errors, ?_⟩
  · have hreload := fromRecord_toRecord hlearned hsamples
    rw [houtdoor, hmOutdoor, hfallback, hmFallback] at hreload
    exact ⟨_, hreload, rfl, fun _ _ => rfl, fun _ _ _ => rfl⟩
  · intro segment e he
    rcases (modelAt m run n).update_case segment with ⟨e', he'⟩ | ⟨errors, -, he'⟩
    · rw [he']
    · rw [he'] at he
      cases he

/-- An hour of heating from 30 to 32 °C, at 2 °C an hour. -/
def sampleSegment : HeatingSegment where
  start := 0
  endTime := 3600
  startWater := 30
  endWater := 32
  meanWater := 31
  meanOutdoor := none
  rate := 2
  checked := by decide +kernel

/-- A model that has learned one segment and refused to learn it again. -/
theorem model_reloads_sample : ∃ m, init false 2 = .ok m ∧
    (modelAt m [sampleSegment, sampleSegment] 2).samples = 1 ∧
      Reloadable false 2 (modelAt m [sampleSegment, sampleSegment] 2) := by
  have hm : init false 2 = .ok
      { outdoor := false, fallback := 2, fallback_valid := by norm_num } := dif_pos (by norm_num)
  exact ⟨_, hm, by decide +kernel, model_reloads hm _ 2⟩

end HeatingModel

end BalboaRs485
