import BalboaRs485.Prediction.Controller

/-!
# What the prediction controller learns from

The controller observes whatever the connection shows, also while it is lost and found again, and
while options change and the process starts anew.

* `forecast_ok`, `observe_ok`: nothing is raised, and a forecast is within bounds.
* `Gathered`: the readings of all new observations between two steps of a run, none of which was
  unhealthy or of another connection.
* `observe_clean`: every segment that is learned was fitted to readings that were gathered so.
-/

namespace BalboaRs485

/-! ## What is shown -/

theorem roundTo_mem (digits : ℕ) (lo hi : ℤ) {x : ℚ} (h : (lo : ℚ) ≤ x ∧ x ≤ hi) :
    (lo : ℚ) ≤ roundTo digits x ∧ roundTo digits x ≤ hi := by
  have hpow : (0 : ℚ) < 10 ^ digits := by positivity
  have hlo : lo * 10 ^ digits ≤ ⌊x * 10 ^ digits⌋ := by
    rw [Int.le_floor]
    push_cast
    exact mul_le_mul_of_nonneg_right h.1 hpow.le
  have hscaled : x * 10 ^ digits ≤ (hi * 10 ^ digits : ℤ) := by
    push_cast
    exact mul_le_mul_of_nonneg_right h.2 hpow.le
  have hhi : ⌊x * 10 ^ digits⌋ ≤ hi * 10 ^ digits := by
    have hfloor := (Int.floor_le (x * 10 ^ digits)).trans hscaled
    exact_mod_cast hfloor
  -- it is rounded up only from below the next number
  have hup : ¬ (x * 10 ^ digits - ⌊x * 10 ^ digits⌋ < 1 / 2) →
      ⌊x * 10 ^ digits⌋ + 1 ≤ hi * 10 ^ digits := by
    intro hrest
    have hlt : (⌊x * 10 ^ digits⌋ : ℚ) < (hi * 10 ^ digits : ℤ) := by
      refine lt_of_lt_of_le ?_ hscaled
      linarith [not_lt.mp hrest]
    have hlt : ⌊x * 10 ^ digits⌋ < hi * 10 ^ digits := by exact_mod_cast hlt
    omega
  have hmem : ∀ n : ℤ, lo * 10 ^ digits ≤ n → n ≤ hi * 10 ^ digits →
      (lo : ℚ) ≤ n / 10 ^ digits ∧ (n : ℚ) / 10 ^ digits ≤ hi := by
    intro n hlo hhi
    rw [le_div_iff₀ hpow, div_le_iff₀ hpow]
    constructor
    · exact_mod_cast hlo
    · exact_mod_cast hhi
  unfold roundTo
  dsimp only
  split
  · exact hmem _ hlo hhi
  · next hrest => exact hmem _ (by omega) (hup fun hlt => hrest (Or.inl hlt))

namespace PredictionController

variable {c : PredictionController} {i : PredictionInput}

/-- **A forecast is no error**: a rate the spa can heat with, and a week at most. -/
theorem forecast_ok (c : PredictionController) (i : PredictionInput) :
    ∃ rate eta, c.forecast i = .ok (rate, eta) ∧ (∀ r ∈ rate, 0 ≤ r ∧ r ≤ 8) ∧
      ∀ t ∈ eta, 0 ≤ t ∧ t ≤ 10080 := by
  unfold forecast
  split
  · next water target _ _ =>
    split
    · next hrange =>
      obtain ⟨rate, hrate, hbounds⟩ := c.model.rate_ok (c.air i) hrange.2.1
      obtain ⟨eta, heta, hweek⟩ := c.model.eta_ok (c.air i) hrange.2.1 hrange.2.2
      rw [hrate, ok_bind, heta, ok_bind]
      exact ⟨rate, eta, rfl, fun r hr => ⟨(hbounds r hr).1.le, (hbounds r hr).2⟩, hweek⟩
    · exact ⟨none, none, rfl, nofun, nofun⟩
  · exact ⟨none, none, rfl, nofun, nofun⟩

/-- What is shown is within bounds. -/
def Plain (values : PredictionValues) : Prop :=
  (∀ r ∈ values.heatingRate, 0 ≤ r ∧ r ≤ 8) ∧ ∀ t ∈ values.heatingEta, 0 ≤ t ∧ t ≤ 10080

/-- The rest of `observe` raises nothing, and only changes what is shown. -/
theorem refresh_spec (c : PredictionController) (i : PredictionInput) :
    ∃ at_ key values,
      c.refresh i = ({ c with forecastAt := at_, forecastKey := key, values }, .ok ()) ∧
      (values = c.values ∨ ∃ v, values = some v ∧ Plain v) := by
  unfold refresh
  split
  · exact ⟨c.forecastAt, c.forecastKey, c.values, rfl, Or.inl rfl⟩
  · obtain ⟨rate, eta, hforecast, hrate, heta⟩ := forecast_ok
      { c with forecastKey := some (c.key i), forecastAt := i.now } i
    dsimp only
    rw [hforecast]
    refine ⟨_, _, _, rfl, Or.inr ⟨_, rfl, fun r hr => ?_, fun t ht => ?_⟩⟩
    · obtain ⟨r', hr', rfl⟩ := Option.map_eq_some_iff.mp hr
      simpa using roundTo_mem 3 0 8 (by simpa using hrate r' hr')
    · obtain ⟨t', ht', rfl⟩ := Option.map_eq_some_iff.mp ht
      simpa using roundTo_mem 1 0 10080 (by simpa using heta t' ht')

/-! ## What is collected -/

open SegmentCollector (Reading Fitted reading Observed observe_spec rep_reset)

/-- The attributes of the collector are those of a run of readings. -/
structure Rep (c : PredictionController) (rs : List Reading) : Prop where
  run : SegmentCollector.Rep c.collector rs
  collector : c.collector.outdoor = c.outdoorEntity.isSome
  model : c.model.outdoor = c.outdoorEntity.isSome

/-- The run goes on in the same connection. -/
def continuedRun (c : PredictionController) (i : PredictionInput) (rs : List Reading) :
    List Reading :=
  if c.observation.any fun old => old.1 ≠ i.view.snapshot.epoch then [] else rs

/-- What an observation is to the collector and the model. -/
inductive CollectCase (c : PredictionController) (i : PredictionInput) (rs : List Reading) :
    PredictionController → Prop where
  | unhealthy (h : c.healthy i = false) :
      CollectCase c i rs { c with collector := c.collector.reset }
  | again (hhealthy : c.healthy i = true) (h : c.observation = some i.observation) :
      CollectCase c i rs c
  | collected (collector : SegmentCollector) (rs' : List Reading) (hhealthy : c.healthy i = true)
      (hnew : c.observation ≠ some i.observation) (hrep : SegmentCollector.Rep collector rs')
      (houtdoor : collector.outdoor = c.outdoorEntity.isSome)
      (h : Observed (c.continued i) (c.continuedRun i rs) (c.collected i) none rs') :
      CollectCase c i rs { c with collector }
  | finished (collector : SegmentCollector) (rs' : List Reading) (segment : HeatingSegment)
      (hhealthy : c.healthy i = true) (hnew : c.observation ≠ some i.observation)
      (hrep : SegmentCollector.Rep collector rs')
      (houtdoor : collector.outdoor = c.outdoorEntity.isSome)
      (h : Observed (c.continued i) (c.continuedRun i rs) (c.collected i) (some segment) rs') :
      CollectCase c i rs (({ c with collector } : PredictionController).learn segment)

theorem continued_outdoor (c : PredictionController) (i : PredictionInput) :
    (c.continued i).outdoor = c.collector.outdoor := by
  unfold continued
  split <;> rfl

/-- **An observation raises nothing.** -/
theorem collect_spec {rs : List Reading} (h : c.Rep rs) (i : PredictionInput) :
    ∃ c', c.collect i = .ok c' ∧ CollectCase c i rs c' := by
  unfold collect
  by_cases hhealthy : c.healthy i = true
  · rw [if_neg (not_not.mpr hhealthy)]
    by_cases hnew : c.observation = some i.observation
    · rw [if_pos hnew]
      exact ⟨c, rfl, .again hhealthy hnew⟩
    rw [if_neg hnew]
    have hrun : SegmentCollector.Rep (c.continued i) (c.continuedRun i rs) := by
      unfold continued continuedRun
      split
      · exact rep_reset _
      · exact h.run
    obtain ⟨result, collector, rs', hobserve, houtdoor, hrep, hobserved⟩ :=
      observe_spec hrun (c.collected i)
    have houtdoor : collector.outdoor = c.outdoorEntity.isSome :=
      houtdoor.trans ((c.continued_outdoor i).trans h.collector)
    rw [hobserve]
    cases result with
    | none => exact ⟨_, rfl, .collected collector rs' hhealthy hnew hrep houtdoor hobserved⟩
    | some segment =>
      exact ⟨_, rfl, .finished collector rs' segment hhealthy hnew hrep houtdoor hobserved⟩
  · rw [if_pos hhealthy]
    exact ⟨_, rfl, .unhealthy (Bool.not_eq_true _ ▸ hhealthy)⟩

/-- A segment is learned, or refused and the collector begins anew. -/
theorem learn_case (c : PredictionController) (segment : HeatingSegment) :
    c.learn segment = { c with collector := c.collector.reset } ∨
      (c.model.update segment).1 = .ok () ∧
        c.learn segment = { c with model := (c.model.update segment).2 }.markDirty := by
  unfold learn
  obtain ⟨e, he⟩ | ⟨errors, -, he⟩ := c.model.update_case segment
  · rw [he]
    exact Or.inl rfl
  · rw [he]
    exact Or.inr ⟨rfl, rfl⟩

/-- The rest of the controller goes on with the same run. -/
structure SameRun (c c' : PredictionController) : Prop where
  collector : c'.collector = c.collector
  outdoorEntity : c'.outdoorEntity = c.outdoorEntity
  outdoor : c'.model.outdoor = c.model.outdoor
  observation : c'.observation = c.observation
  values : c'.values = c.values

theorem SameRun.trans {c c' c'' : PredictionController} (h : SameRun c c') (h' : SameRun c' c'') :
    SameRun c c'' :=
  ⟨h'.collector.trans h.collector, h'.outdoorEntity.trans h.outdoorEntity,
    h'.outdoor.trans h.outdoor, h'.observation.trans h.observation, h'.values.trans h.values⟩

theorem SameRun.rep {c c' : PredictionController} (h : SameRun c c') {rs : List Reading}
    (hrep : c.Rep rs) : c'.Rep rs where
  run := h.collector.symm ▸ hrep.run
  collector := by rw [h.collector, h.outdoorEntity, hrep.collector]
  model := by rw [h.outdoor, h.outdoorEntity, hrep.model]

theorem update_outdoor (m : HeatingModel) (segment : HeatingSegment) :
    (m.update segment).2.outdoor = m.outdoor := by
  obtain ⟨e, he⟩ | ⟨errors, -, he⟩ := m.update_case segment
  · rw [he]
  · rw [he]

theorem Rep.reset {rs : List Reading} (h : c.Rep rs) :
    ({ c with collector := c.collector.reset } : PredictionController).Rep [] :=
  ⟨rep_reset _, h.collector, h.model⟩

theorem Rep.collect {rs rs' : List Reading} (h : c.Rep rs) {collector : SegmentCollector}
    (hrep : SegmentCollector.Rep collector rs')
    (houtdoor : collector.outdoor = c.outdoorEntity.isSome) :
    ({ c with collector } : PredictionController).Rep rs' :=
  ⟨hrep, houtdoor, h.model⟩

/-- A segment that ends leaves nothing in the collector. -/
theorem Rep.learn (h : c.Rep []) (segment : HeatingSegment) : (c.learn segment).Rep [] := by
  obtain hl | ⟨-, hl⟩ := c.learn_case segment
  · rw [hl]
    exact h.reset
  · rw [hl]
    exact ⟨h.run, h.collector, (update_outdoor _ _).trans h.model⟩

theorem learn_shows (c : PredictionController) (segment : HeatingSegment) :
    (c.learn segment).values = c.values := by
  obtain hl | ⟨-, hl⟩ := c.learn_case segment
  · rw [hl]
  · rw [hl]
    rfl

/-- Other options begin anew if they name another entity. -/
theorem configure_case (c : PredictionController) (o : PredictionOptions) :
    (o.outdoorEntity = c.outdoorEntity ∧ SameRun c (c.configure o)) ∨
      (o.outdoorEntity ≠ c.outdoorEntity ∧ (c.configure o).Rep [] ∧
        (c.configure o).values = c.values) := by
  unfold configure renewed
  by_cases hsame : o.outdoorEntity = c.outdoorEntity
  · left
    rw [if_neg (not_not.mpr hsame)]
    exact ⟨hsame, ⟨rfl, rfl, rfl, rfl, rfl⟩⟩
  · right
    rw [if_pos hsame]
    exact ⟨hsame, ⟨rep_reset { outdoor := o.outdoorEntity.isSome }, rfl, rfl⟩, rfl⟩

theorem noted_healthy (c : PredictionController) (i : PredictionInput) :
    (c.noted i).healthy i = c.healthy i := by
  have hready : i.view.readyEpoch (i.view.readyEpoch c.readyEpoch) =
      i.view.readyEpoch c.readyEpoch := by
    unfold ObservedSnapshot.readyEpoch
    split <;> rfl
  have hrefresh : i.view.Refresh (c.noted i).readyEpoch ↔ i.view.Refresh c.readyEpoch := by
    unfold ObservedSnapshot.Refresh noted
    rw [hready]
  unfold healthy
  exact decide_eq_decide.mpr (and_congr (or_congr Iff.rfl hrefresh) Iff.rfl)

theorem noted_collected (c : PredictionController) (i : PredictionInput) :
    (c.noted i).collected i = c.collected i := by
  unfold collected
  rw [noted_healthy]
  rfl

/-- **`observe` raises nothing.** -/
theorem observe_ok {rs : List Reading} (h : c.Rep rs) (i : PredictionInput) :
    ∃ c' at_ key values, CollectCase (c.noted i) i rs c' ∧
      c.observe i = ({ c' with
        observation := some i.observation
        forecastAt := at_
        forecastKey := key
        values }, .ok ()) ∧
      (values = c'.values ∨ ∃ v, values = some v ∧ Plain v) := by
  have hrep : (c.noted i).Rep rs := ⟨h.run, h.collector, h.model⟩
  obtain ⟨c', hcollect, hcase⟩ := collect_spec hrep i
  obtain ⟨at_, key, values, hrefresh, hvalues⟩ :=
    refresh_spec { c' with observation := some i.observation } i
  refine ⟨c', at_, key, values, hcase, ?_, hvalues⟩
  unfold observe
  rw [hcollect]
  exact hrefresh

end PredictionController

open PredictionController (Plain SameRun CollectCase)
open SegmentCollector (Reading Fitted reading Observed not_fitted_nil rep_reset)

namespace PredictionSystem

variable {w : PredictionSystem}

/-- What a new start has gathered: nothing. -/
theorem start_rep (file : PredictionFile) (o : PredictionOptions) (connection : Dict String Stored)
    (result : LoadEnd) : (start file o connection result).controller.Rep [] ∧
      (start file o connection result).controller.values = none := by
  have hcase := start_case file o connection result
  generalize start file o connection result = w at hcase
  have hrun : SegmentCollector.Rep { outdoor := o.outdoorEntity.isSome } [] :=
    rep_reset { outdoor := o.outdoorEntity.isSome }
  cases hcase with
  | fresh =>
    rw [init_eq]
    exact ⟨⟨hrun, rfl, rfl⟩, rfl⟩
  | loaded m h =>
    obtain ⟨_, _, -, -, hrecord⟩ := PredictionFile.load_eq_some h
    rw [init_eq]
    exact ⟨⟨hrun, rfl, (HeatingModel.fromRecord_made hrecord).1⟩, rfl⟩
  | failed | aborted | erased =>
    rw [init_eq]
    exact ⟨⟨hrun, rfl, rfl⟩, rfl⟩

/-- A step that goes on with the run of readings. -/
def Quiet (w : PredictionSystem) : PredictionOp → Prop
  | .observe _ => w.aborted = true
  | .restart .. => False
  | .configure o => w.aborted = true ∨ o.outdoorEntity = w.controller.outdoorEntity
  | _ => True

theorem save_same (w : PredictionSystem) (busy idle : WriteBack.Saver) :
    SameRun w.controller (w.save busy idle).controller := by
  unfold save
  split <;> exact ⟨rfl, rfl, rfl, rfl, rfl⟩

theorem cancel_same (w : PredictionSystem) : SameRun w.controller w.cancel.controller := by
  unfold cancel
  split <;> exact ⟨rfl, rfl, rfl, rfl, rfl⟩

theorem land_same (w : PredictionSystem) (record : Option (PredictionBinding × HeatingModel)) :
    SameRun w.controller (w.land record).controller := by
  cases record with
  | none => exact ⟨rfl, rfl, rfl, rfl, rfl⟩
  | some a => exact ⟨rfl, rfl, rfl, rfl, rfl⟩

theorem step_quiet {op : PredictionOp} (h : w.Quiet op) :
    SameRun w.controller (w.step op).1.controller := by
  obtain heq | ⟨heq, hcalled⟩ := w.step_case op
  · rw [heq]
    exact ⟨rfl, rfl, rfl, rfl, rfl⟩
  rw [heq]
  have hused : op.calls = true → ¬ w.aborted = true := fun hcalls haborted =>
    absurd (haborted.symm.trans (hcalled hcalls)) (by decide)
  cases op with
  | configure o =>
    have hsame : o.outdoorEntity = w.controller.outdoorEntity := h.resolve_left (hused rfl)
    exact (w.controller.configure_case o).elim And.right fun hother => absurd hsame hother.1
  | observe => exact absurd h (hused rfl)
  | wake =>
    show SameRun w.controller w.wake.controller
    unfold wake
    split
    · have hcleared : SameRun w.controller w.cleared.controller := ⟨rfl, rfl, rfl, rfl, rfl⟩
      exact hcleared.trans (save_same _ _ _)
    · exact ⟨rfl, rfl, rfl, rfl, rfl⟩
  | land => exact w.land_same _
  | landLate index => exact w.land_same _
  | saved result =>
    show SameRun w.controller (w.saved result).controller
    unfold saved
    repeat' split
    all_goals exact ⟨rfl, rfl, rfl, rfl, rfl⟩
  | cancel => exact w.cancel_same
  | close =>
    show SameRun w.controller w.close.controller
    unfold close
    split
    · exact ⟨rfl, rfl, rfl, rfl, rfl⟩
    · exact w.cancel_same.trans (save_same _ _ _)
  | stop => exact ⟨rfl, rfl, rfl, rfl, rfl⟩
  | restart => cases h

/-! ## What is gathered -/

section Runs

variable (file : PredictionFile) (o : PredictionOptions) (connection : Dict String Stored)
  (result : LoadEnd) (run : List PredictionOp)

/-- **The readings gathered from step `m` to step `n`**: those of all new observations, each of
    which was healthy, heating and of connection `epoch`. -/
inductive Gathered (epoch : ℕ) : ℕ → ℕ → List Reading → Prop where
  | none (n : ℕ) : Gathered epoch n n []
  | quiet {m n : ℕ} {rs : List Reading} {op : PredictionOp} (h : Gathered epoch m n rs)
      (hop : run[n]? = some op)
      (hquiet : (systemAt file o connection result run n).Quiet op) : Gathered epoch m (n + 1) rs
  | again {m n : ℕ} {rs : List Reading} {i : PredictionInput} (h : Gathered epoch m n rs)
      (hop : run[n]? = some (.observe i))
      (hused : (systemAt file o connection result run n).aborted = false)
      (hhealthy : (systemAt file o connection result run n).controller.healthy i = true)
      (hold : (systemAt file o connection result run n).controller.observation =
        some i.observation) (hepoch : i.view.snapshot.epoch = epoch) : Gathered epoch m (n + 1) rs
  | new {m n : ℕ} {rs : List Reading} {i : PredictionInput} {r : Reading}
      (h : Gathered epoch m n rs) (hop : run[n]? = some (.observe i))
      (hused : (systemAt file o connection result run n).aborted = false)
      (hhealthy : (systemAt file o connection result run n).controller.healthy i = true)
      (hnew : (systemAt file o connection result run n).controller.observation ≠
        some i.observation) (hepoch : i.view.snapshot.epoch = epoch) (hheating : i.heating = true)
      (hr : reading (systemAt file o connection result run n).controller.outdoorEntity.isSome
        ((systemAt file o connection result run n).controller.collected i) = some r) :
      Gathered epoch m (n + 1) (rs ++ [r])

/-- What the collector holds after `n` steps was gathered, since some step. -/
structure Gathers (n : ℕ) (rs : List Reading) : Prop where
  rep : (systemAt file o connection result run n).controller.Rep rs
  values : ∀ v ∈ (systemAt file o connection result run n).controller.values, Plain v
  gathered : rs ≠ [] → ∃ m epoch sequence, Gathered file o connection result run epoch m n rs ∧
    (systemAt file o connection result run n).controller.observation = some (epoch, sequence)

variable {file o connection result run}

theorem systemAt_succ {n : ℕ} {op : PredictionOp} (hop : run[n]? = some op) :
    systemAt file o connection result run (n + 1) =
      ((systemAt file o connection result run n).step op).1 :=
  (machine file o connection result).stateAt_succ hop

theorem gathers_nil {n : ℕ} (hrep : (systemAt file o connection result run n).controller.Rep [])
    (hvalues : ∀ v ∈ (systemAt file o connection result run n).controller.values, Plain v) :
    Gathers file o connection result run n [] :=
  ⟨hrep, hvalues, fun h => absurd rfl h⟩

/-- A segment was learned from readings that were gathered up to step `n`, or with it. -/
def Clean (file : PredictionFile) (o : PredictionOptions) (connection : Dict String Stored)
    (result : LoadEnd) (run : List PredictionOp) (n : ℕ) (segment : HeatingSegment) : Prop :=
  ∃ m k epoch rs, (k = n ∨ k = n + 1) ∧ Gathered file o connection result run epoch m k rs ∧
    Fitted (systemAt file o connection result run n).controller.outdoorEntity.isSome
      segment.toSegmentRecord rs

variable {n : ℕ} {rs : List Reading} {i : PredictionInput}

/-- The run that an observation goes on with was gathered in its connection. -/
theorem Gathers.base (h : Gathers file o connection result run n rs) {base : List Reading}
    (hbase : base = (systemAt file o connection result run n).controller.continuedRun i rs ∨
      base = []) :
    ∃ m, Gathered file o connection result run i.view.snapshot.epoch m n base := by
  obtain rfl | rfl := hbase
  · unfold PredictionController.continuedRun
    split
    · exact ⟨n, .none n⟩
    · next hsame =>
      by_cases hne : rs = []
      · exact hne ▸ ⟨n, .none n⟩
      · obtain ⟨m, epoch, sequence, hgathered, hobservation⟩ := h.gathered hne
        rw [hobservation] at hsame
        have hepoch : epoch = i.view.snapshot.epoch := by simpa using hsame
        exact ⟨m, hepoch ▸ hgathered⟩
  · exact ⟨n, .none n⟩

/-- What a new observation of a healthy spa leaves in the collector was gathered, and so was what
    a segment was fitted to. -/
theorem Gathers.observed (h : Gathers file o connection result run n rs)
    (hop : run[n]? = some (.observe i))
    (hused : (systemAt file o connection result run n).aborted = false)
    (hhealthy : (systemAt file o connection result run n).controller.healthy i = true)
    (hnew : (systemAt file o connection result run n).controller.observation ≠
      some i.observation) {found : Option HeatingSegment} {rs' : List Reading}
    (hobserved : Observed ((systemAt file o connection result run n).controller.continued i)
      ((systemAt file o connection result run n).controller.continuedRun i rs)
      ((systemAt file o connection result run n).controller.collected i) found rs') :
    (rs' = [] ∨ ∃ m, Gathered file o connection result run i.view.snapshot.epoch m (n + 1) rs') ∧
      ∀ segment ∈ found, rs' = [] ∧ Clean file o connection result run n segment := by
  have houtdoor : ((systemAt file o connection result run n).controller.continued i).outdoor =
      (systemAt file o connection result run n).controller.outdoorEntity.isSome :=
    (PredictionController.continued_outdoor _ i).trans h.rep.collector
  cases hobserved with
  | dropped => exact ⟨Or.inl rfl, nofun⟩
  | finished segment hfitted =>
    refine ⟨Or.inl rfl, ?_⟩
    rintro _ ⟨⟩
    rw [houtdoor] at hfitted
    obtain ⟨m, hgathered⟩ := h.base (i := i) (Or.inl rfl)
    exact ⟨rfl, m, n, _, _, Or.inl rfl, hgathered, hfitted⟩
  | collected r base run' found hr hheating hbase hlink hcollected =>
    rw [houtdoor] at hr hcollected
    obtain ⟨m, hbase⟩ := h.base (i := i) (hbase.imp And.left And.left)
    have hgathered : Gathered file o connection result run i.view.snapshot.epoch m (n + 1)
        (base ++ [r]) := .new hbase hop hused hhealthy hnew rfl hheating hr
    cases hcollected with
    | dropped => exact ⟨Or.inl rfl, nofun⟩
    | extended => exact ⟨Or.inr ⟨m, hgathered⟩, nofun⟩
    | completed segment hfitted =>
      refine ⟨Or.inl rfl, ?_⟩
      rintro _ ⟨⟩
      exact ⟨rfl, m, n + 1, _, _, Or.inr rfl, hgathered, hfitted⟩

/-- The model after an observation. -/
def Learns (file : PredictionFile) (o : PredictionOptions) (connection : Dict String Stored)
    (result : LoadEnd) (run : List PredictionOp) (n : ℕ) : Prop :=
  (systemAt file o connection result run (n + 1)).controller.model =
      (systemAt file o connection result run n).controller.model ∨
    ∃ segment, Clean file o connection result run n segment ∧
      ((systemAt file o connection result run n).controller.model.update segment).1 = .ok () ∧
      (systemAt file o connection result run (n + 1)).controller.model =
        ((systemAt file o connection result run n).controller.model.update segment).2

/-- **One observation** of a run. -/
theorem Gathers.observe (h : Gathers file o connection result run n rs)
    (hop : run[n]? = some (.observe i))
    (hused : (systemAt file o connection result run n).aborted = false) :
    ((systemAt file o connection result run n).step (.observe i)).2 = .ok () ∧
      (∃ rs', Gathers file o connection result run (n + 1) rs') ∧
      Learns file o connection result run n := by
  obtain ⟨c', at_, key, values, hcase, hobserve, hvalues⟩ :=
    PredictionController.observe_ok h.rep i
  have hstep : (systemAt file o connection result run n).step (.observe i) =
      (systemAt file o connection result run n).act (.observe i) := step_eq (Or.inl hused)
  have hnext : (systemAt file o connection result run (n + 1)).controller = { c' with
      observation := some i.observation, forecastAt := at_, forecastKey := key, values } := by
    rw [systemAt_succ hop, hstep]
    exact congrArg Prod.fst hobserve
  refine ⟨hstep.symm ▸ congrArg Prod.snd hobserve, ?_⟩
  have hplain : (∀ v ∈ c'.values, Plain v) →
      ∀ v ∈ (systemAt file o connection result run (n + 1)).controller.values, Plain v := by
    rw [hnext]
    intro hold v hv
    obtain heq | ⟨v', heq, hv'⟩ := hvalues
    · exact hold v (heq ▸ hv)
    · obtain rfl := Option.some.inj (heq.symm.trans hv)
      exact hv'
  have hrep : ∀ rs', c'.Rep rs' →
      (systemAt file o connection result run (n + 1)).controller.Rep rs' := by
    intro rs' hrep
    rw [hnext]
    exact ⟨hrep.run, hrep.collector, hrep.model⟩
  have hmodel : (systemAt file o connection result run (n + 1)).controller.model = c'.model := by
    rw [hnext]
  have hobservation : (systemAt file o connection result run (n + 1)).controller.observation =
      some i.observation := by
    rw [hnext]
  have hnoted : ((systemAt file o connection result run n).controller.noted i).Rep rs :=
    ⟨h.rep.run, h.rep.collector, h.rep.model⟩
  cases hcase with
  | unhealthy hsick =>
    refine ⟨⟨[], gathers_nil (hrep _ hnoted.reset) (hplain h.values)⟩, Or.inl ?_⟩
    rw [hmodel]
    rfl
  | again hhealthy hold =>
    refine ⟨⟨rs, hrep _ hnoted, hplain h.values, fun hne => ?_⟩, Or.inl ?_⟩
    · obtain ⟨m, epoch, sequence, hgathered, hlast⟩ := h.gathered hne
      have hepoch : i.view.snapshot.epoch = epoch :=
        congrArg Prod.fst (Option.some.inj (hold.symm.trans hlast))
      rw [PredictionController.noted_healthy] at hhealthy
      refine ⟨m, epoch, i.view.snapshot.statusSequence,
        .again hgathered hop hused hhealthy hold hepoch, ?_⟩
      rw [hobservation, PredictionInput.observation, hepoch]
    · rw [hmodel]
      rfl
  | collected collector rs' hhealthy hnew hcollector houtdoor hobserved =>
    rw [PredictionController.noted_healthy] at hhealthy
    rw [PredictionController.noted_collected] at hobserved
    obtain ⟨hgathered, -⟩ := h.observed hop hused hhealthy hnew hobserved
    refine ⟨⟨rs', hrep _ (hnoted.collect hcollector houtdoor), hplain h.values, fun hne => ?_⟩,
      Or.inl ?_⟩
    · obtain ⟨m, hgathered⟩ := hgathered.resolve_left hne
      exact ⟨m, _, _, hgathered, hobservation⟩
    · rw [hmodel]
      rfl
  | finished collector rs' segment hhealthy hnew hcollector houtdoor hobserved =>
    rw [PredictionController.noted_healthy] at hhealthy
    rw [PredictionController.noted_collected] at hobserved
    obtain ⟨-, hsegment⟩ := h.observed hop hused hhealthy hnew hobserved
    obtain ⟨rfl, hclean⟩ := hsegment segment rfl
    have hkept := hnoted.collect hcollector houtdoor
    refine ⟨⟨[], gathers_nil (hrep _ (hkept.learn segment)) (hplain ?_)⟩, ?_⟩
    · rw [PredictionController.learn_shows]
      exact h.values
    · obtain hl | ⟨hok, hl⟩ := PredictionController.learn_case
        ({ (systemAt file o connection result run n).controller.noted i with collector } :
          PredictionController) segment
      · left
        rw [hmodel, hl]
        rfl
      · right
        refine ⟨segment, hclean, hok, ?_⟩
        rw [hmodel, hl]
        rfl

theorem Gathers.quiet (h : Gathers file o connection result run n rs) {op : PredictionOp}
    (hop : run[n]? = some op) (hquiet : (systemAt file o connection result run n).Quiet op) :
    Gathers file o connection result run (n + 1) rs := by
  have hsame := step_quiet hquiet
  rw [← systemAt_succ hop] at hsame
  refine ⟨hsame.rep h.rep, hsame.values ▸ h.values, fun hne => ?_⟩
  obtain ⟨m, epoch, sequence, hgathered, hlast⟩ := h.gathered hne
  exact ⟨m, epoch, sequence, .quiet hgathered hop hquiet, hsame.observation.trans hlast⟩

/-- **One step** of a run. -/
theorem Gathers.step (h : Gathers file o connection result run n rs) {op : PredictionOp}
    (hop : run[n]? = some op) : ∃ rs', Gathers file o connection result run (n + 1) rs' := by
  have hquiet : (systemAt file o connection result run n).Quiet op →
      ∃ rs', Gathers file o connection result run (n + 1) rs' := fun hquiet =>
    ⟨rs, h.quiet hop hquiet⟩
  cases op with
  | observe i =>
    by_cases haborted : (systemAt file o connection result run n).aborted = true
    · exact hquiet haborted
    · exact (h.observe hop (Bool.eq_false_iff.mpr haborted)).2.1
  | configure o' =>
    by_cases haborted : (systemAt file o connection result run n).aborted = true
    · exact hquiet (Or.inl haborted)
    have hstep : (systemAt file o connection result run n).step (.configure o') =
        (systemAt file o connection result run n).act (.configure o') :=
      step_eq (Or.inl (Bool.eq_false_iff.mpr haborted))
    obtain ⟨hsame, -⟩ | ⟨-, hrep, hvalues⟩ := PredictionController.configure_case
      (systemAt file o connection result run n).controller o'
    · exact hquiet (Or.inr hsame)
    · have hnext : systemAt file o connection result run (n + 1) = _ :=
        (systemAt_succ hop).trans (congrArg Prod.fst hstep)
      have hkept : (systemAt file o connection result run (n + 1)).controller.values =
          (systemAt file o connection result run n).controller.values := by
        rw [hnext]
        exact hvalues
      exact ⟨[], gathers_nil (hnext ▸ hrep) (hkept ▸ h.values)⟩
  | restart o' connection' result' =>
    obtain ⟨hrep, hvalues⟩ := start_rep (systemAt file o connection result run n).file o'
      connection' result'
    have hstep : (systemAt file o connection result run n).step (.restart o' connection' result') =
        (systemAt file o connection result run n).act (.restart o' connection' result') :=
      step_eq (Or.inr rfl)
    have hnext : systemAt file o connection result run (n + 1) = _ :=
      (systemAt_succ hop).trans (congrArg Prod.fst hstep)
    have hnone : (systemAt file o connection result run (n + 1)).controller.values = none := by
      rw [hnext]
      exact hvalues
    refine ⟨[], gathers_nil (hnext ▸ hrep) fun v hv => ?_⟩
    rw [hnone] at hv
    cases hv
  | _ => exact hquiet trivial

theorem gathers (file : PredictionFile) (o : PredictionOptions) (connection : Dict String Stored)
    (result : LoadEnd) (run : List PredictionOp) (n : ℕ) (hn : n ≤ run.length) :
    ∃ rs, Gathers file o connection result run n rs := by
  induction n with
  | zero =>
    obtain ⟨hrep, hvalues⟩ := start_rep file o connection result
    have hnone : (systemAt file o connection result run 0).controller.values = none := hvalues
    refine ⟨[], gathers_nil hrep fun v hv => ?_⟩
    rw [hnone] at hv
    cases hv
  | succ n ih =>
    obtain ⟨rs, h⟩ := ih (Nat.le_of_succ_le hn)
    exact h.step (List.getElem?_eq_getElem hn)

/-- **`observe` is clean**, in every run: it raises nothing; what it shows is a rate a spa can heat
    with and at most a week; and the model only learns segments that were fitted to the readings
    of an unbroken stretch of healthy observations of one connection. -/
theorem observe_clean (file : PredictionFile) (o : PredictionOptions)
    (connection : Dict String Stored) (result : LoadEnd) (run : List PredictionOp) (n : ℕ)
    (i : PredictionInput) (hop : run[n]? = some (.observe i)) :
    ((systemAt file o connection result run n).step (.observe i)).2 = .ok () ∧
      (∀ v ∈ (systemAt file o connection result run (n + 1)).controller.values, Plain v) ∧
      Learns file o connection result run n := by
  obtain ⟨rs, h⟩ := gathers file o connection result run n
    (List.getElem?_eq_some_iff.mp hop).1.le
  by_cases haborted : (systemAt file o connection result run n).aborted = true
  · have hstep : (systemAt file o connection result run n).step (.observe i) =
        (systemAt file o connection result run n, .ok ()) := if_pos ⟨haborted, rfl⟩
    refine ⟨congrArg Prod.snd hstep, (h.quiet hop haborted).values, Or.inl ?_⟩
    rw [systemAt_succ hop, hstep]
  · obtain ⟨hok, ⟨rs', h'⟩, hlearns⟩ := h.observe hop (Bool.eq_false_iff.mpr haborted)
    exact ⟨hok, h'.values, hlearns⟩

/-- The `k`-th status of a spa that heats by one degree Fahrenheit in 450 seconds. -/
def sampleInput (k : ℕ) (heatState : HeatState) : PredictionInput where
  view :=
    { snapshot :=
        { state := .ready
          status := some ({ sampleStatus 104 0 true with
            currentTemperature := some (90 + k / 5 : ℕ), heatState }, 90 * k)
          statusSequence := k }
      statusStale := false
      readyMissing := false }
  now := 90 * k
  time := 90 * k

/-- It heats for half an hour. -/
def sampleRun : List PredictionOp :=
  (List.range 21).map (fun k => .observe (sampleInput k .heating)) ++
    [.observe (sampleInput 21 .off)]

theorem observe_clean_sample :
    (systemAt .absent {} .empty .read sampleRun 22).controller.model.samples = 1 ∧
      Learns .absent {} .empty .read sampleRun 21 :=
  ⟨by decide +kernel,
    (observe_clean .absent {} .empty .read sampleRun 21 (sampleInput 21 .off) rfl).2.2⟩

end Runs

end PredictionSystem

end BalboaRs485
