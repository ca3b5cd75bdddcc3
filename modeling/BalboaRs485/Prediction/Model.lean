import BalboaRs485.Lib.Moments
import BalboaRs485.Session.Record
import Mathlib.Data.Rat.Floor

/-!
# The heating model

Model of `HeatingModel` in `prediction.py`: a regression of the heating rate on the water
temperature, learned from one segment after the other, and its record. A segment is a
record that passed its check. Numbers are rational; Python computes them in floating point.

* `update_case`: a segment that is refused leaves the model; one that is accepted adds a
  point to the sums.
* `slope_mem`: the slope is clamped.
-/

namespace BalboaRs485

/-- The `ValueError`s of the module. -/
inductive ModelError where
  /-- "Expected a finite number". -/
  | finite
  /-- "Heating segments require 30..90 minutes". -/
  | duration
  /-- "Invalid heating progression". -/
  | progression
  /-- "Invalid mean water temperature". -/
  | meanWater
  /-- "Invalid outdoor temperature". -/
  | meanOutdoor
  /-- "Fallback rate requires 0.1..8 C/hour". -/
  | fallback
  /-- "Water temperature outside prediction range". -/
  | water
  /-- "Target outside prediction range". -/
  | target
  /-- "Segment feature does not match model". -/
  | mismatch
  /-- "Overlapping or out-of-order training segment". -/
  | overlapping
  /-- "Invalid model record version/shape". -/
  | shape
  /-- "Invalid model feature/sample count". -/
  | samples
  /-- "Invalid model statistics". -/
  | statistics
  /-- "Invalid learned statistics". -/
  | learned
  /-- "Impossible regression statistics". -/
  | impossible
  /-- "Empty model has learned statistics". -/
  | empty
  /-- "Inconsistent model metrics". -/
  | metrics
deriving DecidableEq

/-- The fields of `HeatingSegment`. -/
structure SegmentRecord where
  start : ℚ
  endTime : ℚ
  startWater : ℚ
  endWater : ℚ
  meanWater : ℚ
  meanOutdoor : Option ℚ
  rate : ℚ
deriving DecidableEq

/-- `HeatingSegment.__post_init__` (lines 27–45). -/
def SegmentRecord.check (r : SegmentRecord) : Except ModelError Unit :=
  if r.start < 0 ∨ 253402300799 < r.endTime ∨
      ¬ (1800 ≤ r.endTime - r.start ∧ r.endTime - r.start ≤ 5400) then .error .duration
  else if ¬ (0 ≤ r.startWater ∧ r.startWater < r.endWater ∧ r.endWater ≤ 45) ∨
      ¬ (0 < r.rate ∧ r.rate ≤ 8) then .error .progression
  else if ¬ (r.startWater ≤ r.meanWater ∧ r.meanWater ≤ r.endWater) then .error .meanWater
  else if r.meanOutdoor.any fun outdoor => ¬ (-60 ≤ outdoor ∧ outdoor ≤ 60) then
    .error .meanOutdoor
  else .ok ()

/-- `HeatingSegment`: a record that passed its check. -/
structure HeatingSegment extends SegmentRecord where
  checked : toSegmentRecord.check = .ok ()

namespace HeatingSegment

/-- What a checked segment satisfies, as far as the model depends on it. -/
theorem valid (s : HeatingSegment) : 0 ≤ s.start ∧ s.endTime ≤ 253402300799 ∧
    (1800 ≤ s.endTime - s.start ∧ s.endTime - s.start ≤ 5400) ∧ 0 < s.rate ∧ s.rate ≤ 8 := by
  have h := s.checked
  unfold SegmentRecord.check at h
  split at h
  · cases h
  next htimes =>
  split at h
  · cases h
  next hheating =>
  obtain ⟨hstart, hend, hduration⟩ := by simpa only [not_or] using htimes
  obtain ⟨-, hrate⟩ := not_or.mp hheating
  exact ⟨not_lt.mp hstart, not_lt.mp hend, not_not.mp hduration, not_not.mp hrate⟩

/-- `weight`: its duration in hours (line 218). -/
def weight (s : HeatingSegment) : ℚ := (s.endTime - s.start) / 3600

/-- `x`: the water temperature above the one outside (line 219). -/
def feature (s : HeatingSegment) : ℚ := s.meanWater - s.meanOutdoor.getD 0

theorem weight_pos (s : HeatingSegment) : 0 < s.weight := by
  obtain ⟨-, -, ⟨hlo, -⟩, -⟩ := s.valid
  unfold weight
  linarith

theorem weight_le (s : HeatingSegment) : s.weight ≤ 3 / 2 := by
  obtain ⟨-, -, ⟨-, hhi⟩, -⟩ := s.valid
  unfold weight
  linarith

end HeatingSegment

/-- The attributes of `HeatingModel` (lines 145–152); the fallback rate has been checked. -/
structure HeatingModel where
  outdoor : Bool
  fallback : ℚ
  fallback_valid : 1 / 10 ≤ fallback ∧ fallback ≤ 8
  samples : ℕ := 0
  lastUpdate : Option ℚ := none
  sums : Moments ℚ := .zero
  errors : List ℚ := []

/-- `statistics.median`. -/
def median (l : List ℚ) : Option ℚ :=
  let sorted := l.mergeSort fun a b => a ≤ b
  if l = [] then none
  else if l.length % 2 = 1 then sorted[l.length / 2]?
  else do
    let lower ← sorted[l.length / 2 - 1]?
    let upper ← sorted[l.length / 2]?
    some ((lower + upper) / 2)

namespace HeatingModel

/-- `__init__` (lines 145–152). -/
def init (outdoor : Bool) (fallback : ℚ) : Except ModelError HeatingModel :=
  if h : 1 / 10 ≤ fallback ∧ fallback ≤ 8 then
    .ok { outdoor, fallback, fallback_valid := h }
  else .error .fallback

/-- `coefficients` (lines 154–162). -/
def coefficients (m : HeatingModel) : ℚ × ℚ :=
  let weight := m.sums.weight
  if weight ≤ 0 then (m.fallback, 0)
  else
    let mx := m.sums.x / weight
    let my := m.sums.y / weight
    let variance := max 0 (m.sums.xx / weight - mx * mx)
    let slope :=
      if 1 ≤ variance then max (-1) (min 0 ((m.sums.xy / weight - mx * my) / variance)) else 0
    (my - slope * mx, slope)

/-- `mae` (lines 168–170). -/
def mae (m : HeatingModel) : Option ℚ :=
  if m.errors = [] then none else some ((m.errors.map fun e => |e|).sum / m.errors.length)

/-- `median_error` (lines 172–174). -/
def medianError (m : HeatingModel) : Option ℚ := median (m.errors.map fun e => |e|)

/-- `rate` (lines 176–187). -/
def rate (m : HeatingModel) (water : ℚ) (outdoor : Option ℚ) : Except ModelError (Option ℚ) :=
  if ¬ (0 ≤ water ∧ water ≤ 45) then .error .water
  else if m.outdoor ∧ ¬ outdoor.any fun outdoor => -60 ≤ outdoor ∧ outdoor ≤ 60 then .ok none
  else if m.samples < 5 then .ok (some m.fallback)
  else
    let (intercept, slope) := m.coefficients
    let value := intercept + slope * (if m.outdoor then water - outdoor.getD 0 else water)
    .ok (if 0 < value ∧ value ≤ 8 then some value else none)

/-- The loop of `eta` (lines 199–206), `n` steps before its end. -/
def etaLoop (m : HeatingModel) (water delta : ℚ) (outdoor : Option ℚ) :
    ℕ → ℕ → ℚ → Except ModelError (Option ℚ)
  | 0, _, minutes => .ok (some minutes)
  | n + 1, index, minutes =>
    match m.rate (water + (index + 1 / 2) * delta) outdoor with
    | .error e => .error e
    | .ok none => .ok none
    | .ok (some rate) =>
      let minutes := minutes + 60 * delta / rate
      if 10080 < minutes then .ok none else etaLoop m water delta outdoor n (index + 1) minutes

/-- `eta` (lines 189–207), in minutes. -/
def eta (m : HeatingModel) (water target : ℚ) (outdoor : Option ℚ) :
    Except ModelError (Option ℚ) :=
  if ¬ (0 ≤ target ∧ target ≤ 45) then .error .target
  else
    match m.rate water outdoor with
    | .error e => .error e
    | .ok none => .ok none
    | .ok (some _) =>
      if target ≤ water then .ok (some 0)
      else
        let steps := ⌈(target - water) / (1 / 10)⌉.toNat
        m.etaLoop water ((target - water) / steps) outdoor steps 0 0

/-- `self.errors[-64:]`. -/
def lastErrors (errors : List ℚ) : List ℚ := errors.drop (errors.length - 64)

/-- `update` (lines 209–225). -/
def update (m : HeatingModel) (segment : HeatingSegment) : Except ModelError Unit × HeatingModel :=
  if m.outdoor ≠ segment.meanOutdoor.isSome then (.error .mismatch, m)
  else if m.lastUpdate.any fun last => segment.start < last then (.error .overlapping, m)
  else
    match m.eta segment.startWater segment.endWater segment.meanOutdoor with
    | .error e => (.error e, m)
    | .ok prediction =>
      let errors :=
        match prediction with
        | none => m.errors
        | some minutes =>
          lastErrors (m.errors ++ [minutes - (segment.endTime - segment.start) / 60])
      (.ok (), { m with
        errors
        sums := m.sums.add (24 / 25) segment.weight segment.feature segment.rate
        samples := m.samples + 1
        lastUpdate := some segment.endTime })

/-- A segment is refused, or adds a point to the sums. -/
theorem update_case (m : HeatingModel) (segment : HeatingSegment) :
    (∃ e, m.update segment = (.error e, m)) ∨ ∃ errors : List ℚ,
      (errors = m.errors ∨ ∃ error, errors = lastErrors (m.errors ++ [error])) ∧
        m.update segment = (.ok (), { m with
          errors
          sums := m.sums.add (24 / 25) segment.weight segment.feature segment.rate
          samples := m.samples + 1
          lastUpdate := some segment.endTime }) := by
  unfold update
  split
  · exact Or.inl ⟨_, rfl⟩
  split
  · exact Or.inl ⟨_, rfl⟩
  split
  · exact Or.inl ⟨_, rfl⟩
  next prediction _ =>
    refine Or.inr ⟨_, ?_, rfl⟩
    cases prediction with
    | none => exact Or.inl rfl
    | some minutes => exact Or.inr ⟨_, rfl⟩

theorem slope_mem (m : HeatingModel) : -1 ≤ m.coefficients.2 ∧ m.coefficients.2 ≤ 0 := by
  unfold coefficients
  dsimp only
  split
  · norm_num
  · dsimp only
    split
    · exact ⟨le_max_left _ _, max_le (by norm_num) (min_le_left _ _)⟩
    · norm_num

end HeatingModel

end BalboaRs485
