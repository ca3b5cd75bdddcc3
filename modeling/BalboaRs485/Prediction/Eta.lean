import BalboaRs485.Prediction.Model
import Mathlib.Tactic.FieldSimp

/-!
# The estimated time to the target

What `eta` of `prediction.py` can say. It walks from the water temperature to the target in steps
of at most a tenth of a degree and adds up the time that each step takes at the rate predicted
for its middle. The sum is exact here: floats round a time at a bound to either side of it.

* `rate_linear`: on the temperatures of a spa the rate is one straight line that does not rise,
  or there is none.
* `etaLoop_spec`: the sum lies between that of the fastest and that of the slowest step.
* `eta_heating`: so does the estimate.
* `eta_bounded`: it is never an error, at most a week, and given whenever a week is enough at the
  rate of the target.
-/

namespace BalboaRs485

namespace HeatingModel

variable {m : HeatingModel} {outdoor : Option ℚ} {water target : ℚ}

/-- The temperatures of the water for which a rate is predicted. -/
def InRange (water : ℚ) : Prop := 0 ≤ water ∧ water ≤ 45

theorem InRange.accepted (h : InRange water) : ¬ ¬ (0 ≤ water ∧ water ≤ 45) := not_not.mpr h

/-- A rate is accepted if the spa can heat like that. -/
def acceptable (value : ℚ) : Option ℚ := if 0 < value ∧ value ≤ 8 then some value else none

theorem acceptable_eq_some {value r : ℚ} (h : acceptable value = some r) :
    r = value ∧ 0 < r ∧ r ≤ 8 := by
  unfold acceptable at h
  split at h
  · next hvalue =>
    cases h
    exact ⟨rfl, hvalue⟩
  · cases h

/-- **The rate is a straight line** that does not rise, over all temperatures of the water. -/
theorem rate_linear (m : HeatingModel) (outdoor : Option ℚ) :
    (∀ water, InRange water → m.rate water outdoor = .ok none) ∨
      ∃ base slope : ℚ, slope ≤ 0 ∧ ∀ water, InRange water →
        m.rate water outdoor = .ok (acceptable (base + slope * water)) := by
  by_cases hair : m.outdoor ∧ ¬ outdoor.any fun outdoor => -60 ≤ outdoor ∧ outdoor ≤ 60
  · left
    intro water hwater
    unfold rate
    rw [if_neg hwater.accepted, if_pos hair]
  right
  by_cases hfew : m.samples < 5
  · refine ⟨m.fallback, 0, le_rfl, fun water hwater => ?_⟩
    have hfallback : 0 < m.fallback + 0 * water ∧ m.fallback + 0 * water ≤ 8 := by
      have hvalid := m.fallback_valid
      constructor <;> linarith
    unfold rate
    rw [if_neg hwater.accepted, if_neg hair, if_pos hfew, acceptable, if_pos hfallback]
    simp
  · obtain ⟨-, hslope⟩ := m.slope_mem
    refine ⟨m.coefficients.1 - m.coefficients.2 * (if m.outdoor then outdoor.getD 0 else 0),
      m.coefficients.2, hslope, fun water hwater => ?_⟩
    have hline : m.coefficients.1 +
          m.coefficients.2 * (if m.outdoor then water - outdoor.getD 0 else water) =
        m.coefficients.1 - m.coefficients.2 * (if m.outdoor then outdoor.getD 0 else 0) +
          m.coefficients.2 * water := by
      split <;> ring
    unfold rate
    rw [if_neg hwater.accepted, if_neg hair, if_neg hfew]
    dsimp only
    rw [hline]
    rfl

/-- On the temperatures of a spa a rate is never an error. -/
theorem rate_ok (m : HeatingModel) (outdoor : Option ℚ) (h : InRange water) :
    ∃ rate, m.rate water outdoor = .ok rate ∧ ∀ r ∈ rate, 0 < r ∧ r ≤ 8 := by
  obtain hnone | ⟨base, slope, -, hline⟩ := m.rate_linear outdoor
  · exact ⟨none, hnone water h, nofun⟩
  · exact ⟨_, hline water h, fun r hr => (acceptable_eq_some hr).2⟩

/-- A warmer spa does not heat faster. -/
theorem rate_antitone {water' r r' : ℚ} (hwater : InRange water) (hwater' : InRange water')
    (hle : water ≤ water') (h : m.rate water outdoor = .ok (some r))
    (h' : m.rate water' outdoor = .ok (some r')) : r' ≤ r := by
  obtain hnone | ⟨base, slope, hslope, hline⟩ := m.rate_linear outdoor
  · rw [hnone water hwater] at h
    cases h
  · rw [hline water hwater] at h
    rw [hline water' hwater'] at h'
    obtain ⟨rfl, -⟩ := acceptable_eq_some (Except.ok.inj h)
    obtain ⟨rfl, -⟩ := acceptable_eq_some (Except.ok.inj h')
    have hmul := mul_le_mul_of_nonpos_left hle hslope
    linarith

/-- Between two temperatures with a rate there is one as well. -/
theorem rate_between {water' w first last : ℚ} (hwater : InRange water)
    (hwater' : InRange water') (hle : water ≤ w) (hle' : w ≤ water')
    (h : m.rate water outdoor = .ok (some first)) (h' : m.rate water' outdoor = .ok (some last)) :
    ∃ r, m.rate w outdoor = .ok (some r) ∧ last ≤ r := by
  have hw : InRange w := ⟨hwater.1.trans hle, hle'.trans hwater'.2⟩
  obtain hnone | ⟨base, slope, hslope, hline⟩ := m.rate_linear outdoor
  · rw [hnone water hwater] at h
    cases h
  · rw [hline water hwater] at h
    rw [hline water' hwater'] at h'
    obtain ⟨rfl, -, hfirst⟩ := acceptable_eq_some (Except.ok.inj h)
    obtain ⟨rfl, hlast, -⟩ := acceptable_eq_some (Except.ok.inj h')
    have hmul := mul_le_mul_of_nonpos_left hle hslope
    have hmul' := mul_le_mul_of_nonpos_left hle' hslope
    refine ⟨base + slope * w, ?_, by linarith⟩
    rw [hline w hw, acceptable, if_pos ⟨by linarith, by linarith⟩]

/-! ## The loop -/

/-- The middle of step `i`. -/
def middle (water delta : ℚ) (i : ℕ) : ℚ := water + (i + 1 / 2) * delta

/-- **The sum of the steps**: never an error, at most a week, at least what the steps take at the
    fastest rate; at most what they take at the slowest, and given if that is a week at most. -/
theorem etaLoop_spec {delta first : ℚ} (hdelta : 0 < delta) :
    ∀ (n index : ℕ) (minutes : ℚ), minutes ≤ 10080 →
      (∀ i, index ≤ i → i < index + n → ∃ rate, m.rate (middle water delta i) outdoor = .ok rate ∧
        ∀ r ∈ rate, 0 < r ∧ r ≤ first) →
      ∃ prediction, m.etaLoop water delta outdoor n index minutes = .ok prediction ∧
        (∀ t ∈ prediction, minutes + n * (60 * delta / first) ≤ t ∧ t ≤ 10080) ∧
        ∀ last, 0 < last →
          (∀ i, index ≤ i → i < index + n →
            ∃ r, m.rate (middle water delta i) outdoor = .ok (some r) ∧ last ≤ r) →
          (∀ t ∈ prediction, t ≤ minutes + n * (60 * delta / last)) ∧
            (minutes + n * (60 * delta / last) ≤ 10080 → prediction ≠ none) := by
  intro n
  induction n with
  | zero =>
    intro index minutes hminutes _
    refine ⟨some minutes, rfl, fun t ht => ?_, fun last _ _ => ⟨fun t ht => ?_, fun _ => nofun⟩⟩
    · obtain rfl := Option.some.inj ht
      exact ⟨by simp, hminutes⟩
    · obtain rfl := Option.some.inj ht
      simp
  | succ n ih =>
    intro index minutes hminutes hrates
    obtain ⟨rate, hrate, hbounds⟩ := hrates index le_rfl (by omega)
    have hstep : m.rate (water + ((index : ℚ) + 1 / 2) * delta) outdoor = .ok rate := hrate
    unfold etaLoop
    rw [hstep]
    -- the first step takes `60 * delta / r`
    cases rate with
    | none =>
      refine ⟨none, rfl, nofun, fun last _ hlast => ?_⟩
      obtain ⟨r, hr, -⟩ := hlast index le_rfl (by omega)
      rw [hrate] at hr
      cases hr
    | some r =>
      obtain ⟨hr, hle⟩ := hbounds r rfl
      have hfast : 60 * delta / first ≤ 60 * delta / r :=
        div_le_div_of_nonneg_left (by linarith) hr hle
      dsimp only
      split
      · next hlong =>
        refine ⟨none, rfl, nofun, fun last hpos hlast => ⟨nofun, fun hweek => ?_⟩⟩
        obtain ⟨r', hr', hslowest⟩ := hlast index le_rfl (by omega)
        rw [hrate] at hr'
        cases hr'
        have hslow : 60 * delta / r ≤ 60 * delta / last :=
          div_le_div_of_nonneg_left (by linarith) hpos hslowest
        have hrest : (0 : ℚ) ≤ n * (60 * delta / last) := by positivity
        push_cast at hweek
        linarith
      · next hlong =>
        obtain ⟨prediction, hloop, hlower, hupper⟩ := ih (index + 1) _ (not_lt.mp hlong)
          fun i hi hin => hrates i (by omega) (by omega)
        refine ⟨prediction, hloop, fun t ht => ?_, fun last hpos hlast => ?_⟩
        · obtain ⟨hle, hweek⟩ := hlower t ht
          refine ⟨?_, hweek⟩
          push_cast
          linarith
        · obtain ⟨r', hr', hslowest⟩ := hlast index le_rfl (by omega)
          rw [hrate] at hr'
          cases hr'
          have hslow : 60 * delta / r ≤ 60 * delta / last :=
            div_le_div_of_nonneg_left (by linarith) hpos hslowest
          obtain ⟨hle, hgiven⟩ := hupper last hpos fun i hi hin => hlast i (by omega) (by omega)
          refine ⟨fun t ht => ?_, fun hweek => hgiven ?_⟩
          · have ht := hle t ht
            push_cast
            linarith
          · push_cast at hweek
            linarith

/-- The steps of `eta` are at most a tenth of a degree, and their middles are on the way. -/
theorem middle_mem {steps : ℕ} (hlt : water < target) (hsteps : 0 < steps) {i : ℕ} (hi : i < steps) :
    water ≤ middle water ((target - water) / steps) i ∧
      middle water ((target - water) / steps) i ≤ target := by
  have hpos : (0 : ℚ) < steps := by exact_mod_cast hsteps
  have hi' : (i : ℚ) + 1 ≤ steps := by exact_mod_cast hi
  have hnonneg : (0 : ℚ) ≤ i := Nat.cast_nonneg i
  have hdelta : 0 < (target - water) / steps := div_pos (sub_pos.mpr hlt) hpos
  have hall : (steps : ℚ) * ((target - water) / steps) = target - water := by
    field_simp
  unfold middle
  constructor
  · have hmul : 0 ≤ ((i : ℚ) + 1 / 2) * ((target - water) / steps) := by positivity
    linarith
  · have hmul : ((i : ℚ) + 1 / 2) * ((target - water) / steps) ≤
        steps * ((target - water) / steps) :=
      mul_le_mul_of_nonneg_right (by linarith) hdelta.le
    linarith

/-! ## The estimate -/

/-- A spa that is warm enough is ready. -/
theorem eta_reached {first : ℚ} (htarget : InRange target) (hle : target ≤ water)
    (hrate : m.rate water outdoor = .ok (some first)) :
    m.eta water target outdoor = .ok (some 0) := by
  unfold eta
  rw [if_neg htarget.accepted, hrate]
  dsimp only
  rw [if_pos hle]

theorem eta_none (htarget : InRange target) (hrate : m.rate water outdoor = .ok none) :
    m.eta water target outdoor = .ok none := by
  unfold eta
  rw [if_neg htarget.accepted, hrate]

/-- The estimate of a spa that has to heat lies between the times that the rates at the two ends
    of its way give. -/
theorem eta_heating {first : ℚ} (hwater : InRange water) (htarget : InRange target)
    (hlt : water < target) (hrate : m.rate water outdoor = .ok (some first)) :
    ∃ prediction, m.eta water target outdoor = .ok prediction ∧
      (∀ t ∈ prediction, 60 * (target - water) / first ≤ t ∧ t ≤ 10080) ∧
      ∀ last, m.rate target outdoor = .ok (some last) →
        (∀ t ∈ prediction, t ≤ 60 * (target - water) / last) ∧
        (60 * (target - water) / last ≤ 10080 → prediction ≠ none) := by
  unfold eta
  rw [if_neg htarget.accepted, hrate]
  dsimp only
  rw [if_neg (not_le.mpr hlt)]
  set steps : ℕ := ⌈(target - water) / (1 / 10)⌉.toNat with hsteps_eq
  have hsteps : 0 < steps := by
    have hceil : 0 < ⌈(target - water) / (1 / 10)⌉ :=
      Int.ceil_pos.mpr (div_pos (sub_pos.mpr hlt) (by norm_num))
    omega
  have hpos : (0 : ℚ) < steps := by exact_mod_cast hsteps
  have hdelta : 0 < (target - water) / steps := div_pos (sub_pos.mpr hlt) hpos
  -- all steps together make up the way
  have hall : ∀ r : ℚ, (0 : ℚ) + steps * (60 * ((target - water) / steps) / r) =
      60 * (target - water) / r := by
    intro r
    field_simp
    ring
  have hrange : ∀ i, i < steps → InRange (middle water ((target - water) / steps) i) :=
    fun i hi => ⟨hwater.1.trans (middle_mem hlt hsteps hi).1,
      (middle_mem hlt hsteps hi).2.trans htarget.2⟩
  -- the spa heats fastest at the beginning
  have hpoints : ∀ i, 0 ≤ i → i < 0 + steps →
      ∃ rate, m.rate (middle water ((target - water) / steps) i) outdoor = .ok rate ∧
        ∀ r ∈ rate, 0 < r ∧ r ≤ first := by
    intro i _ hi
    have hi : i < steps := by omega
    obtain ⟨rate, hmiddle, hbounds⟩ := m.rate_ok outdoor (hrange i hi)
    refine ⟨rate, hmiddle, fun r hr => ⟨(hbounds r hr).1, ?_⟩⟩
    rw [Option.mem_def.mp hr] at hmiddle
    exact rate_antitone hwater (hrange i hi) (middle_mem hlt hsteps hi).1 hrate hmiddle
  obtain ⟨prediction, hloop, hlower, hupper⟩ :=
    etaLoop_spec hdelta steps 0 0 (by norm_num) hpoints
  refine ⟨prediction, hloop, fun t ht => hall first ▸ hlower t ht, fun last hlast => ?_⟩
  obtain ⟨rate, hend, hpositive⟩ := m.rate_ok outdoor htarget
  rw [hlast] at hend
  cases hend
  obtain ⟨hgiven, hweek⟩ := hupper last (hpositive last rfl).1 fun i _ hi =>
    rate_between hwater htarget (middle_mem hlt hsteps (by omega)).1
      (middle_mem hlt hsteps (by omega)).2 hrate hlast
  rw [hall last] at hgiven hweek
  exact ⟨hgiven, hweek⟩

/-- On the temperatures of a spa the estimate is no error, and at most a week. -/
theorem eta_ok (m : HeatingModel) (outdoor : Option ℚ) (hwater : InRange water)
    (htarget : InRange target) : ∃ prediction, m.eta water target outdoor = .ok prediction ∧
      ∀ t ∈ prediction, 0 ≤ t ∧ t ≤ 10080 := by
  obtain ⟨rate, hrate, hrates⟩ := m.rate_ok outdoor hwater
  cases rate with
  | none => exact ⟨none, eta_none htarget hrate, nofun⟩
  | some first =>
    by_cases hle : target ≤ water
    · refine ⟨some 0, eta_reached htarget hle hrate, fun t ht => ?_⟩
      obtain rfl := Option.some.inj ht
      norm_num
    · have hlt : water < target := not_le.mp hle
      obtain ⟨prediction, heta, hbounds, -⟩ := eta_heating hwater htarget hlt hrate
      refine ⟨prediction, heta, fun t ht => ⟨?_, (hbounds t ht).2⟩⟩
      have hway : 0 ≤ 60 * (target - water) / first :=
        div_nonneg (by linarith) (hrates first rfl).1.le
      exact hway.trans (hbounds t ht).1

/-- **The estimate is bounded**: on the temperatures of a spa it is never an error and at most a
    week. It is at least the time that the way takes at the rate of its beginning, and at most that
    which it takes at the rate of its end, at which it is given if a week is enough. -/
theorem eta_bounded (m : HeatingModel) (outdoor : Option ℚ) (hwater : InRange water)
    (htarget : InRange target) :
    ∃ prediction, m.eta water target outdoor = .ok prediction ∧
      (m.rate water outdoor = .ok none → prediction = none) ∧
      ∀ first, m.rate water outdoor = .ok (some first) →
        (target ≤ water → prediction = some 0) ∧
        (water < target →
          (∀ t ∈ prediction, 60 * (target - water) / first ≤ t ∧ t ≤ 10080) ∧
          ∀ last, m.rate target outdoor = .ok (some last) →
            (∀ t ∈ prediction, t ≤ 60 * (target - water) / last) ∧
            (60 * (target - water) / last ≤ 10080 → prediction ≠ none)) := by
  obtain ⟨prediction, heta, -⟩ := m.eta_ok outdoor hwater htarget
  refine ⟨prediction, heta, fun hnone => ?_, fun first hrate => ⟨fun hle => ?_, fun hlt => ?_⟩⟩
  · exact Except.ok.inj (heta.symm.trans (eta_none htarget hnone))
  · exact Except.ok.inj (heta.symm.trans (eta_reached htarget hle hrate))
  · obtain ⟨prediction', heta', hbounds⟩ := eta_heating hwater htarget hlt hrate
    obtain rfl := Except.ok.inj (heta.symm.trans heta')
    exact hbounds

/-- A model that has not learned yet heats two degrees in an hour. -/
def newModel : HeatingModel where
  outdoor := false
  fallback := 2
  fallback_valid := by norm_num

theorem eta_bounded_sample : newModel.eta 30 38 none = .ok (some 240) := by
  obtain ⟨prediction, h, -, hrate⟩ := eta_bounded newModel none (by norm_num [InRange] : InRange 30)
    (by norm_num [InRange] : InRange 38)
  obtain ⟨hbounds, hlast⟩ := (hrate 2 (by decide +kernel)).2 (by norm_num)
  obtain ⟨hupper, hgiven⟩ := hlast 2 (by decide +kernel)
  obtain ⟨t, rfl⟩ := Option.ne_none_iff_exists'.mp (hgiven (by norm_num))
  have hle := hupper t rfl
  have hge := (hbounds t rfl).1
  rw [h, show t = 240 by linarith]

end HeatingModel

end BalboaRs485
