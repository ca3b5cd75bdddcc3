import Mathlib.Algebra.BigOperators.Group.List.Basic
import Mathlib.Algebra.Order.BigOperators.Group.List
import Mathlib.Algebra.Order.Field.Basic
import Mathlib.Tactic.FieldSimp
import Mathlib.Tactic.Linarith
import Mathlib.Tactic.Positivity
import Mathlib.Tactic.Ring

/-!
# Ordinary least squares

The regression line through a list of points, over an ordered field.

* `spread_eq`, `cross_eq`: the centred sums from the running sums.
* `spread_pos`: two different abscissae spread the points.
* `slope_least`: no line has a smaller sum of squared residuals.
-/

namespace BalboaRs485

namespace Regression

variable {𝕜 : Type*} [Field 𝕜]

/-- The arithmetic mean. -/
def mean (xs : List 𝕜) : 𝕜 := xs.sum / xs.length

/-- `Σ (x - x̄)²` of a list of points. -/
def spread (ps : List (𝕜 × 𝕜)) : 𝕜 :=
  (ps.map fun p => (p.1 - mean (ps.map Prod.fst)) ^ 2).sum

/-- `Σ (x - x̄) (y - ȳ)` of a list of points. -/
def cross (ps : List (𝕜 × 𝕜)) : 𝕜 :=
  (ps.map fun p => (p.1 - mean (ps.map Prod.fst)) * (p.2 - mean (ps.map Prod.snd))).sum

/-- The slope of the regression line. -/
def slope (ps : List (𝕜 × 𝕜)) : 𝕜 := cross ps / spread ps

/-- Where the regression line meets the vertical axis. -/
def intercept (ps : List (𝕜 × 𝕜)) : 𝕜 :=
  mean (ps.map Prod.snd) - slope ps * mean (ps.map Prod.fst)

/-- The sum of squared residuals of the line `y = a + b x`. -/
def residual (ps : List (𝕜 × 𝕜)) (a b : 𝕜) : 𝕜 := (ps.map fun p => (p.2 - (a + b * p.1)) ^ 2).sum

/-! ## Running sums -/

theorem sum_cross (ps : List (𝕜 × 𝕜)) (c d : 𝕜) :
    (ps.map fun p => (p.1 - c) * (p.2 - d)).sum =
      (ps.map fun p => p.1 * p.2).sum - d * (ps.map Prod.fst).sum - c * (ps.map Prod.snd).sum +
        ps.length * (c * d) := by
  induction ps with
  | nil => simp
  | cons p ps ih =>
    simp only [List.map_cons, List.sum_cons, List.length_cons, Nat.cast_add, Nat.cast_one, ih]
    ring

theorem sum_square (ps : List (𝕜 × 𝕜)) (c : 𝕜) :
    (ps.map fun p => (p.1 - c) ^ 2).sum =
      (ps.map fun p => p.1 * p.1).sum - 2 * c * (ps.map Prod.fst).sum + ps.length * (c * c) := by
  induction ps with
  | nil => simp
  | cons p ps ih =>
    simp only [List.map_cons, List.sum_cons, List.length_cons, Nat.cast_add, Nat.cast_one, ih]
    ring

theorem residual_around (ps : List (𝕜 × 𝕜)) (a b c d : 𝕜) :
    residual ps a b =
      (ps.map fun p => (p.2 - d) ^ 2).sum - 2 * b * (ps.map fun p => (p.1 - c) * (p.2 - d)).sum +
        b ^ 2 * (ps.map fun p => (p.1 - c) ^ 2).sum +
        2 * (d - a - b * c) * (((ps.map Prod.snd).sum - ps.length * d) -
          b * ((ps.map Prod.fst).sum - ps.length * c)) +
        ps.length * (d - a - b * c) ^ 2 := by
  unfold residual
  induction ps with
  | nil => simp
  | cons p ps ih =>
    simp only [List.map_cons, List.sum_cons, List.length_cons, Nat.cast_add, Nat.cast_one, ih]
    ring

section CharZero

variable [CharZero 𝕜]

theorem length_ne_zero {α : Type*} {l : List α} (h : l ≠ []) : (l.length : 𝕜) ≠ 0 := by
  rw [Nat.cast_ne_zero]
  exact fun hlen => h (List.length_eq_zero_iff.mp hlen)

theorem length_mul_mean {xs : List 𝕜} (h : xs ≠ []) : (xs.length : 𝕜) * mean xs = xs.sum :=
  mul_div_cancel₀ _ (length_ne_zero h)

theorem spread_eq {ps : List (𝕜 × 𝕜)} (h : ps ≠ []) :
    spread ps = (ps.map fun p => p.1 * p.1).sum -
      (ps.map Prod.fst).sum * (ps.map Prod.fst).sum / ps.length := by
  have hn : (ps.length : 𝕜) ≠ 0 := length_ne_zero h
  rw [spread, sum_square, mean, List.length_map]
  field_simp
  ring

theorem cross_eq {ps : List (𝕜 × 𝕜)} (h : ps ≠ []) :
    cross ps = (ps.map fun p => p.1 * p.2).sum -
      (ps.map Prod.fst).sum * (ps.map Prod.snd).sum / ps.length := by
  have hn : (ps.length : 𝕜) ≠ 0 := length_ne_zero h
  rw [cross, sum_cross, mean, mean, List.length_map, List.length_map]
  field_simp
  ring

/-- The residuals of any line, from those of the centred points. -/
theorem residual_eq {ps : List (𝕜 × 𝕜)} (h : ps ≠ []) (a b : 𝕜) :
    residual ps a b =
      (ps.map fun p => (p.2 - mean (ps.map Prod.snd)) ^ 2).sum - 2 * b * cross ps +
        b ^ 2 * spread ps +
        ps.length * (mean (ps.map Prod.snd) - a - b * mean (ps.map Prod.fst)) ^ 2 := by
  have hx : (ps.map Prod.fst).sum - ps.length * mean (ps.map Prod.fst) = 0 := by
    have hne : ps.map Prod.fst ≠ [] := by simpa using h
    rw [← length_mul_mean hne, List.length_map, sub_self]
  have hy : (ps.map Prod.snd).sum - ps.length * mean (ps.map Prod.snd) = 0 := by
    have hne : ps.map Prod.snd ≠ [] := by simpa using h
    rw [← length_mul_mean hne, List.length_map, sub_self]
  rw [residual_around ps a b (mean (ps.map Prod.fst)) (mean (ps.map Prod.snd)), hx, hy, cross,
    spread]
  ring

end CharZero

/-! ## Order -/

variable [LinearOrder 𝕜] [IsStrictOrderedRing 𝕜]

/-- A mean lies between the bounds of its values. -/
theorem mean_mem {xs : List 𝕜} {lo hi : 𝕜} (h : xs ≠ []) (hx : ∀ x ∈ xs, lo ≤ x ∧ x ≤ hi) :
    lo ≤ mean xs ∧ mean xs ≤ hi := by
  have hn : (0 : 𝕜) < xs.length := by
    rw [Nat.cast_pos]
    exact List.length_pos_iff.mpr h
  have hlo := List.card_nsmul_le_sum xs lo fun x hm => (hx x hm).1
  have hhi := List.sum_le_card_nsmul xs hi fun x hm => (hx x hm).2
  rw [nsmul_eq_mul] at hlo hhi
  unfold mean
  rw [le_div_iff₀ hn, div_le_iff₀ hn, mul_comm lo, mul_comm hi]
  exact ⟨hlo, hhi⟩

/-- Points with two different abscissae are spread. -/
theorem spread_pos {ps : List (𝕜 × 𝕜)} {p q : 𝕜 × 𝕜} (hp : p ∈ ps) (hq : q ∈ ps)
    (hne : p.1 ≠ q.1) : 0 < spread ps := by
  have hterm : ∀ r ∈ ps, (r.1 - mean (ps.map Prod.fst)) ^ 2 ≤ spread ps := by
    intro r hr
    exact List.single_le_sum (by
      intro y hy
      obtain ⟨z, -, rfl⟩ := List.mem_map.mp hy
      positivity) _ (List.mem_map_of_mem hr)
  have hnonneg : 0 ≤ spread ps := (sq_nonneg _).trans (hterm p hp)
  rcases hnonneg.lt_or_eq with hlt | hzero
  · exact hlt
  · -- Without spread every abscissa is the mean.
    have hmean : ∀ r ∈ ps, r.1 = mean (ps.map Prod.fst) := by
      intro r hr
      have hle := hterm r hr
      rw [← hzero] at hle
      exact sub_eq_zero.mp (pow_eq_zero_iff two_ne_zero |>.mp (le_antisymm hle (sq_nonneg _)))
    exact absurd ((hmean p hp).trans (hmean q hq).symm) hne

/-- **The regression line is the line of least squares.** -/
theorem slope_least {ps : List (𝕜 × 𝕜)} (h : 0 < spread ps) (a b : 𝕜) :
    residual ps (intercept ps) (slope ps) ≤ residual ps a b := by
  have hps : ps ≠ [] := by
    rintro rfl
    simp [spread] at h
  have hcross : cross ps = slope ps * spread ps := (div_mul_cancel₀ _ h.ne').symm
  rw [residual_eq hps, residual_eq hps, hcross]
  have hzero : mean (ps.map Prod.snd) - intercept ps - slope ps * mean (ps.map Prod.fst) = 0 := by
    unfold intercept
    ring
  rw [hzero]
  have hsquare : 0 ≤ spread ps * (b - slope ps) ^ 2 := mul_nonneg h.le (sq_nonneg _)
  have hrest : 0 ≤ (ps.length : 𝕜) *
      (mean (ps.map Prod.snd) - a - b * mean (ps.map Prod.fst)) ^ 2 :=
    mul_nonneg (Nat.cast_nonneg _) (sq_nonneg _)
  linarith [show spread ps * (b - slope ps) ^ 2 =
    b ^ 2 * spread ps - 2 * b * (slope ps * spread ps) + slope ps ^ 2 * spread ps by ring]

end Regression

end BalboaRs485
