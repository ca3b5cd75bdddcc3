import Mathlib.Algebra.Order.Field.Basic
import Mathlib.Tactic.Linarith
import Mathlib.Tactic.Ring

/-!
# Weighted moments with forgetting

The five sums of a weighted linear regression. A new point is added after all older ones
have been scaled by a factor `γ`, so that they are forgotten.

* `Spread.add`: the sums keep satisfying Cauchy's inequality.
* `Within.add`: a bound on all values bounds their weighted sum.
* `weight_add_le`: with bounded weights and `γ < 1` the total weight stays bounded.
-/

namespace BalboaRs485

/-- The sums `Σ w`, `Σ w x`, `Σ w x²`, `Σ w y` and `Σ w x y`. -/
structure Moments (𝕜 : Type*) where
  weight : 𝕜
  x : 𝕜
  xx : 𝕜
  y : 𝕜
  xy : 𝕜
deriving DecidableEq

namespace Moments

variable {𝕜 : Type*} [Field 𝕜]

/-- The sums of no points. -/
def zero : Moments 𝕜 := ⟨0, 0, 0, 0, 0⟩

/-- One more point, of weight `w`, after the others have been scaled by `γ`. -/
def add (m : Moments 𝕜) (γ w x y : 𝕜) : Moments 𝕜 where
  weight := γ * m.weight + w
  x := γ * m.x + w * x
  xx := γ * m.xx + w * (x * x)
  y := γ * m.y + w * y
  xy := γ * m.xy + w * (x * y)

variable [LinearOrder 𝕜] {m : Moments 𝕜} {γ w x y : 𝕜}

/-- The inequalities between the weight and the moments of `x`. -/
structure Spread (m : Moments 𝕜) : Prop where
  weight : 0 ≤ m.weight
  xx : 0 ≤ m.xx
  cauchy : m.x * m.x ≤ m.weight * m.xx

theorem spread_zero : (zero : Moments 𝕜).Spread := ⟨le_rfl, le_rfl, by simp [zero]⟩

/-- All values lie between `lo` and `hi`, as far as their weighted sum can tell. -/
def Within (m : Moments 𝕜) (lo hi : 𝕜) : Prop := lo * m.weight ≤ m.y ∧ m.y ≤ hi * m.weight

theorem within_zero (lo hi : 𝕜) : (zero : Moments 𝕜).Within lo hi := by simp [Within, zero]

variable [IsStrictOrderedRing 𝕜]

/-- The points are spread around any `x` by at least nothing. -/
theorem Spread.around (h : m.Spread) (x : 𝕜) : 0 ≤ m.weight * (x * x) - 2 * (m.x * x) + m.xx := by
  rcases h.weight.eq_or_lt with hzero | hpos
  · -- without weight there is no first moment either
    have hx : m.x = 0 := by
      have hsquare : m.x * m.x ≤ 0 := by simpa [← hzero] using h.cauchy
      exact mul_self_eq_zero.mp (le_antisymm hsquare (mul_self_nonneg m.x))
    rw [← hzero, hx]
    simpa using h.xx
  · have hscaled : 0 ≤ m.weight * (m.weight * (x * x) - 2 * (m.x * x) + m.xx) := by
      calc (0 : 𝕜) ≤ (m.weight * x - m.x) * (m.weight * x - m.x) + (m.weight * m.xx - m.x * m.x) :=
            add_nonneg (mul_self_nonneg _) (sub_nonneg.mpr h.cauchy)
        _ = m.weight * (m.weight * (x * x) - 2 * (m.x * x) + m.xx) := by ring
    exact nonneg_of_mul_nonneg_right hscaled hpos

/-- **Cauchy's inequality is kept** when a point is added. -/
theorem Spread.add (h : m.Spread) (hγ : 0 ≤ γ) (hw : 0 ≤ w) (x y : 𝕜) : (m.add γ w x y).Spread where
  weight := add_nonneg (mul_nonneg hγ h.weight) hw
  xx := add_nonneg (mul_nonneg hγ h.xx) (mul_nonneg hw (mul_self_nonneg x))
  cauchy := by
    have hold : 0 ≤ γ * γ * (m.weight * m.xx - m.x * m.x) :=
      mul_nonneg (mul_self_nonneg γ) (sub_nonneg.mpr h.cauchy)
    have hmixed : 0 ≤ γ * w * (m.weight * (x * x) - 2 * (m.x * x) + m.xx) :=
      mul_nonneg (mul_nonneg hγ hw) (h.around x)
    have hsplit : (m.add γ w x y).weight * (m.add γ w x y).xx -
        (m.add γ w x y).x * (m.add γ w x y).x =
          γ * γ * (m.weight * m.xx - m.x * m.x) +
            γ * w * (m.weight * (x * x) - 2 * (m.x * x) + m.xx) := by
      simp only [Moments.add]
      ring
    rw [← sub_nonneg, hsplit]
    exact add_nonneg hold hmixed

theorem Within.add {lo hi : 𝕜} (h : m.Within lo hi) (hγ : 0 ≤ γ) (hw : 0 ≤ w) (hlo : lo ≤ y)
    (hhi : y ≤ hi) (x : 𝕜) : (m.add γ w x y).Within lo hi := by
  constructor
  · calc lo * (γ * m.weight + w) = γ * (lo * m.weight) + w * lo := by ring
      _ ≤ γ * m.y + w * y :=
          add_le_add (mul_le_mul_of_nonneg_left h.1 hγ) (mul_le_mul_of_nonneg_left hlo hw)
  · calc γ * m.y + w * y ≤ γ * (hi * m.weight) + w * hi :=
          add_le_add (mul_le_mul_of_nonneg_left h.2 hγ) (mul_le_mul_of_nonneg_left hhi hw)
      _ = hi * (γ * m.weight + w) := by ring

/-- **The weight stays bounded** by that of the geometric series. -/
theorem weight_add_le {b : 𝕜} (hγ : 0 ≤ γ) (hγ1 : γ ≤ 1) (h : (1 - γ) * m.weight ≤ b) (hw : w ≤ b)
    (x y : 𝕜) : (1 - γ) * (m.add γ w x y).weight ≤ b := by
  calc (1 - γ) * (γ * m.weight + w) = γ * ((1 - γ) * m.weight) + (1 - γ) * w := by ring
    _ ≤ γ * b + (1 - γ) * b :=
        add_le_add (mul_le_mul_of_nonneg_left h hγ)
          (mul_le_mul_of_nonneg_left hw (sub_nonneg.mpr hγ1))
    _ = b := by ring

end Moments

end BalboaRs485
