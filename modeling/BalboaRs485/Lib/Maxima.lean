import Mathlib.Algebra.BigOperators.Group.List.Basic
import Mathlib.Data.List.Basic
import Mathlib.Order.Basic
import Mathlib.Order.Lattice
import Mathlib.Order.Defs.LinearOrder
import Mathlib.Tactic.Abel

/-!
# Left-to-right maxima

The elements of a list that are greater than all before them: what is left of a list of
observations when those that do not advance are ignored.

* `maxima_increasing`: they strictly increase.
* `maxima_cons_lt`, `maxima_cons_le`: the second element advances, or is ignored.
* `sum_consecutive`: the differences of consecutive elements telescope.
-/

namespace BalboaRs485

variable {α β : Type*}

section Maxima

variable [LinearOrder β] {f : α → β}

/-- The elements at which `f` is greater than at all before them. -/
def maxima (f : α → β) : List α → List α
  | [] => []
  | a :: l => a :: (maxima f l).filter fun b => f a < f b

theorem maxima_increasing (l : List α) : (maxima f l).Pairwise fun a b => f a < f b := by
  induction l with
  | nil => exact .nil
  | cons a l ih =>
    refine .cons ?_ (ih.sublist List.filter_sublist)
    intro b hb
    exact of_decide_eq_true (List.mem_filter.mp hb).2

/-- An element that advances begins the rest of the maxima. -/
theorem maxima_cons_lt {a b : α} (h : f a < f b) (l : List α) :
    maxima f (a :: b :: l) = a :: maxima f (b :: l) := by
  rw [maxima]
  congr 1
  rw [List.filter_eq_self]
  intro c hc
  rw [maxima, List.mem_cons] at hc
  rcases hc with rfl | hc
  · exact decide_eq_true h
  · have hbc : f b < f c := of_decide_eq_true (List.mem_filter.mp hc).2
    exact decide_eq_true (h.trans hbc)

/-- An element that does not advance is ignored. -/
theorem maxima_cons_le {a b : α} (h : f b ≤ f a) (l : List α) :
    maxima f (a :: b :: l) = maxima f (a :: l) := by
  rw [maxima, maxima, maxima, List.filter_cons_of_neg (by simpa using h), List.filter_filter]
  congr 1
  refine List.filter_congr fun c _ => ?_
  by_cases hac : f a < f c
  · simp [hac, h.trans_lt hac]
  · simp [hac]

end Maxima

section Consecutive

/-- The pairs of neighbours. -/
def consecutive (l : List α) : List (α × α) := l.zip l.tail

theorem consecutive_cons_cons (a b : α) (l : List α) :
    consecutive (a :: b :: l) = (a, b) :: consecutive (b :: l) := rfl

/-- Neighbours of a chain are related. -/
theorem rel_of_mem_consecutive {R : α → α → Prop} {l : List α} (h : l.IsChain R) {p : α × α}
    (hp : p ∈ consecutive l) : R p.1 p.2 := by
  induction h with
  | nil => cases hp
  | singleton => cases hp
  | cons_cons hr _ ih =>
    rw [consecutive_cons_cons, List.mem_cons] at hp
    rcases hp with rfl | hp
    · exact hr
    · exact ih hp

variable [AddCommGroup β]

/-- From the first element to the last. -/
def span (f : α → β) (l : List α) : β :=
  (l.getLast?.map f).getD 0 - (l.head?.map f).getD 0

theorem sum_consecutive (f : α → β) (l : List α) :
    ((consecutive l).map fun p => f p.2 - f p.1).sum = span f l := by
  induction l with
  | nil => simp [consecutive, span]
  | cons a l ih =>
    cases l with
    | nil => simp [consecutive, span]
    | cons b l =>
      rw [consecutive_cons_cons, List.map_cons, List.sum_cons, ih]
      simp only [span, List.getLast?_cons_cons, List.head?_cons, Option.map_some, Option.getD_some]
      abel

end Consecutive

end BalboaRs485
