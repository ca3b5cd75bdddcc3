import Mathlib.Data.List.Basic
import Mathlib.Data.List.TakeDrop
import Mathlib.Order.Basic

/-!
# Deterministic machines with outputs

A `Machine` reads one input per step, changes its state and answers with an
output. A run is a list of inputs; `stateAt` and `outAt` address a run by
position, which is how temporal statements ("between step `i` and step `k` …")
are written in this development.

* `stateAt_invariant`: a property of the initial state that every step keeps
  holds in every state of every run.
* `stateAt_invariant_of`: the same for runs whose inputs meet a condition that
  may depend on everything that happened before.
* `stateAt_invariant_from`: what holds at one position and is kept by every step
  holds at every later position.
* `stateAt_related`: a preorder that every step respects relates any two positions.
* `stateAt_frozen`: what no step changes while a property holds is the same at both.
-/

namespace BalboaRs485

/-- A state machine: `step s i` is the next state and the output. -/
structure Machine (σ ι ο : Type*) where
  init : σ
  step : σ → ι → σ × ο

namespace Machine

variable {σ ι ο : Type*} (M : Machine σ ι ο)

/-- The state after reading the inputs `l` from `s`. -/
def runFrom (s : σ) (l : List ι) : σ := l.foldl (fun s i => (M.step s i).1) s

/-- The state after the first `n` inputs of `l`. -/
def stateAt (l : List ι) (n : ℕ) : σ := M.runFrom M.init (l.take n)

/-- The output of input number `n` of `l` (from `0`), if there is one. -/
def outAt (l : List ι) (n : ℕ) : Option ο := l[n]?.map fun i => (M.step (M.stateAt l n) i).2

theorem runFrom_append (s : σ) (l₁ l₂ : List ι) :
    M.runFrom s (l₁ ++ l₂) = M.runFrom (M.runFrom s l₁) l₂ := by
  simp [runFrom, List.foldl_append]

@[simp] theorem stateAt_zero (l : List ι) : M.stateAt l 0 = M.init := rfl

/-- One more input is one more step. -/
theorem stateAt_succ {l : List ι} {n : ℕ} {i : ι} (h : l[n]? = some i) :
    M.stateAt l (n + 1) = (M.step (M.stateAt l n) i).1 := by
  rw [stateAt, List.take_add_one, h, runFrom_append]
  rfl

/-- Past the end of the list the state stays as it is. -/
theorem stateAt_succ_none {l : List ι} {n : ℕ} (h : l[n]? = none) :
    M.stateAt l (n + 1) = M.stateAt l n := by
  rw [stateAt, List.take_add_one, h]
  simp [stateAt]

theorem outAt_eq {l : List ι} {n : ℕ} {i : ι} (h : l[n]? = some i) :
    M.outAt l n = some (M.step (M.stateAt l n) i).2 := by
  simp [outAt, h]

theorem outAt_eq_some {l : List ι} {n : ℕ} {o : ο} :
    M.outAt l n = some o ↔ ∃ i, l[n]? = some i ∧ (M.step (M.stateAt l n) i).2 = o := by
  simp [outAt]

/-- Step lemma to run lemma, for runs whose inputs satisfy `C` at their position. -/
theorem stateAt_invariant_of {P : σ → Prop} (l : List ι) (C : ℕ → ι → Prop)
    (hC : ∀ n i, l[n]? = some i → C n i) (h0 : P M.init)
    (hstep : ∀ n i, l[n]? = some i → C n i → P (M.stateAt l n) → P (M.step (M.stateAt l n) i).1) :
    ∀ n, P (M.stateAt l n) := by
  intro n
  induction n with
  | zero => exact h0
  | succ n ih =>
    cases h : l[n]? with
    | none => rw [M.stateAt_succ_none h]; exact ih
    | some i => rw [M.stateAt_succ h]; exact hstep n i h (hC n i h) ih

/-- Step lemma to run lemma. -/
theorem stateAt_invariant {P : σ → Prop} (h0 : P M.init)
    (hstep : ∀ s i, P s → P (M.step s i).1) (l : List ι) (n : ℕ) : P (M.stateAt l n) :=
  M.stateAt_invariant_of l (fun _ _ => True) (fun _ _ _ => trivial) h0
    (fun n i _ _ => hstep (M.stateAt l n) i) n

/-- Step lemma to run lemma, for what relates the state to the inputs so far. -/
theorem stateAt_history {P : List ι → σ → Prop} (l : List ι) (h0 : P [] M.init)
    (hstep : ∀ n i, l[n]? = some i → P (l.take n) (M.stateAt l n) →
      P (l.take n ++ [i]) (M.step (M.stateAt l n) i).1) (n : ℕ) :
    P (l.take n) (M.stateAt l n) := by
  induction n with
  | zero => exact h0
  | succ n ih =>
    rw [List.take_add_one]
    cases h : l[n]? with
    | none =>
      rw [M.stateAt_succ_none h]
      simpa using ih
    | some i =>
      rw [M.stateAt_succ h]
      exact hstep n i h ih

/-- What holds at position `m` and is kept by every step holds at every later
    position of the run. -/
theorem stateAt_invariant_from {P : σ → Prop} {l : List ι} {m : ℕ} (h0 : P (M.stateAt l m))
    (hstep : ∀ s i, P s → P (M.step s i).1) : ∀ n, m ≤ n → P (M.stateAt l n) := by
  intro n hn
  induction hn with
  | refl => exact h0
  | @step n _ ih =>
    cases h : l[n]? with
    | none => rw [M.stateAt_succ_none h]; exact ih
    | some i => rw [M.stateAt_succ h]; exact hstep _ i ih

/-- A preorder that the steps from one position to another respect relates the two. -/
theorem stateAt_related {R : σ → σ → Prop} {l : List ι} {m n : ℕ} (hrefl : ∀ s, R s s)
    (htrans : ∀ s t u, R s t → R t u → R s u)
    (hstep : ∀ k i, m ≤ k → k < n → l[k]? = some i → R (M.stateAt l k) (M.stateAt l (k + 1)))
    (hmn : m ≤ n) : R (M.stateAt l m) (M.stateAt l n) := by
  induction hmn with
  | refl => exact hrefl _
  | @step n hmn ih =>
    have hmn : m ≤ n := hmn
    have hbefore := ih fun k i hm hk => hstep k i hm (Nat.lt_succ_of_lt hk)
    cases h : l[n]? with
    | none => rw [M.stateAt_succ_none h]; exact hbefore
    | some i => exact htrans _ _ _ hbefore (hstep n i hmn (Nat.lt_succ_self n) h)

/-- While the steps keep `P` and what `f` reads of a state with `P`, both stay as they are. -/
theorem stateAt_frozen {α : Type*} {P : σ → Prop} {f : σ → α} {l : List ι} {m n : ℕ}
    (hstep : ∀ k i, m ≤ k → k < n → l[k]? = some i → P (M.stateAt l k) →
      P (M.stateAt l (k + 1)) ∧ f (M.stateAt l (k + 1)) = f (M.stateAt l k))
    (hmn : m ≤ n) (h : P (M.stateAt l m)) :
    P (M.stateAt l n) ∧ f (M.stateAt l n) = f (M.stateAt l m) :=
  M.stateAt_related (R := fun s t => P s → P t ∧ f t = f s) (fun _ hs => ⟨hs, rfl⟩)
    (fun _ _ _ hst htu hs => ⟨(htu (hst hs).1).1, (htu (hst hs).1).2.trans (hst hs).2⟩)
    hstep hmn h

end Machine

end BalboaRs485
