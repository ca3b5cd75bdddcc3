import BalboaRs485.Lib.Machine
import Mathlib.Data.List.Induction
import Mathlib.Order.Monotone.Basic

/-!
# Forward simulation between machines

A machine `M` is simulated by a machine `N` if every step of `M` is matched by a run of `N`,
which may be empty, between related states, and both show the same. `seen` and `shown` say
what is compared of a step.

* `traceFrom_append`, `trace_getElem?`: the inputs of a run with their outputs.
* `Simulates.run`: one run of `N` matches a whole run of `M`, position by position.
-/

namespace BalboaRs485

namespace Machine

variable {σ ι ο σ' ι' ο' α : Type*}

section Trace

variable (M : Machine σ ι ο)

/-- The inputs of a run from `s`, each with its output. -/
def traceFrom : σ → List ι → List (ι × ο)
  | _, [] => []
  | s, i :: l => (i, (M.step s i).2) :: traceFrom (M.step s i).1 l

/-- The inputs of a run with their outputs. -/
def trace (l : List ι) : List (ι × ο) := M.traceFrom M.init l

@[simp] theorem traceFrom_nil (s : σ) : M.traceFrom s [] = [] := rfl

@[simp] theorem traceFrom_cons (s : σ) (i : ι) (l : List ι) :
    M.traceFrom s (i :: l) = (i, (M.step s i).2) :: M.traceFrom (M.step s i).1 l := rfl

@[simp] theorem runFrom_nil (s : σ) : M.runFrom s [] = s := rfl

@[simp] theorem runFrom_cons (s : σ) (i : ι) (l : List ι) :
    M.runFrom s (i :: l) = M.runFrom (M.step s i).1 l := rfl

theorem traceFrom_append (s : σ) (l₁ l₂ : List ι) :
    M.traceFrom s (l₁ ++ l₂) = M.traceFrom s l₁ ++ M.traceFrom (M.runFrom s l₁) l₂ := by
  induction l₁ generalizing s with
  | nil => rfl
  | cons i l₁ ih => simp [ih]

@[simp] theorem length_traceFrom (s : σ) (l : List ι) : (M.traceFrom s l).length = l.length := by
  induction l generalizing s with
  | nil => rfl
  | cons i l ih => simp [ih]

/-- A trace does not depend on where the machine starts. -/
theorem traceFrom_congr {M M' : Machine σ ι ο} (h : M.step = M'.step) (s : σ) (l : List ι) :
    M.traceFrom s l = M'.traceFrom s l := by
  induction l generalizing s with
  | nil => rfl
  | cons i l ih => rw [traceFrom_cons, traceFrom_cons, h, ih]

theorem traceFrom_getElem? (s : σ) (l : List ι) (n : ℕ) :
    (M.traceFrom s l)[n]? = l[n]?.map fun i => (i, (M.step (M.runFrom s (l.take n)) i).2) := by
  induction l generalizing s n with
  | nil => simp
  | cons i l ih =>
    cases n with
    | zero => rfl
    | succ n => simpa using ih (M.step s i).1 n

/-- The trace at a position is the input there and the answer of the state there. -/
theorem trace_getElem? (l : List ι) (n : ℕ) :
    (M.trace l)[n]? = l[n]?.map fun i => (i, (M.step (M.stateAt l n) i).2) :=
  M.traceFrom_getElem? M.init l n

/-- Past the end of the list the run is over. -/
theorem stateAt_of_length_le {l : List ι} {n : ℕ} (h : l.length ≤ n) :
    M.stateAt l n = M.runFrom M.init l := by
  rw [stateAt, List.take_of_length_le h]

theorem stateAt_append_left {l₁ l₂ : List ι} {n : ℕ} (h : n ≤ l₁.length) :
    M.stateAt (l₁ ++ l₂) n = M.stateAt l₁ n := by
  rw [stateAt, stateAt, List.take_append_of_le_length h]

theorem trace_append (l₁ l₂ : List ι) :
    M.trace (l₁ ++ l₂) = M.trace l₁ ++ M.traceFrom (M.runFrom M.init l₁) l₂ :=
  M.traceFrom_append M.init l₁ l₂

end Trace

/-- Every step of `M` is matched by a run of `N` that shows the same. -/
structure Simulates (M : Machine σ ι ο) (N : Machine σ' ι' ο') (R : σ → σ' → Prop)
    (seen : ι × ο → List α) (shown : ι' × ο' → List α) : Prop where
  init : R M.init N.init
  step : ∀ s s' i, R s s' → ∃ l, R (M.step s i).1 (N.runFrom s' l) ∧
    seen (i, (M.step s i).2) = (N.traceFrom s' l).flatMap shown

variable {M : Machine σ ι ο} {N : Machine σ' ι' ο'} {R : σ → σ' → Prop}
  {seen : ι × ο → List α} {shown : ι' × ο' → List α}

/-- The run `l'` of `N` has reached position `cut n` when the run `l` of `M` has reached
    position `n`: the states are related, and the same has been shown. -/
structure Matches (M : Machine σ ι ο) (N : Machine σ' ι' ο') (R : σ → σ' → Prop)
    (seen : ι × ο → List α) (shown : ι' × ο' → List α) (l : List ι) (l' : List ι')
    (cut : ℕ → ℕ) : Prop where
  monotone : Monotone cut
  state : ∀ n, R (M.stateAt l n) (N.stateAt l' (cut n))
  trace : ∀ n, ((M.trace l).take n).flatMap seen = ((N.trace l').take (cut n)).flatMap shown

theorem Matches.mono {R' : σ → σ' → Prop} {l : List ι} {l' : List ι'} {cut : ℕ → ℕ}
    (h : Matches M N R seen shown l l' cut) (hR : ∀ s s', R s s' → R' s s') :
    Matches M N R' seen shown l l' cut :=
  ⟨h.monotone, fun n => hR _ _ (h.state n), h.trace⟩

/-- **A run is matched by one run**, whose positions grow with those of the first. -/
theorem Simulates.run (h : Simulates M N R seen shown) (l : List ι) :
    ∃ l' cut, Matches M N R seen shown l l' cut := by
  suffices hsuff : ∃ l' cut, Matches M N R seen shown l l' cut ∧ (∀ n, cut n ≤ l'.length) ∧
      ∀ n, l.length ≤ n → cut n = l'.length by
    obtain ⟨l', cut, hmatch, -⟩ := hsuff
    exact ⟨l', cut, hmatch⟩
  induction l using List.reverseRecOn with
  | nil =>
    refine ⟨[], fun _ => 0, ⟨fun _ _ _ => le_rfl, fun n => ?_, fun n => ?_⟩, fun _ => le_rfl,
      fun _ _ => rfl⟩
    · rw [M.stateAt_of_length_le (Nat.zero_le n)]
      exact h.init
    · simp [Machine.trace]
  | append_singleton l i ih =>
    obtain ⟨l', cut, hmatch, hle, hend⟩ := ih
    -- the end of the run so far is related, so the next step is matched
    have hR : R (M.runFrom M.init l) (N.runFrom N.init l') := by
      have hlast := hmatch.state l.length
      rwa [hend _ le_rfl, M.stateAt_of_length_le le_rfl, N.stateAt_of_length_le le_rfl] at hlast
    have hshown : (M.trace l).flatMap seen = (N.trace l').flatMap shown := by
      have hlast := hmatch.trace l.length
      rwa [hend _ le_rfl, List.take_of_length_le (by simp [Machine.trace]),
        List.take_of_length_le (by simp [Machine.trace])] at hlast
    obtain ⟨new, hR', hnew⟩ := h.step _ _ i hR
    obtain ⟨cut', hold, hnext⟩ : ∃ cut' : ℕ → ℕ, (∀ n, n ≤ l.length → cut' n = cut n) ∧
        ∀ n, l.length < n → cut' n = (l' ++ new).length :=
      ⟨fun n => if n ≤ l.length then cut n else (l' ++ new).length, fun n hn => if_pos hn,
        fun n hn => if_neg (not_le.mpr hn)⟩
    have hbound : ∀ n, cut' n ≤ (l' ++ new).length := by
      intro n
      rcases le_or_gt n l.length with hn | hn
      · rw [hold n hn, List.length_append]
        exact (hle n).trans (Nat.le_add_right _ _)
      · exact (hnext n hn).le
    refine ⟨l' ++ new, cut', ⟨?_, ?_, ?_⟩, hbound, ?_⟩
    · intro m n hmn
      rcases le_or_gt n l.length with hn | hn
      · rw [hold m (hmn.trans hn), hold n hn]
        exact hmatch.monotone hmn
      · rw [hnext n hn]
        exact hbound m
    · intro n
      rcases le_or_gt n l.length with hn | hn
      · rw [hold n hn, M.stateAt_append_left hn, N.stateAt_append_left (hle n)]
        exact hmatch.state n
      · rw [hnext n hn, M.stateAt_of_length_le (by simpa using Nat.succ_le_of_lt hn),
          N.stateAt_of_length_le le_rfl, runFrom_append, runFrom_append]
        exact hR'
    · intro n
      rw [trace_append, trace_append]
      rcases le_or_gt n l.length with hn | hn
      · rw [hold n hn, List.take_append_of_le_length (by simpa [Machine.trace]),
          List.take_append_of_le_length (by simpa [Machine.trace] using hle n)]
        exact hmatch.trace n
      · rw [hnext n hn, List.take_of_length_le (by simpa [Machine.trace] using Nat.succ_le_of_lt hn),
          List.take_of_length_le (by simp [Machine.trace]), List.flatMap_append,
          List.flatMap_append, hshown, ← hnew]
        simp
    · intro n hn
      rw [List.length_append, List.length_singleton] at hn
      exact hnext n hn

end Machine

end BalboaRs485
