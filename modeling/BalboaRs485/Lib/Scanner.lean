import Mathlib.Data.List.Basic

/-!
# Incremental scanners

A scanner looks at the front of a buffer and either waits for more input or
consumes a nonempty piece of it with an event. If its decisions are not changed by
input that arrives later, the events do not depend on how the input was cut.

* `run`: the pieces consumed from a buffer, with their events, and the rest.
* `run_flatten`: the pieces and the rest are the input, in order.
* `run_append`: a run on more input continues the run on less.
* `feeds_eq`: feeding a stream in chunks is one run on the stream.
-/

namespace BalboaRs485

/-- A scanner: `step` is the event at the front of a buffer and the number of items it
    consumes, if there is enough input to tell. -/
structure Scanner (α β : Type*) where
  step : List α → Option (β × ℕ)
  consumes : ∀ {b e k}, step b = some (e, k) → 0 < k ∧ k ≤ b.length
  stable : ∀ {b r} (c), step b = some r → step (b ++ c) = some r

namespace Scanner

variable {α β : Type*} (S : Scanner α β)

/-- At most `n` steps from the buffer `b`. -/
def steps : ℕ → List α → List (List α × β) × List α
  | 0, b => ([], b)
  | n + 1, b =>
    match S.step b with
    | none => ([], b)
    | some (e, k) => ((b.take k, e) :: (steps n (b.drop k)).1, (steps n (b.drop k)).2)

/-- All steps from the buffer `b`; each consumes an item. -/
def run (b : List α) : List (List α × β) × List α := S.steps b.length b

variable {S}

theorem steps_of_none {b : List α} (h : S.step b = none) (n : ℕ) : S.steps n b = ([], b) := by
  cases n with
  | zero => rfl
  | succ n => simp only [steps, h]

theorem steps_eq_run {b : List α} {n : ℕ} (h : b.length ≤ n) : S.steps n b = S.run b := by
  unfold run
  induction n using Nat.strongRecOn generalizing b with
  | _ n ih =>
    cases hs : S.step b with
    | none => rw [steps_of_none hs, steps_of_none hs]
    | some r =>
      obtain ⟨e, k⟩ := r
      obtain ⟨hpos, hle⟩ := S.consumes hs
      obtain ⟨n, rfl⟩ : ∃ m, n = m + 1 := ⟨n - 1, by omega⟩
      obtain ⟨m, hm⟩ : ∃ m, b.length = m + 1 := ⟨b.length - 1, by omega⟩
      have hdrop : (b.drop k).length ≤ m := by
        rw [List.length_drop]
        omega
      rw [hm]
      simp only [steps, hs]
      rw [ih n (by omega) (by omega), ih m (by omega) hdrop]

theorem run_of_none {b : List α} (h : S.step b = none) : S.run b = ([], b) :=
  steps_of_none h _

theorem run_of_some {b : List α} {e : β} {k : ℕ} (h : S.step b = some (e, k)) :
    S.run b = ((b.take k, e) :: (S.run (b.drop k)).1, (S.run (b.drop k)).2) := by
  obtain ⟨hpos, hle⟩ := S.consumes h
  obtain ⟨m, hm⟩ : ∃ m, b.length = m + 1 := ⟨b.length - 1, by omega⟩
  have hdrop : (b.drop k).length ≤ m := by
    rw [List.length_drop]
    omega
  conv_lhs => rw [run, hm]
  simp only [steps, h]
  rw [steps_eq_run hdrop]

/-- Induction over the steps of a run. -/
theorem run_induction {P : List α → Prop} (hwait : ∀ b, S.step b = none → P b)
    (hstep : ∀ b e k, S.step b = some (e, k) → P (b.drop k) → P b) (b : List α) : P b := by
  induction hn : b.length using Nat.strongRecOn generalizing b with
  | _ n ih =>
    cases hs : S.step b with
    | none => exact hwait b hs
    | some r =>
      obtain ⟨e, k⟩ := r
      obtain ⟨hpos, hle⟩ := S.consumes hs
      refine hstep b e k hs (ih (b.drop k).length ?_ _ rfl)
      rw [List.length_drop]
      omega

/-- A run ends where the scanner waits. -/
theorem step_run (b : List α) : S.step (S.run b).2 = none := by
  induction b using run_induction (S := S) with
  | hwait b h => rw [run_of_none h, h]
  | hstep b e k h ih => rw [run_of_some h, ih]

/-- **Nothing is lost or reordered**: the pieces and the rest are the input. -/
theorem run_flatten (b : List α) : ((S.run b).1.map Prod.fst).flatten ++ (S.run b).2 = b := by
  induction b using run_induction (S := S) with
  | hwait b h => rw [run_of_none h]; rfl
  | hstep b e k h ih =>
    rw [run_of_some h, List.map_cons, List.flatten_cons, List.append_assoc, ih,
      List.take_append_drop]

/-- **More input continues the run.** -/
theorem run_append (b c : List α) :
    S.run (b ++ c) =
      ((S.run b).1 ++ (S.run ((S.run b).2 ++ c)).1, (S.run ((S.run b).2 ++ c)).2) := by
  induction b using run_induction (S := S) with
  | hwait b h => rw [run_of_none h]; rfl
  | hstep b e k h ih =>
    have hle := (S.consumes h).2
    rw [run_of_some h, run_of_some (S.stable c h), List.drop_append_of_le_length hle,
      List.take_append_of_le_length hle, ih]
    rfl

/-- Feed the chunks `cs` one by one, with the buffer `r` left from before. -/
def feeds (S : Scanner α β) : List α → List (List α) → List (List α × β) × List α
  | r, [] => ([], r)
  | r, c :: cs =>
    ((S.run (r ++ c)).1 ++ (feeds S (S.run (r ++ c)).2 cs).1, (feeds S (S.run (r ++ c)).2 cs).2)

/-- **The chunks do not matter.** -/
theorem feeds_eq {r : List α} (h : S.step r = none) (cs : List (List α)) :
    S.feeds r cs = S.run (r ++ cs.flatten) := by
  induction cs generalizing r with
  | nil => rw [feeds, List.flatten_nil, List.append_nil, run_of_none h]
  | cons c cs ih =>
    rw [feeds, ih (step_run _), List.flatten_cons, ← List.append_assoc, run_append (r ++ c)]

/-- Every piece of a run is what the scanner consumed at the front of some rest of
    the input. -/
theorem piece_of_mem {b piece : List α} {e : β} (h : (piece, e) ∈ (S.run b).1) :
    ∃ rest, S.step (piece ++ rest) = some (e, piece.length) := by
  induction b using run_induction (S := S) with
  | hwait b hs =>
    rw [run_of_none hs] at h
    cases h
  | hstep b e' k hs ih =>
    rw [run_of_some hs] at h
    rcases List.mem_cons.mp h with heq | h
    · cases heq
      refine ⟨b.drop k, ?_⟩
      rw [List.take_append_drop, hs, List.length_take, Nat.min_eq_left (S.consumes hs).2]
    · exact ih h

end Scanner

end BalboaRs485
