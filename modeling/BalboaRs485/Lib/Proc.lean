import Mathlib.Data.List.Basic

/-!
# Procedures with state, outputs and exceptions

A `Proc σ ω ε α` runs on a state, emits outputs in order and returns a value or
raises. An exception keeps the state and the outputs made so far, as in a
language with mutable objects.

`wp m Q E s out` says what holds when `m` is started in `s` after the outputs
`out`: `Q` of the value, the state and all outputs on return, `E` of the
exception, the state and all outputs on a raise. The rules `wp_bind`, `wp_get`, …
compute it along the text of a procedure, and `wp_mono` and `wp_run` connect it
to specifications of callees and to a run. `Keeps` is an invariant of the outputs and the
state, with the rules that carry it along the same text.
-/

namespace BalboaRs485

/-- A procedure: the new state, the outputs, and a value or an exception. -/
def Proc (σ ω ε α : Type) := σ → σ × List ω × Except ε α

namespace Proc

variable {σ ω ε α β : Type}

instance : Monad (Proc σ ω ε) where
  pure a := fun s => (s, [], .ok a)
  bind m f := fun s =>
    match m s with
    | (s, out, .error e) => (s, out, .error e)
    | (s, out, .ok a) =>
      match f a s with
      | (s, out', r) => (s, out ++ out', r)

/-- Read the state. -/
def get : Proc σ ω ε σ := fun s => (s, [], .ok s)

/-- Change the state. -/
def modify (f : σ → σ) : Proc σ ω ε Unit := fun s => (f s, [], .ok ())

/-- Emit an output. -/
def emit (o : ω) : Proc σ ω ε Unit := fun s => (s, [o], .ok ())

/-- Raise an exception. -/
def raise (e : ε) : Proc σ ω ε α := fun s => (s, [], .error e)

/-- Run a procedure on a condition. -/
def when (p : Prop) [Decidable p] (m : Proc σ ω ε Unit) : Proc σ ω ε Unit := if p then m else pure ()

theorem bind_ok {m : Proc σ ω ε β} (f : β → Proc σ ω ε α) {s s' : σ} {out : List ω} {b : β}
    (h : m s = (s', out, .ok b)) :
    (m >>= f) s = ((f b s').1, out ++ (f b s').2.1, (f b s').2.2) := by
  simp only [bind, h]

theorem bind_error {m : Proc σ ω ε β} (f : β → Proc σ ω ε α) {s s' : σ} {out : List ω} {e : ε}
    (h : m s = (s', out, .error e)) : (m >>= f) s = (s', out, .error e) := by
  simp only [bind, h]

/-! ## Weakest preconditions -/

/-- Started in `s` after `out`, the procedure returns with `Q` or raises with `E`. -/
def wp (m : Proc σ ω ε α) (Q : α → σ → List ω → Prop) (E : ε → σ → List ω → Prop)
    (s : σ) (out : List ω) : Prop :=
  match m s with
  | (s, out', .ok a) => Q a s (out ++ out')
  | (s, out', .error e) => E e s (out ++ out')

variable {Q Q' : α → σ → List ω → Prop} {E E' : ε → σ → List ω → Prop} {s : σ} {out : List ω}

@[simp] theorem wp_pure (a : α) : wp (pure a) Q E s out ↔ Q a s out := by
  simp [wp, pure]

theorem wp_bind (m : Proc σ ω ε β) (f : β → Proc σ ω ε α) :
    wp (m >>= f) Q E s out ↔ wp m (fun b => wp (f b) Q E) E s out := by
  simp only [wp, bind]
  rcases m s with ⟨s', out', e | b⟩
  · exact Iff.rfl
  · rcases hf : f b s' with ⟨s'', out'', e | a⟩ <;> simp [hf, List.append_assoc]

@[simp] theorem wp_get {Q : σ → σ → List ω → Prop} : wp get Q E s out ↔ Q s s out := by
  simp [wp, get]

@[simp] theorem wp_modify {Q : Unit → σ → List ω → Prop} (f : σ → σ) :
    wp (modify f) Q E s out ↔ Q () (f s) out := by
  simp [wp, modify]

@[simp] theorem wp_emit {Q : Unit → σ → List ω → Prop} (o : ω) :
    wp (emit o) Q E s out ↔ Q () s (out ++ [o]) := by
  simp [wp, emit]

@[simp] theorem wp_raise (e : ε) : wp (raise e) Q E s out ↔ E e s out := by
  simp [wp, raise]

/-- The specification of a callee is used by weakening it. -/
theorem wp_mono {m : Proc σ ω ε α} (h : wp m Q E s out)
    (hQ : ∀ a s' out', Q a s' out' → Q' a s' out') (hE : ∀ e s' out', E e s' out' → E' e s' out') :
    wp m Q' E' s out := by
  unfold wp at h ⊢
  rcases hm : m s with ⟨s', out', e | a⟩ <;> rw [hm] at h
  · exact hE _ _ _ h
  · exact hQ _ _ _ h

/-- A conditional is decided in the state where it stands. -/
theorem wp_ite {p : Prop} [Decidable p] {m m' : Proc σ ω ε α}
    (ht : p → wp m Q E s out) (hf : ¬ p → wp m' Q E s out) :
    wp (if p then m else m') Q E s out := by
  split
  · exact ht ‹p›
  · exact hf ‹¬ p›

theorem wp_when {Q : Unit → σ → List ω → Prop} {p : Prop} [Decidable p] {m : Proc σ ω ε Unit}
    (ht : p → wp m Q E s out) (hf : ¬ p → Q () s out) : wp (when p m) Q E s out :=
  wp_ite ht fun hp => (wp_pure ()).mpr (hf hp)

/-- From a specification to a run that starts without outputs. -/
theorem wp_run {m : Proc σ ω ε α} (h : wp m Q E s []) :
    match m s with
    | (s', out', .ok a) => Q a s' out'
    | (s', out', .error e) => E e s' out' := by
  unfold wp at h
  rcases hm : m s with ⟨s', out', e | a⟩ <;>
    · rw [hm] at h
      exact h

/-! ## Invariants -/

/-- However it ends, `m` keeps `I` of all outputs and the state, and it raises no exceptions but
    those that satisfy `F`. -/
def Keeps (I : List ω → σ → Prop) (F : ε → Prop) (m : Proc σ ω ε α) : Prop :=
  ∀ s out, I out s → wp m (fun _ s out => I out s) (fun e s out => F e ∧ I out s) s out

variable {I : List ω → σ → Prop} {F : ε → Prop}

theorem keeps_pure (a : α) : Keeps I F (pure a : Proc σ ω ε α) := fun _ _ h => (wp_pure a).mpr h

theorem keeps_get : Keeps I F (get : Proc σ ω ε σ) := fun _ _ h => wp_get.mpr h

theorem keeps_modify {f : σ → σ} (hf : ∀ s out, I out s → I out (f s)) :
    Keeps I F (modify f : Proc σ ω ε Unit) :=
  fun s out h => (wp_modify f).mpr (hf s out h)

theorem keeps_emit {o : ω} (ho : ∀ s out, I out s → I (out ++ [o]) s) :
    Keeps I F (emit o : Proc σ ω ε Unit) :=
  fun s out h => (wp_emit o).mpr (ho s out h)

theorem keeps_raise {e : ε} (he : F e) : Keeps I F (raise e : Proc σ ω ε α) :=
  fun _ _ h => (wp_raise e).mpr ⟨he, h⟩

theorem Keeps.bind {m : Proc σ ω ε β} {f : β → Proc σ ω ε α} (hm : Keeps I F m)
    (hf : ∀ b, Keeps I F (f b)) : Keeps I F (m >>= f) := by
  intro s out h
  rw [wp_bind]
  exact wp_mono (hm s out h) (fun b s' out' h' => hf b s' out' h') fun _ _ _ h' => h'

theorem Keeps.ite {p : Prop} [Decidable p] {m m' : Proc σ ω ε α} (hm : Keeps I F m)
    (hm' : Keeps I F m') : Keeps I F (if p then m else m') := by
  split
  · exact hm
  · exact hm'

theorem Keeps.when {p : Prop} [Decidable p] {m : Proc σ ω ε Unit} (hm : Keeps I F m) :
    Keeps I F (Proc.when p m) :=
  fun s out h => wp_when (fun _ => hm s out h) fun _ => h

/-- What holds however a procedure ends holds behind its run. -/
theorem wp_outcome {P : List ω → σ → Prop} {m : Proc σ ω ε α}
    (h : wp m (fun _ s out => P out s) (fun e s out => F e ∧ P out s) s out) :
    P (out ++ (m s).2.1) (m s).1 ∧ ∀ e, (m s).2.2 = .error e → F e := by
  unfold wp at h
  rcases hr : m s with ⟨s', out', e | a⟩ <;> rw [hr] at h
  · refine ⟨h.2, fun e' he => ?_⟩
    cases he
    exact h.1
  · exact ⟨h, nofun⟩

/-- What is kept holds behind a run. -/
theorem Keeps.run {m : Proc σ ω ε α} (hm : Keeps I F m) (h : I out s) :
    I (out ++ (m s).2.1) (m s).1 ∧ ∀ e, (m s).2.2 = .error e → F e :=
  wp_outcome (hm s out h)

end Proc

end BalboaRs485
