import BalboaRs485.Command.Pending

/-!
# A filter write leaves once in an epoch

While the write of a filter record is in flight nothing is handed out, and if its
outcome stays unknown, nothing is until an observation of a later epoch. So the goal
comes back in its own epoch in one way only: an observation has shown the record it
asks for.

* `Occupied`: the write is in flight, or its epoch has become ambiguous.
* `step_occupied`: what one call does to this, in the epoch of the write.
* `Occupied.withheld`: meanwhile nothing is handed out.
-/

namespace BalboaRs485

namespace Engine

variable {cfg : EngineConfig} {s s' : Engine} {id e : ℕ} {desired : Value}

/-- The transaction writes the filter record of the goal `id`, as it was handed out in the
    epoch `e`. -/
structure Writes (pending : Transaction) (id e : ℕ) (desired : Value) : Prop where
  goal : pending.action.intent.id = id
  control : pending.action.intent.control = .filters
  asks : pending.action.intent.desired = desired
  expects : pending.action.expected = desired
  handed : pending.action.epoch = e

instance (pending : Transaction) (id e : ℕ) (desired : Value) :
    Decidable (Writes pending id e desired) :=
  decidable_of_iff
    (pending.action.intent.id = id ∧ pending.action.intent.control = .filters ∧
      pending.action.intent.desired = desired ∧ pending.action.expected = desired ∧
        pending.action.epoch = e)
    ⟨fun ⟨hid, hcontrol, hasks, hexpects, hhanded⟩ => ⟨hid, hcontrol, hasks, hexpects, hhanded⟩,
      fun h => ⟨h.goal, h.control, h.asks, h.expects, h.handed⟩⟩

/-- The write is in flight, or its epoch has become ambiguous. -/
def Occupied (s : Engine) (id e : ℕ) (desired : Value) : Prop :=
  (∃ pending, s.inflight = some pending ∧ Writes pending id e desired) ∨ s.resyncEpoch = some e

instance (s : Engine) (id e : ℕ) (desired : Value) : Decidable (Occupied s id e desired) :=
  decidable_of_iff ((∃ pending ∈ s.inflight, Writes pending id e desired) ∨ s.resyncEpoch = some e)
    .rfl

theorem Occupied.congr (h : Occupied s id e desired) (hi : s'.inflight = s.inflight)
    (hr : s'.resyncEpoch = s.resyncEpoch) : Occupied s' id e desired := by
  unfold Occupied
  rw [hi, hr]
  exact h

/-- An unknown outcome makes the epoch of the write ambiguous: no other epoch can be, since
    neither the transaction nor the ambiguous epoch is ahead of the observation. -/
theorem AmbiguousEnd.occupied {pending : Transaction} (hend : AmbiguousEnd s s' pending)
    (h : Occupied s id e desired) (hep : Epochs s) (hle : ∀ o, s.state = some o → o.epoch ≤ e) :
    s'.resyncEpoch = some e := by
  obtain ⟨o, ho, heq⟩ := hep.inflight pending hend.before
  rw [hend.resyncEpoch]
  rcases h with ⟨pending', hpending', hw⟩ | hr
  · obtain rfl := Option.some.inj (hend.before.symm.trans hpending')
    rw [hw.handed]
  · obtain ⟨o', ho', hle'⟩ := hep.resync e hr
    obtain rfl := Option.some.inj (ho.symm.trans ho')
    have := hle o ho
    rw [heq]
    congr 1
    omega

theorem Ticked.occupied (ht : Ticked s s') (h : Occupied s id e desired) (hep : Epochs s)
    (hle : ∀ o, s.state = some o → o.epoch ≤ e) : Occupied s' id e desired := by
  obtain ⟨-, hcore | ⟨pending, hend⟩⟩ := ht
  · exact h.congr hcore.inflight hcore.resyncEpoch
  · exact Or.inr (hend.occupied h hep hle)

/-- A call does not raise the epoch of the observation, unless it is a later one. -/
theorem step_seen (hle : ∀ o, s.state = some o → o.epoch ≤ e) (op : EngineOp)
    (hop : ∀ o now, op = .observe o now → o.epoch ≤ e) :
    ∀ o, (s.step cfg op).1.state = some o → o.epoch ≤ e := by
  intro o ho
  rcases step_state cfg s op with hs | hs | ⟨o', now, heq, -, hs⟩
  · exact hle o (hs ▸ ho)
  · rw [hs] at ho
    obtain ⟨o', ho', rfl⟩ := Option.map_eq_some_iff.mp ho
    exact hle o' ho'
  · obtain rfl := Option.some.inj (hs.symm.trans ho)
    exact hop o' now heq

/-- **What a call does to an occupied epoch**: it stays occupied, or an observation has shown
    the record. -/
theorem step_occupied (h : Occupied s id e desired) (hep : Epochs s)
    (hle : ∀ o, s.state = some o → o.epoch ≤ e) (op : EngineOp)
    (hop : ∀ o now, op = .observe o now → o.epoch ≤ e) :
    Occupied (s.step cfg op).1 id e desired ∨
      ∃ o now, op = .observe o now ∧ Value.shows (o.value .filters) desired = true := by
  have harrive : ∀ o now, Occupied (s.arrive cfg o now) id e desired := by
    intro o now
    obtain ⟨-, ⟨hsame, -⟩ | ⟨pending, hend⟩⟩ := arrive_core cfg s o now
    · exact h.congr hsame.inflight hsame.resyncEpoch
    · exact Or.inr (hend.occupied h hep hle)
  have hcase := step_case cfg s op
  generalize (s.step cfg op).1 = s' at hcase ⊢
  cases hcase with
  | ticked _ ht => exact Or.inl (ht.occupied h hep hle)
  | requested ht _ _ _ _ _ hinflight _ hresync =>
    exact Or.inl ((ht.occupied h hep hle).congr hinflight hresync)
  | lost _ _ hf => exact Or.inl (h.congr hf.inflight hf.resyncEpoch)
  | lostFlight _ hend => exact Or.inl (Or.inr (hend.occupied h hep hle))
  | sent hfree _ _ _ _ _ hresync =>
    rcases h with ⟨pending, hpending, -⟩ | hr
    · rw [hfree] at hpending
      cases hpending
    · exact Or.inl (Or.inr (hresync.trans hr))
  | @unsettled o now _ _ hsettle =>
    left
    obtain ⟨-, -, hinflight, -⟩ := settled_core hsettle
    refine (harrive o now).congr hinflight ?_
    cases hsettle <;> rfl
  | @settled o now s₁ _ _ hsettle hs' =>
    have hready : (s.arrive cfg o now).resyncEpoch ≠ some e := by
      intro hr
      have := hop o now rfl
      cases hsettle with
      | clear hnone =>
        rw [hnone] at hr
        cases hr
      | released resync _ hres hlt =>
        rw [hres] at hr
        cases hr
        omega
    obtain ⟨pending, hpending, hw⟩ := (harrive o now).resolve_right hready
    obtain ⟨-, -, hinflight, -⟩ := settled_core hsettle
    rw [← hinflight] at hpending
    obtain hsame | ⟨pending', hpending', hcompletes, -⟩ := confirm_core cfg s₁ o now
    · left
      left
      refine ⟨pending, ?_, hw⟩
      rw [hs', (sameCore_verifyLatest _ o).inflight, hsame.inflight]
      exact hpending
    · right
      obtain rfl := Option.some.inj (hpending.symm.trans hpending')
      refine ⟨o, now, rfl, ?_⟩
      have hshows : showsOutcome pending o = true := by
        unfold completes at hcompletes
        simp only [decide_eq_true_eq] at hcompletes
        exact hcompletes.2.2.2.2.2
      unfold showsOutcome pumpOffRetainedLow at hshows
      rw [hw.control, hw.asks, hw.expects] at hshows
      simpa using hshows

/-- **Meanwhile nothing is handed out.** -/
theorem Occupied.withheld (h : Occupied s id e desired) (hep : Epochs s)
    (hle : ∀ o, s.state = some o → o.epoch ≤ e) (now : ℚ) : (s.nextAction cfg now).1 = none := by
  by_contra hne
  obtain ⟨action, haction⟩ := Option.ne_none_iff_exists'.mp hne
  obtain ⟨hresync, hfree, -⟩ := nextAction_some haction
  rcases (ticked_tick cfg s now).occupied h hep hle with ⟨pending, hpending, -⟩ | hr
  · rw [hfree] at hpending
    cases hpending
  · rw [hresync] at hr
    cases hr

/-! ## Sequences of calls -/

theorem Calls.epochs {P : EngineOp → Prop} (h : Calls cfg P s s') (hep : Epochs s) : Epochs s' :=
  h.induct (fun _ op _ hep => step_epochs hep op) hep

/-- Calls that show the engine nothing new do not raise the epoch of the observation. -/
theorem Calls.seen (h : Calls cfg NoObserve s s') (hle : ∀ o, s.state = some o → o.epoch ≤ e) :
    ∀ o, s'.state = some o → o.epoch ≤ e :=
  h.induct (R := fun s => ∀ o, s.state = some o → o.epoch ≤ e)
    (fun _ op hop hle => step_seen hle op fun o now heq => absurd heq (hop o now)) hle

/-- They keep the epoch occupied. -/
theorem Calls.occupied (h : Calls cfg NoObserve s s') (hep : Epochs s)
    (hle : ∀ o, s.state = some o → o.epoch ≤ e) (hocc : Occupied s id e desired) :
    Occupied s' id e desired := by
  refine (h.induct (R := fun s => Epochs s ∧ (∀ o, s.state = some o → o.epoch ≤ e) ∧
    Occupied s id e desired) (fun s op hop ⟨hep, hle, hocc⟩ => ?_) ⟨hep, hle, hocc⟩).2.2
  have hno : ∀ o now, op = .observe o now → o.epoch ≤ e := fun o now heq => absurd heq (hop o now)
  refine ⟨step_epochs hep op, step_seen hle op hno, ?_⟩
  rcases step_occupied hocc hep hle op hno with h | ⟨o, now, heq, -⟩
  · exact h
  · exact absurd heq (hop o now)

end Engine

end BalboaRs485
