import BalboaRs485.Command.Core

/-!
# What one call can do

`StepCase` lists the ways a call of the engine can change its core: not at all,
by closing the transaction in flight, by a request, a disconnect, a receipt or an
accepted observation. Every invariant of the core is a case analysis of it.

* `step_case`: every call is one of these cases.
* `step_precedes`: the current observation never goes back.
* `step_barrier`: the resynchronization epoch and its candidate outside `observe`.
* `stateAt_epochs`: in every run, the transaction in flight is of the current
  epoch and the ambiguous epoch does not lie ahead of it.
-/

namespace BalboaRs485

namespace Engine

/-- The observation a call makes current: an `observe` that is not stale. -/
def accepted (s : Engine) : EngineOp → Option SpaState
  | .observe o _ => if s.stale o then none else some o
  | _ => none

/-- The core after a `tick`: unchanged, or with the overdue transaction closed. -/
def Ticked (s s' : Engine) : Prop :=
  s'.state = s.state ∧ (SameCore s s' ∨ ∃ pending, AmbiguousEnd s s' pending)

theorem ticked_tick (cfg : EngineConfig) (s : Engine) (now : ℚ) : Ticked s (s.tick cfg now) := by
  obtain ⟨hstate, ⟨h, -⟩ | ⟨pending, h, -⟩⟩ := tick_core cfg s now
  · exact ⟨hstate, Or.inl h⟩
  · exact ⟨hstate, Or.inr ⟨pending, h⟩⟩

theorem Ticked.refl (s : Engine) : Ticked s s := ⟨rfl, Or.inl (.refl s)⟩

theorem Ticked.latest {s s' : Engine} (h : Ticked s s') : s'.latest = s.latest := by
  obtain ⟨-, h | ⟨pending, h⟩⟩ := h <;> exact h.latest

/-- The ways a call can change the core. -/
inductive StepCase (cfg : EngineConfig) (s : Engine) : EngineOp → Engine → Prop where
  /-- No more than a `tick`. -/
  | ticked {op : EngineOp} {s' : Engine} (ha : s.accepted op = none) (h : Ticked s s') :
      StepCase cfg s op s'
  /-- A goal was added. -/
  | requested {r : Request} {s₁ s' : Engine} {item : Intent} (h : Ticked s s₁)
      (hout : (s.request cfg r).1 = .ok item) (hcontrol : item.control = r.control)
      (hid : item.id = s₁.counter + 1) (hstate : s'.state = s₁.state)
      (hlatest : s'.latest = s₁.latest.set r.control item.id)
      (hinflight : s'.inflight = s₁.inflight) (hhistory : s'.history = s₁.history)
      (hresync : s'.resyncEpoch = s₁.resyncEpoch) (hsettling : s'.settling = s₁.settling)
      (hcounter : s'.counter = s₁.counter + 1) : StepCase cfg s (.request r) s'
  /-- The connection was lost with nothing in flight. -/
  | lost {now : ℚ} {s' : Engine} (hstate : s'.state = offline s.state) (h : s.inflight = none)
      (hf : SameFlight s s') : StepCase cfg s (.suspend now) s'
  /-- The connection was lost with a transaction in flight. -/
  | lostFlight {now : ℚ} {s' : Engine} {pending : Transaction} (hstate : s'.state = offline s.state)
      (h : AmbiguousEnd s s' pending) : StepCase cfg s (.suspend now) s'
  /-- A transaction was put in flight. -/
  | sent {action : Action} {at_ : ℚ} {ctsAt : Option ℚ} {s' : Engine} (h : s.inflight = none)
      (hv : ({ s with now := at_ }).receiptValid action at_ ctsAt = true)
      (hstate : s'.state = s.state) (hlatest : s'.latest = s.latest)
      (hinflight : s'.inflight = some { action, ctsAt, sentAt := at_ })
      (hhistory : s'.history = s.history.append { action, ctsAt, sentAt := at_ })
      (hresync : s'.resyncEpoch = s.resyncEpoch) (hsettling : s'.settling = s.settling)
      (hcounter : s'.counter = s.counter) : StepCase cfg s (.sent action at_ ctsAt) s'
  /-- An observation was accepted, but not settled. -/
  | unsettled {o : SpaState} {now : ℚ} {s' : Engine} (hs : s.stale o = false)
      (h : SettleCase cfg (s.arrive cfg o now) o false s') : StepCase cfg s (.observe o now) s'
  /-- An observation was accepted and used. -/
  | settled {o : SpaState} {now : ℚ} {s₁ s' : Engine} (hs : s.stale o = false)
      (h : SettleCase cfg (s.arrive cfg o now) o true s₁)
      (hs' : s' = (s₁.confirm cfg o now).verifyLatest o) : StepCase cfg s (.observe o now) s'

/-- Every call is one of these cases. -/
theorem step_case (cfg : EngineConfig) (s : Engine) (op : EngineOp) :
    StepCase cfg s op (s.step cfg op).1 := by
  have hsame : ∀ {op : EngineOp} {s'}, s.accepted op = none → SameCore s s' →
      StepCase cfg s op s' := fun ha h => .ticked ha ⟨h.state, Or.inl h⟩
  cases op with
  | request r =>
    obtain ⟨e, -, h | h⟩ | ⟨item, ho, hc, hid, h1, h2, h3, h4, h5, h6, h7⟩ := request_core cfg s r
    · exact .ticked rfl (by simp only [step, h]; exact .refl s)
    · exact .ticked rfl (by simp only [step, h]; exact ticked_tick cfg s r.now)
    · exact .requested (ticked_tick cfg s r.now) ho hc hid h1 h2 h3 h4 h5 h6 h7
  | cancel control now => exact hsame rfl (sameCore_cancel s control now)
  | joined id now => exact hsame rfl (sameCore_joined s id now)
  | observe o now =>
    cases hst : s.stale o with
    | true =>
      have heq : s.observe cfg o now = { s with now } := by unfold observe; rw [if_pos hst]
      exact hsame (by simp [accepted, hst]) (by simp only [step, heq]; exact sameCore_now s now)
    | false =>
      have hcase := settle_case cfg (s.arrive cfg o now) o
      simp only [step, observe, hst, Bool.false_eq_true, if_false]
      generalize (s.arrive cfg o now).settle cfg o = result at hcase
      obtain ⟨b, s₁⟩ := result
      cases b with
      | false => exact .unsettled hst hcase
      | true => exact .settled hst hcase rfl
  | nextAction now =>
    have h := nextAction_core cfg s now
    obtain ⟨hstate, ht | ⟨pending, ht⟩⟩ := ticked_tick cfg s now
    · exact hsame rfl (ht.trans h)
    · refine .ticked rfl ⟨h.state.trans hstate, Or.inr ⟨pending, ?_⟩⟩
      exact ht.of_flight (SameCore.refl s).flight h.flight
  | sent action at_ ctsAt =>
    obtain ⟨e, -, h⟩ | ⟨-, hi, hv, h1, h2, h3, h4, h5, h6, h7⟩ := sent_core cfg s action at_ ctsAt
    · exact hsame rfl h
    · exact .sent hi hv h1 h2 h3 h4 h5 h6 h7
  | tick now => exact .ticked rfl (ticked_tick cfg s now)
  | suspend now =>
    obtain ⟨hstate, ⟨hi, h1, h2, h3, h4, h5, h6, h7⟩ | ⟨pending, h⟩⟩ := suspend_core s now
    · exact .lost hstate hi ⟨h1, h2.trans hi.symm, h3, h4, h5, h6, h7⟩
    · exact .lostFlight hstate h

/-! ## Accepted observations -/

/-- `o'` is not older than `o`, in the order `observe` applies. -/
def Precedes (o o' : SpaState) : Prop :=
  o.epoch < o'.epoch ∨
    (o.epoch = o'.epoch ∧ o.sequence ≤ o'.sequence ∧ o.observedAt ≤ o'.observedAt)

theorem Precedes.refl (o : SpaState) : Precedes o o := Or.inr ⟨rfl, le_rfl, le_rfl⟩

theorem Precedes.epoch_le {o o' : SpaState} (h : Precedes o o') : o.epoch ≤ o'.epoch := by
  rcases h with h | h
  · exact h.le
  · exact h.1.le

theorem Precedes.trans {o₁ o₂ o₃ : SpaState} (h : Precedes o₁ o₂) (h' : Precedes o₂ o₃) :
    Precedes o₁ o₃ := by
  rcases h with h | ⟨h1, h2, h3⟩
  · exact Or.inl (h.trans_le h'.epoch_le)
  · rcases h' with h' | ⟨h1', h2', h3'⟩
    · exact Or.inl (h1 ▸ h')
    · exact Or.inr ⟨h1.trans h1', h2.trans h2', h3.trans h3'⟩

/-- The core after an accepted observation, up to its confirmation part. -/
theorem settled_core {cfg : EngineConfig} {s : Engine} {o : SpaState} {b : Bool} {s₁ : Engine}
    (h : SettleCase cfg s o b s₁) :
    s₁.state = s.state ∧ s₁.latest = s.latest ∧ s₁.inflight = s.inflight ∧
      s₁.history = s.history ∧ s₁.counter = s.counter ∧ s₁.actions = s.actions := by
  cases h <;> exact ⟨rfl, rfl, rfl, rfl, rfl, rfl⟩

/-- The confirmation part of `observe` leaves these attributes alone. -/
theorem used_core (cfg : EngineConfig) (s : Engine) (o : SpaState) (now : ℚ) :
    ((s.confirm cfg o now).verifyLatest o).state = s.state ∧
      ((s.confirm cfg o now).verifyLatest o).latest = s.latest ∧
      ((s.confirm cfg o now).verifyLatest o).resyncEpoch = s.resyncEpoch ∧
      ((s.confirm cfg o now).verifyLatest o).settling = s.settling ∧
      ((s.confirm cfg o now).verifyLatest o).counter = s.counter := by
  have hv := sameCore_verifyLatest (s.confirm cfg o now) o
  obtain h | ⟨pending, -, -, -, -, h1, h2, h3, h4, h5, -⟩ := confirm_core cfg s o now
  · have h := h.trans hv
    exact ⟨h.state, h.latest, h.resyncEpoch, h.settling, h.counter⟩
  · exact ⟨hv.state.trans h1, hv.latest.trans h2, hv.resyncEpoch.trans h3, hv.settling.trans h4,
      hv.counter.trans h5⟩

theorem arrive_latest (cfg : EngineConfig) (s : Engine) (o : SpaState) (now : ℚ) :
    (s.arrive cfg o now).latest = s.latest := by
  obtain ⟨-, ⟨h, -⟩ | ⟨pending, h⟩⟩ := arrive_core cfg s o now <;> exact h.latest

theorem accepted_observe {s : Engine} {o o' : SpaState} {now : ℚ} (hs : s.stale o' = false)
    (h : s.accepted (.observe o' now) = some o) : o' = o := by
  simpa [accepted, hs] using h

/-- An accepted observation is the current one after the call. -/
theorem step_accepted (cfg : EngineConfig) {s : Engine} {op : EngineOp} {o : SpaState}
    (h : s.accepted op = some o) :
    (s.step cfg op).1.state = some o ∧ s.stale o = false ∧
      (s.step cfg op).1.latest = s.latest := by
  have hcase := step_case cfg s op
  generalize (s.step cfg op).1 = s' at hcase
  cases hcase with
  | ticked ha => rw [ha] at h; cases h
  | requested | lost | lostFlight | sent => cases h
  | unsettled hs hc =>
    obtain rfl := accepted_observe hs h
    obtain ⟨h1, h2, -⟩ := settled_core hc
    exact ⟨h1.trans (arrive_core cfg s _ _).1, hs, h2.trans (arrive_latest cfg s _ _)⟩
  | @settled o' now s₁ _ hs hc hs' =>
    obtain rfl := accepted_observe hs h
    obtain ⟨h1, h2, -⟩ := settled_core hc
    obtain ⟨h3, h4, -⟩ := used_core cfg s₁ o' now
    subst hs'
    exact ⟨h3.trans (h1.trans (arrive_core cfg s _ _).1), hs,
      h4.trans (h2.trans (arrive_latest cfg s _ _))⟩

/-- Without an accepted observation the current one stays, up to availability. -/
theorem step_not_accepted (cfg : EngineConfig) {s : Engine} {op : EngineOp}
    (h : s.accepted op = none) :
    (s.step cfg op).1.state = s.state ∨ (s.step cfg op).1.state = offline s.state := by
  have hcase := step_case cfg s op
  generalize (s.step cfg op).1 = s' at hcase
  cases hcase with
  | ticked _ ht => exact Or.inl ht.1
  | requested ht _ _ _ hstate => exact Or.inl (hstate.trans ht.1)
  | lost hstate => exact Or.inr hstate
  | lostFlight hstate => exact Or.inr hstate
  | sent _ _ hstate => exact Or.inl hstate
  | unsettled hs | settled hs => simp [accepted, hs] at h

/-- **The current observation never goes back.** -/
theorem step_precedes (cfg : EngineConfig) {s : Engine} (op : EngineOp) {o : SpaState}
    (h : s.state = some o) : ∃ o', (s.step cfg op).1.state = some o' ∧ Precedes o o' := by
  cases ha : s.accepted op with
  | none =>
    rcases step_not_accepted cfg ha with heq | heq
    · exact ⟨o, heq.trans h, .refl o⟩
    · exact ⟨{ o with available := false }, by rw [heq, h]; rfl, Or.inr ⟨rfl, le_rfl, le_rfl⟩⟩
  | some o' =>
    obtain ⟨hstate, hs, -⟩ := step_accepted cfg ha
    obtain ⟨hle, heq⟩ := stale_eq_false hs h
    refine ⟨o', hstate, ?_⟩
    rcases hle.lt_or_eq with hlt | he
    · exact Or.inl hlt
    · exact Or.inr ⟨he, heq he⟩

/-- The controls of the goals keep their order, and new ones come last. -/
theorem step_keys (cfg : EngineConfig) (s : Engine) (op : EngineOp) :
    s.latest.keys <+: (s.step cfg op).1.latest.keys := by
  have hsame : ∀ {s' : Engine}, s'.latest = s.latest → s.latest.keys <+: s'.latest.keys :=
    fun h => h ▸ List.prefix_rfl
  have hcase := step_case cfg s op
  cases ha : s.accepted op with
  | some o => exact hsame (step_accepted cfg ha).2.2
  | none =>
    generalize (s.step cfg op).1 = s' at hcase
    cases hcase with
    | ticked _ ht => exact hsame ht.latest
    | requested ht _ _ _ _ hlatest =>
      rw [hlatest, ← ht.latest]
      exact Dict.keys_prefix_set _ _ _
    | lost _ _ hf => exact hsame hf.latest
    | lostFlight _ h => exact hsame h.latest
    | sent _ _ _ hlatest => exact hsame hlatest
    | unsettled hs | settled hs => simp [accepted, hs] at ha

/-! ## The barrier -/

/-- The barrier is as it was, or was raised for the transaction in flight. -/
def Raised (s s' : Engine) : Prop :=
  (s'.resyncEpoch = s.resyncEpoch ∧ s'.settling = s.settling) ∨
    ∃ pending, s.inflight = some pending ∧ s'.resyncEpoch = some pending.action.epoch ∧
      s'.settling = none

theorem AmbiguousEnd.raised {s s' : Engine} {pending : Transaction} (h : AmbiguousEnd s s' pending) :
    Raised s s' := Or.inr ⟨pending, h.before, h.resyncEpoch, h.settling⟩

theorem Ticked.raised {s s' : Engine} (h : Ticked s s') : Raised s s' := by
  obtain ⟨-, h | ⟨pending, h⟩⟩ := h
  · exact Or.inl ⟨h.resyncEpoch, h.settling⟩
  · exact h.raised

/-- Only an accepted observation lowers the barrier. -/
theorem step_barrier (cfg : EngineConfig) {s : Engine} {op : EngineOp} (h : s.accepted op = none) :
    Raised s (s.step cfg op).1 := by
  have hcase := step_case cfg s op
  generalize (s.step cfg op).1 = s' at hcase
  cases hcase with
  | ticked _ ht => exact ht.raised
  | requested ht _ _ _ _ _ _ _ hresync hsettling =>
    have := ht.raised
    rwa [Raised, ← hresync, ← hsettling] at this
  | lost _ _ hf => exact Or.inl ⟨hf.resyncEpoch, hf.settling⟩
  | lostFlight _ h => exact h.raised
  | sent _ _ _ _ _ _ hresync hsettling => exact Or.inl ⟨hresync, hsettling⟩
  | unsettled hs | settled hs => simp [accepted, hs] at h

theorem arrive_raised (cfg : EngineConfig) (s : Engine) (o : SpaState) (now : ℚ) :
    Raised s (s.arrive cfg o now) := by
  obtain ⟨-, ⟨h, -⟩ | ⟨pending, h⟩⟩ := arrive_core cfg s o now
  · exact Or.inl ⟨h.resyncEpoch, h.settling⟩
  · exact h.raised

/-! ## The transaction in flight -/

/-- The transaction in flight after a call was in flight before, in the same
    epoch, or the call is its receipt. -/
theorem step_inflight {cfg : EngineConfig} {s : Engine} {op : EngineOp} {pending : Transaction}
    (h : (s.step cfg op).1.inflight = some pending) :
    (s.inflight = some pending ∧ ∀ o, s.state = some o →
        ∃ o', (s.step cfg op).1.state = some o' ∧ o'.epoch = o.epoch) ∨
      ∃ action at_ ctsAt, op = .sent action at_ ctsAt ∧
        s.inflight = none ∧ ({ s with now := at_ }).receiptValid action at_ ctsAt = true ∧
        pending = { action, ctsAt, sentAt := at_ } := by
  have hticked : ∀ {s'}, Ticked s s' → s'.inflight = some pending → s.inflight = some pending := by
    rintro s' ⟨-, ht | ⟨q, ht⟩⟩ hp
    · exact ht.inflight.symm.trans hp
    · rw [ht.after] at hp; cases hp
  have hstate : ∀ {s' : Engine}, s'.state = s.state → ∀ o, s.state = some o →
      ∃ o', s'.state = some o' ∧ o'.epoch = o.epoch := fun he o ho => ⟨o, he.trans ho, rfl⟩
  have harrive : ∀ {o now}, (s.arrive cfg o now).inflight = some pending →
      s.inflight = some pending ∧ ∀ old, s.state = some old → old.epoch = o.epoch := by
    intro o now hp
    obtain ⟨-, ⟨ht, hin⟩ | ⟨q, ht⟩⟩ := arrive_core cfg s o now
    · have hs := ht.inflight.symm.trans hp
      exact ⟨hs, (hin pending hs).1⟩
    · rw [ht.after] at hp; cases hp
  have hcase := step_case cfg s op
  generalize (s.step cfg op).1 = s' at hcase h
  cases hcase with
  | ticked _ ht => exact Or.inl ⟨hticked ht h, hstate ht.1⟩
  | requested ht _ _ _ hst _ hinflight =>
    exact Or.inl ⟨hticked ht (hinflight.symm.trans h), hstate (hst.trans ht.1)⟩
  | lost hst _ hf =>
    refine Or.inl ⟨hf.inflight.symm.trans h, fun o ho => ⟨{ o with available := false }, ?_, rfl⟩⟩
    rw [hst, ho]; rfl
  | lostFlight _ he => rw [he.after] at h; cases h
  | @sent action at_ ctsAt _ hi hv _ _ hinflight =>
    exact Or.inr ⟨action, at_, ctsAt, rfl, hi, hv, (Option.some.inj (hinflight.symm.trans h)).symm⟩
  | @unsettled o now _ _ hc =>
    obtain ⟨h1, -, h2, -⟩ := settled_core hc
    obtain ⟨hs, hep⟩ := harrive (h2.symm.trans h)
    exact Or.inl ⟨hs, fun old hold =>
      ⟨o, h1.trans (arrive_core cfg s o now).1, (hep old hold).symm⟩⟩
  | @settled o now s₁ _ _ hc hs' =>
    subst hs'
    obtain ⟨h1, -, h2, -⟩ := settled_core hc
    rw [(sameCore_verifyLatest _ o).inflight] at h
    obtain hsame | ⟨q, -, -, hnone, -⟩ := confirm_core cfg s₁ o now
    · obtain ⟨hs, hep⟩ := harrive (h2.symm.trans (hsame.inflight.symm.trans h))
      exact Or.inl ⟨hs, fun old hold =>
        ⟨o, (used_core cfg s₁ o now).1.trans (h1.trans (arrive_core cfg s o now).1),
          (hep old hold).symm⟩⟩
    · rw [hnone] at h; cases h

/-! ## Epochs -/

/-- The transaction in flight is of the current epoch, and the ambiguous epoch does
    not lie ahead of it. -/
structure Epochs (s : Engine) : Prop where
  inflight : ∀ pending, s.inflight = some pending →
    ∃ o, s.state = some o ∧ pending.action.epoch = o.epoch
  resync : ∀ r, s.resyncEpoch = some r → ∃ o, s.state = some o ∧ r ≤ o.epoch

/-- The epochs after an accepted observation, before it is compared with the
    candidate. -/
theorem Raised.resync_cases {s s' : Engine} (h : Raised s s') {r : ℕ}
    (hr : s'.resyncEpoch = some r) :
    (s.resyncEpoch = some r ∧ s'.settling = s.settling) ∨
      ∃ pending, s.inflight = some pending ∧ pending.action.epoch = r ∧ s'.settling = none := by
  rcases h with ⟨h1, h2⟩ | ⟨pending, h1, h2, h3⟩
  · exact Or.inl ⟨h1.symm.trans hr, h2⟩
  · exact Or.inr ⟨pending, h1, Option.some.inj (h2.symm.trans hr), h3⟩

/-- The ambiguous epoch after a call was ambiguous before, or is the epoch of the
    transaction that was in flight. -/
theorem step_resync {cfg : EngineConfig} {s : Engine} {op : EngineOp} {r : ℕ}
    (h : (s.step cfg op).1.resyncEpoch = some r) :
    s.resyncEpoch = some r ∨ ∃ pending, s.inflight = some pending ∧ pending.action.epoch = r := by
  have hraised : ∀ {s'}, Raised s s' → s'.resyncEpoch = some r → s.resyncEpoch = some r ∨
      ∃ pending, s.inflight = some pending ∧ pending.action.epoch = r := fun hs hr =>
    (hs.resync_cases hr).imp And.left fun ⟨p, h1, h2, _⟩ => ⟨p, h1, h2⟩
  cases ha : s.accepted op with
  | none => exact hraised (step_barrier cfg ha) h
  | some o =>
    have hcase := step_case cfg s op
    generalize (s.step cfg op).1 = s' at hcase h
    have hsettle : ∀ {o now b s₁}, SettleCase cfg (s.arrive cfg o now) o b s₁ →
        s₁.resyncEpoch = some r → (s.arrive cfg o now).resyncEpoch = some r := by
      rintro o now b s₁ hc hr
      cases hc with
      | released => cases hr
      | _ => exact hr
    cases hcase with
    | ticked hn => rw [hn] at ha; cases ha
    | requested | lost | lostFlight | sent => cases ha
    | unsettled _ hc => exact hraised (arrive_raised cfg s _ _) (hsettle hc h)
    | @settled o' now s₁ _ _ hc hs' =>
      subst hs'
      rw [(used_core cfg s₁ o' now).2.2.1] at h
      exact hraised (arrive_raised cfg s _ _) (hsettle hc h)

/-- What `receiptValid` says about the epoch and the goal of an action. -/
theorem receiptValid_iff {s : Engine} {action : Action} {at_ : ℚ} {ctsAt : Option ℚ} :
    s.receiptValid action at_ ctsAt = true ↔
      (∃ o, s.state = some o ∧ o.safeFor action.intent.control = true ∧ action.epoch = o.epoch ∧
          action.sequence = o.sequence) ∧
        s.latest.get? action.intent.control = some action.intent.id ∧
        (∃ current, s.intent action.intent.id = some current ∧ current.stage = .waitingForBus) ∧
        ¬ at_ < action.preparedAt ∧ ¬ ctsAt.any (fun c => at_ < c) = true := by
  simp [receiptValid, Option.any_eq_true]

theorem step_epochs {cfg : EngineConfig} {s : Engine} (h : Epochs s) (op : EngineOp) :
    Epochs (s.step cfg op).1 := by
  constructor
  · intro pending hp
    rcases step_inflight hp with ⟨hp, hep⟩ | ⟨action, at_, ctsAt, rfl, -, hv, rfl⟩
    · obtain ⟨o, ho, heq⟩ := h.inflight pending hp
      obtain ⟨o', ho', heq'⟩ := hep o ho
      exact ⟨o', ho', heq.trans heq'.symm⟩
    · obtain ⟨⟨o, ho, -, heq, -⟩, -⟩ := receiptValid_iff.mp hv
      have hnone : s.accepted (.sent action at_ ctsAt) = none := rfl
      rcases step_not_accepted cfg hnone with hs | hs
      · exact ⟨o, hs.trans ho, heq⟩
      · have ho' : s.state = some o := ho
        exact ⟨{ o with available := false }, by rw [hs, ho']; rfl, heq⟩
  · intro r hr
    have hlater : ∀ o, s.state = some o → r ≤ o.epoch →
        ∃ o, (s.step cfg op).1.state = some o ∧ r ≤ o.epoch := by
      intro o ho hle
      obtain ⟨o', ho', hp⟩ := step_precedes cfg op ho
      exact ⟨o', ho', hle.trans hp.epoch_le⟩
    rcases step_resync hr with hr | ⟨pending, hp, rfl⟩
    · obtain ⟨o, ho, hle⟩ := h.resync r hr
      exact hlater o ho hle
    · obtain ⟨o, ho, heq⟩ := h.inflight pending hp
      exact hlater o ho heq.le

theorem stateAt_epochs (cfg : EngineConfig) (ops : List EngineOp) (n : ℕ) :
    Epochs ((engineMachine cfg).stateAt ops n) :=
  (engineMachine cfg).stateAt_invariant (P := Epochs)
    ⟨fun _ h => (by cases h), fun _ h => (by cases h)⟩
    (fun _ op h => step_epochs h op) ops n

end Engine

end BalboaRs485
