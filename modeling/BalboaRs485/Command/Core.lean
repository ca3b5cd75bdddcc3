import BalboaRs485.Command.Engine

/-!
# What a call changes outside the list of goals

Most lines of the engine call `_update`, which touches the goals and the event
trace only. `SameCore` says that the other attributes are unchanged, and one
lemma for each method states what happens to them:

* `tick_core`: nothing, or the transaction in flight is closed as ambiguous;
* `suspend_core`, `nextAction_core`, `request_core`, `sent_core`: the same for the
  other methods;
* `arrive_core`, `settle_case`, `confirm_core`: the stages of `observe`.

Closing a transaction as ambiguous is `AmbiguousEnd`, the event the
resynchronization barrier starts from.
-/

namespace BalboaRs485

namespace Engine

/-! ## `_update` -/

/-- `s'` differs from `s` in its goals, its event trace and its clock only. -/
structure SameCore (s s' : Engine) : Prop where
  state : s'.state = s.state
  latest : s'.latest = s.latest
  inflight : s'.inflight = s.inflight
  history : s'.history = s.history
  resyncEpoch : s'.resyncEpoch = s.resyncEpoch
  settling : s'.settling = s.settling
  counter : s'.counter = s.counter
  actions : s'.actions = s.actions

theorem SameCore.refl (s : Engine) : SameCore s s := ⟨rfl, rfl, rfl, rfl, rfl, rfl, rfl, rfl⟩

theorem SameCore.trans {s₁ s₂ s₃ : Engine} (h : SameCore s₁ s₂) (h' : SameCore s₂ s₃) :
    SameCore s₁ s₃ :=
  ⟨h'.state.trans h.state, h'.latest.trans h.latest, h'.inflight.trans h.inflight,
    h'.history.trans h.history, h'.resyncEpoch.trans h.resyncEpoch,
    h'.settling.trans h.settling, h'.counter.trans h.counter, h'.actions.trans h.actions⟩

theorem sameCore_now (s : Engine) (now : ℚ) : SameCore s { s with now } :=
  ⟨rfl, rfl, rfl, rfl, rfl, rfl, rfl, rfl⟩

theorem sameCore_record (s : Engine) (item : Intent) (kind : EventKind) :
    SameCore s (s.record item kind) := by
  unfold record
  exact ⟨rfl, rfl, rfl, rfl, rfl, rfl, rfl, rfl⟩

theorem sameCore_store (s : Engine) (id : ℕ) (item : Intent) : SameCore s (s.store id item) := by
  unfold store
  exact ⟨rfl, rfl, rfl, rfl, rfl, rfl, rfl, rfl⟩

theorem sameCore_update (s : Engine) (id : ℕ) (stage : Stage) (reason : Option Reason) :
    SameCore s (s.update id stage reason) := by
  unfold update
  split
  · exact .refl s
  · split
    · exact .refl s
    · exact (sameCore_record _ _ _).trans (sameCore_store _ _ _)

/-- A loop whose body leaves the core alone leaves the core alone. -/
theorem sameCore_foldl {α : Type*} (f : Engine → α → Engine) (hf : ∀ s a, SameCore s (f s a))
    (l : List α) (s : Engine) : SameCore s (l.foldl f s) := by
  induction l generalizing s with
  | nil => exact .refl s
  | cons a l ih => exact (hf s a).trans (ih (f s a))

theorem sameCore_expireDeadlines (s : Engine) (now : ℚ) : SameCore s (s.expireDeadlines now) := by
  apply sameCore_foldl
  intro s item
  split
  · exact sameCore_update _ _ _ _
  · exact .refl s

theorem sameCore_joined (s : Engine) (id : ℕ) (now : ℚ) : SameCore s (s.joined id now) := by
  unfold joined
  split
  · exact .refl s
  · split
    · exact .refl s
    · exact (sameCore_now s now).trans (sameCore_record _ _ _)

theorem sameCore_cancel (s : Engine) (control : Control) (now : Option ℚ) :
    SameCore s (s.cancel control now) := by
  unfold cancel
  dsimp only
  split
  · exact sameCore_now s _
  · split
    · exact (sameCore_now s _).trans (sameCore_update _ _ _ _)
    · exact sameCore_now s _

theorem sameCore_supersede (s : Engine) (id : ℕ) : SameCore s (s.supersede id) := by
  unfold supersede
  split
  · exact .refl s
  · split
    · exact .refl s
    · exact sameCore_update _ _ _ _

theorem sameCore_retire (s : Engine) (control : Control) : SameCore s (s.retire control) := by
  unfold retire
  split
  · exact .refl s
  · next previous _ =>
    have h := sameCore_supersede s previous
    exact ⟨h.state, h.latest, h.inflight, h.history, h.resyncEpoch, h.settling, h.counter,
      h.actions⟩

theorem sameCore_verifyOne (state : SpaState) (s : Engine) (entry : Control × ℕ) :
    SameCore s (verifyOne state s entry) := by
  unfold verifyOne
  split
  · exact .refl s
  · split
    · exact sameCore_update _ _ _ _
    · exact .refl s

theorem sameCore_nextActionLoop (cfg : EngineConfig) (state : SpaState) (now : ℚ)
    (l : List (Control × ℕ)) (s : Engine) :
    SameCore s (nextActionLoop cfg state now l s).2 := by
  induction l generalizing s with
  | nil => exact .refl s
  | cons entry l ih =>
    obtain ⟨control, id⟩ := entry
    unfold nextActionLoop
    split
    · exact ih s
    · split
      · exact ih s
      · split
        · exact ih s
        · exact (sameCore_update _ _ _ _).trans (ih _)
        · exact sameCore_update _ _ _ _

/-! ## The end of a transaction -/

/-- The record a transaction leaves when its outcome stays unknown: completed
    without an observation, for one of the two reasons the source gives. -/
def Ambiguous (pending record : Transaction) : Prop :=
  record.action = pending.action ∧ record.sentAt = pending.sentAt ∧
    record.resultingValue = pending.resultingValue ∧
    ((record.result = .failed ∧ record.reason = some .confirmationTimeout) ∨
      (record.result = .cancelled ∧ record.reason = some .connectionLost))

/-- From `s` to `s'` the transaction in flight ends and its outcome stays
    unknown; the rest of the core is unchanged. -/
structure AmbiguousEnd (s s' : Engine) (pending : Transaction) : Prop where
  before : s.inflight = some pending
  after : s'.inflight = none
  resyncEpoch : s'.resyncEpoch = some pending.action.epoch
  settling : s'.settling = none
  history : ∃ record, Ambiguous pending record ∧ s'.history = s.history.setLast record
  latest : s'.latest = s.latest
  counter : s'.counter = s.counter
  actions : s'.actions = s.actions

theorem closeAmbiguous_core (s : Engine) {pending : Transaction} {result : Stage} {reason : Reason}
    (now : ℚ) (h : s.inflight = some pending)
    (hr : (result = .failed ∧ reason = .confirmationTimeout) ∨
      (result = .cancelled ∧ reason = .connectionLost)) :
    AmbiguousEnd s (s.closeAmbiguous pending result reason now) pending ∧
      (s.closeAmbiguous pending result reason now).state = s.state := by
  set closed : Engine := { s with
    history := s.history.setLast
      { pending with result, completedAt := some now, reason := some reason }
    resyncEpoch := some pending.action.epoch
    settling := none
    inflight := none } with hclosed
  have hcore : SameCore closed (s.closeAmbiguous pending result reason now) := by
    unfold closeAmbiguous
    dsimp only
    split
    · exact .refl _
    · split
      · exact .refl _
      · split <;> exact sameCore_update _ _ _ _
  refine ⟨⟨h, hcore.inflight, hcore.resyncEpoch, hcore.settling, ⟨_, ?_, hcore.history⟩,
    hcore.latest, hcore.counter, hcore.actions⟩, hcore.state⟩
  refine ⟨rfl, rfl, rfl, ?_⟩
  rcases hr with ⟨rfl, rfl⟩ | ⟨rfl, rfl⟩
  · exact Or.inl ⟨rfl, rfl⟩
  · exact Or.inr ⟨rfl, rfl⟩

/-- `tick` either keeps the core, and then no transaction is overdue, or ends the
    overdue transaction as ambiguous. -/
theorem tick_core (cfg : EngineConfig) (s : Engine) (now : ℚ) :
    (s.tick cfg now).state = s.state ∧
      ((SameCore s (s.tick cfg now) ∧ ∀ pending, s.inflight = some pending →
          now - pending.sentAt < cfg.timeoutOf pending.action.intent.control) ∨
        ∃ pending, AmbiguousEnd s (s.tick cfg now) pending ∧
          cfg.timeoutOf pending.action.intent.control ≤ now - pending.sentAt) := by
  have hcore : SameCore s (({ s with now }).expireDeadlines now) :=
    (sameCore_now s now).trans (sameCore_expireDeadlines _ _)
  set e : Engine := ({ s with now }).expireDeadlines now with he
  unfold tick
  dsimp only
  rw [← he]
  split
  · next hnone =>
    refine ⟨hcore.state, Or.inl ⟨hcore, fun pending hp => ?_⟩⟩
    rw [← hcore.inflight, hnone] at hp; cases hp
  · next pending hp =>
    have hp' : s.inflight = some pending := hcore.inflight ▸ hp
    split
    · next hover =>
      obtain ⟨hend, hstate⟩ := closeAmbiguous_core e now hp (Or.inl ⟨rfl, rfl⟩)
      refine ⟨hstate.trans hcore.state, Or.inr ⟨pending, ?_, hover⟩⟩
      exact ⟨hp', hend.after, hend.resyncEpoch, hend.settling, hcore.history ▸ hend.history,
        hend.latest.trans hcore.latest, hend.counter.trans hcore.counter,
        hend.actions.trans hcore.actions⟩
    · next hover =>
      refine ⟨hcore.state, Or.inl ⟨hcore, fun q hq => ?_⟩⟩
      rw [hp'] at hq; cases hq
      exact not_le.mp hover

/-- The state of an engine whose connection is lost. -/
def offline (state : Option SpaState) : Option SpaState :=
  state.map fun (o : SpaState) => { o with available := false }

/-- `suspend` makes the observation unavailable and ends a transaction in flight
    as ambiguous. -/
theorem suspend_core (s : Engine) (now : ℚ) :
    (s.suspend now).state = offline s.state ∧
      ((s.inflight = none ∧ (s.suspend now).latest = s.latest ∧ (s.suspend now).inflight = none ∧
          (s.suspend now).history = s.history ∧ (s.suspend now).resyncEpoch = s.resyncEpoch ∧
          (s.suspend now).settling = s.settling ∧ (s.suspend now).counter = s.counter ∧
          (s.suspend now).actions = s.actions) ∨
        ∃ pending, AmbiguousEnd s (s.suspend now) pending) := by
  unfold suspend
  dsimp only
  split
  · next hnone => exact ⟨rfl, Or.inl ⟨hnone, rfl, hnone, rfl, rfl, rfl, rfl, rfl⟩⟩
  · next pending hp =>
    obtain ⟨hend, hstate⟩ := closeAmbiguous_core
      { s with now := now, state := offline s.state } now hp (Or.inr ⟨rfl, rfl⟩)
    exact ⟨hstate, Or.inr ⟨pending, hp, hend.after, hend.resyncEpoch, hend.settling, hend.history,
      hend.latest, hend.counter, hend.actions⟩⟩

/-! ## Observations -/

theorem stale_eq_false {s : Engine} {o : SpaState} (h : s.stale o = false) {old : SpaState}
    (hold : s.state = some old) :
    old.epoch ≤ o.epoch ∧
      (old.epoch = o.epoch → old.sequence ≤ o.sequence ∧ old.observedAt ≤ o.observedAt) := by
  unfold stale at h
  simp only [hold, Option.any_some, decide_eq_false_iff_not] at h
  push Not at h
  exact ⟨h.1, fun he => h.2 he.symm⟩

/-- Everything of the core but the current observation is unchanged. -/
structure SameFlight (s s' : Engine) : Prop where
  latest : s'.latest = s.latest
  inflight : s'.inflight = s.inflight
  history : s'.history = s.history
  resyncEpoch : s'.resyncEpoch = s.resyncEpoch
  settling : s'.settling = s.settling
  counter : s'.counter = s.counter
  actions : s'.actions = s.actions

theorem SameCore.flight {s s' : Engine} (h : SameCore s s') : SameFlight s s' :=
  ⟨h.latest, h.inflight, h.history, h.resyncEpoch, h.settling, h.counter, h.actions⟩

theorem SameFlight.trans {s₁ s₂ s₃ : Engine} (h : SameFlight s₁ s₂) (h' : SameFlight s₂ s₃) :
    SameFlight s₁ s₃ :=
  ⟨h'.latest.trans h.latest, h'.inflight.trans h.inflight, h'.history.trans h.history,
    h'.resyncEpoch.trans h.resyncEpoch, h'.settling.trans h.settling,
    h'.counter.trans h.counter, h'.actions.trans h.actions⟩

theorem AmbiguousEnd.of_flight {s s₁ s₂ s₃ : Engine} {pending : Transaction}
    (h₁ : SameFlight s s₁) (h : AmbiguousEnd s₁ s₂ pending) (h₂ : SameFlight s₂ s₃) :
    AmbiguousEnd s s₃ pending where
  before := h₁.inflight ▸ h.before
  after := h₂.inflight.trans h.after
  resyncEpoch := h₂.resyncEpoch.trans h.resyncEpoch
  settling := h₂.settling.trans h.settling
  history := by
    obtain ⟨record, hr, heq⟩ := h.history
    exact ⟨record, hr, h₂.history.trans (h₁.history ▸ heq)⟩
  latest := h₂.latest.trans (h.latest.trans h₁.latest)
  counter := h₂.counter.trans (h.counter.trans h₁.counter)
  actions := h₂.actions.trans (h.actions.trans h₁.actions)

/-- An arriving observation keeps the transaction in flight only within its epoch
    and confirmation window; otherwise it ends it as ambiguous. -/
theorem arrive_core (cfg : EngineConfig) (s : Engine) (o : SpaState) (now : ℚ) :
    (s.arrive cfg o now).state = some o ∧
      ((SameFlight s (s.arrive cfg o now) ∧ ∀ pending, s.inflight = some pending →
          (∀ old, s.state = some old → old.epoch = o.epoch) ∧
          now - pending.sentAt < cfg.timeoutOf pending.action.intent.control) ∨
        ∃ pending, AmbiguousEnd s (s.arrive cfg o now) pending) := by
  have hset : ∀ e : Engine, SameFlight e { e with state := some o } := fun e =>
    ⟨rfl, rfl, rfl, rfl, rfl, rfl, rfl⟩
  unfold arrive
  dsimp only
  refine ⟨rfl, ?_⟩
  by_cases hep : s.state.any fun old => decide (old.epoch ≠ o.epoch)
  · rw [if_pos hep]
    obtain ⟨-, ⟨hnone, h1, h2, h3, h4, h5, h6, h7⟩ | ⟨pending, hend⟩⟩ := suspend_core s now
    · have hs : SameFlight s (s.suspend now) := ⟨h1, h2.trans hnone.symm, h3, h4, h5, h6, h7⟩
      obtain ⟨-, ⟨ht, -⟩ | ⟨pending, ht, -⟩⟩ := tick_core cfg (s.suspend now) now
      · exact Or.inl ⟨(hs.trans ht.flight).trans (hset _), fun p hp => by rw [hnone] at hp; cases hp⟩
      · exact absurd (h2.symm.trans ht.before) (by simp)
    · obtain ⟨-, ⟨ht, -⟩ | ⟨pending', ht, -⟩⟩ := tick_core cfg (s.suspend now) now
      · exact Or.inr ⟨pending, hend.of_flight ⟨rfl, rfl, rfl, rfl, rfl, rfl, rfl⟩
          (ht.flight.trans (hset _))⟩
      · exact absurd (hend.after.symm.trans ht.before) (by simp)
  · rw [if_neg hep]
    obtain ⟨-, ⟨ht, hlt⟩ | ⟨pending, ht, -⟩⟩ := tick_core cfg { s with now } now
    · refine Or.inl ⟨((sameCore_now s now).trans ht).flight.trans (hset _), fun p hp => ⟨?_, hlt p hp⟩⟩
      intro old hold
      simpa [hold] using hep
    · exact Or.inr ⟨pending, ht.of_flight (sameCore_now s now).flight (hset _)⟩

/-- What `settle` can do, case by case. -/
inductive SettleCase (cfg : EngineConfig) (s : Engine) (o : SpaState) : Bool → Engine → Prop where
  /-- Nothing to resynchronize. -/
  | clear (h : s.resyncEpoch = none) : SettleCase cfg s o true s
  /-- The observation is of the ambiguous epoch, or not available. -/
  | ignored (resync : ℕ) (h : s.resyncEpoch = some resync)
      (hi : o.epoch ≤ resync ∨ o.available = false) : SettleCase cfg s o false s
  /-- The observation becomes the candidate. -/
  | restarted (resync : ℕ) (h : s.resyncEpoch = some resync) (he : resync < o.epoch)
      (ha : o.available = true) :
      SettleCase cfg s o false
        { s with settling := some ⟨s.latest.keys.map o.value, o.observedAt, o.sequence, o.epoch⟩ }
  /-- It agrees with the candidate, but too early. -/
  | waiting (resync : ℕ) (previous : Settling) (h : s.resyncEpoch = some resync)
      (he : resync < o.epoch) (ha : o.available = true) (hp : s.settling = some previous)
      (hv : sameValues previous.values (s.latest.keys.map o.value) = true)
      (hpe : previous.epoch = o.epoch) : SettleCase cfg s o false s
  /-- It agrees with the candidate and settles the state. -/
  | released (resync : ℕ) (previous : Settling) (h : s.resyncEpoch = some resync)
      (he : resync < o.epoch) (ha : o.available = true) (hp : s.settling = some previous)
      (hv : sameValues previous.values (s.latest.keys.map o.value) = true)
      (hpe : previous.epoch = o.epoch)
      (ht : cfg.resyncSettle ≤ o.observedAt - previous.observedAt)
      (hs : previous.sequence < o.sequence) :
      SettleCase cfg s o true { s with resyncEpoch := none, settling := none }

theorem settle_case (cfg : EngineConfig) (s : Engine) (o : SpaState) :
    SettleCase cfg s o (s.settle cfg o).1 (s.settle cfg o).2 := by
  unfold settle
  split
  · next h => exact .clear h
  · next resync h =>
    split
    · next hi => exact .ignored resync h (hi.imp_right Bool.eq_false_of_not_eq_true)
    · next hi =>
      simp only [not_or, not_le, Decidable.not_not] at hi
      dsimp only
      split
      · exact .restarted resync h hi.1 hi.2
      · next previous hp =>
        split
        · exact .restarted resync h hi.1 hi.2
        · next hv =>
          simp only [not_or, Decidable.not_not] at hv
          split
          · exact .waiting resync previous h hi.1 hi.2 hp hv.1 hv.2
          · next ht =>
            simp only [not_or, not_lt, not_le] at ht
            exact .released resync previous h hi.1 hi.2 hp hv.1 hv.2 ht.1 ht.2

/-- The confirmation part of `observe` keeps the core, or completes the
    transaction in flight with a record of what was observed. -/
theorem confirm_core (cfg : EngineConfig) (s : Engine) (o : SpaState) (now : ℚ) :
    SameCore s (s.confirm cfg o now) ∨
      ∃ pending, s.inflight = some pending ∧ completes cfg pending o = true ∧
        (s.confirm cfg o now).inflight = none ∧
        (s.confirm cfg o now).history = s.history.setLast (completion pending o now) ∧
        (s.confirm cfg o now).state = s.state ∧ (s.confirm cfg o now).latest = s.latest ∧
        (s.confirm cfg o now).resyncEpoch = s.resyncEpoch ∧
        (s.confirm cfg o now).settling = s.settling ∧
        (s.confirm cfg o now).counter = s.counter ∧ (s.confirm cfg o now).actions = s.actions := by
  unfold confirm
  split
  · exact Or.inl (.refl s)
  · next pending hp =>
    split
    · exact Or.inl (.refl s)
    · next hc =>
      dsimp only
      set done : Engine := { s with
        history := s.history.setLast (completion pending o now), inflight := none } with hdone
      have hfin : ∀ e : Engine, SameCore done e → ∃ q, s.inflight = some q ∧
          completes cfg q o = true ∧ e.inflight = none ∧
          e.history = s.history.setLast (completion q o now) ∧ e.state = s.state ∧
          e.latest = s.latest ∧ e.resyncEpoch = s.resyncEpoch ∧ e.settling = s.settling ∧
          e.counter = s.counter ∧ e.actions = s.actions := fun e h =>
        ⟨pending, hp, by simpa using hc, h.inflight, h.history, h.state, h.latest, h.resyncEpoch,
          h.settling, h.counter, h.actions⟩
      split
      · split
        · exact Or.inr (hfin _ (.refl _))
        · split
          · exact Or.inr (hfin _ (.refl _))
          · exact Or.inr (hfin _ (sameCore_update _ _ _ _))
      · exact Or.inr (hfin _ (.refl _))

theorem sameCore_verifyLatest (s : Engine) (o : SpaState) : SameCore s (s.verifyLatest o) :=
  sameCore_foldl _ (sameCore_verifyOne o) _ _

/-! ## Transmission and requests -/

theorem nextAction_core (cfg : EngineConfig) (s : Engine) (now : ℚ) :
    SameCore (s.tick cfg now) (s.nextAction cfg now).2 := by
  unfold nextAction
  dsimp only
  split
  · split
    · exact sameCore_nextActionLoop _ _ _ _ _
    · exact .refl _
  · exact .refl _

/-- An action is only handed out on a settled, available observation. -/
theorem nextAction_some {cfg : EngineConfig} {s : Engine} {now : ℚ} {action : Action}
    (h : (s.nextAction cfg now).1 = some action) :
    (s.tick cfg now).resyncEpoch = none ∧ (s.tick cfg now).inflight = none ∧
      ∃ o, (s.tick cfg now).state = some o ∧ o.available = true ∧
        fresh cfg now o.observedAt = true ∧
        (nextActionLoop cfg o now (s.tick cfg now).latest.entries (s.tick cfg now)).1 =
          some action := by
  unfold nextAction at h
  dsimp only at h
  split at h
  · next o hr hi ho =>
    split at h
    · next hok => exact ⟨hr, hi, o, ho, hok.1, hok.2, h⟩
    · cases h
  · cases h

/-- An action that is handed out: what `propose` has checked and recorded. -/
structure Proposed (cfg : EngineConfig) (o : SpaState) (spent : ℕ) (now : ℚ) (item : Intent)
    (control : Control) (action : Action) : Prop where
  intent : action.intent = item
  epoch : action.epoch = o.epoch
  sequence : action.sequence = o.sequence
  preparedAt : action.preparedAt = now
  safe : o.safeFor control = true
  starting : o.value control = some action.startingValue
  undone : action.startingValue.pyEq item.desired = false
  due : item.notBefore ≤ now
  budget : spent < cfg.maxActions
  deadline : ∀ d, item.deadline = some d → cfg.confirmationTimeout ≤ d - now
  reminder : control = .ackReminder → o.status.reminderCode = item.reminderCode
  planned : plan o control item.desired = .ok (action.frame, action.expected)

theorem propose_act {cfg : EngineConfig} {o : SpaState} {spent : ℕ} {now : ℚ} {item : Intent}
    {control : Control} {action : Action} (h : propose cfg o spent now item control = .act action) :
    Proposed cfg o spent now item control action := by
  unfold propose at h
  split at h
  · cases h
  next hreminder =>
  split at h
  · cases h
  next hsafe =>
  split at h
  · cases h
  next hundone =>
  split at h
  · cases h
  next hdue =>
  split at h
  · cases h
  next hdeadline =>
  split at h
  · cases h
  next hbudget =>
  split at h
  · cases h
  · cases h
  next frame expected value hplan hvalue =>
  cases h
  refine ⟨rfl, rfl, rfl, rfl, by simpa using hsafe, hvalue, ?_, not_lt.mp hdue,
    not_le.mp hbudget, fun d hd => ?_, fun hc => ?_, hplan⟩
  · rw [hvalue] at hundone
    simpa [Value.shows] using hundone
  · rw [hd] at hdeadline
    simpa using hdeadline
  · by_contra hne
    exact hreminder ⟨hc, hne⟩

/-- The loop of `next_action` passes over the goals before the one it acts on. -/
theorem nextActionLoop_some {cfg : EngineConfig} {o : SpaState} {now : ℚ}
    {l : List (Control × ℕ)} {s : Engine} {action : Action}
    (h : (nextActionLoop cfg o now l s).1 = some action) :
    ∃ l₁ l₂ control id item spent, l = l₁ ++ (control, id) :: l₂ ∧
      (nextActionLoop cfg o now l₁ s).2.intent id = some item ∧ item.stage.terminal = false ∧
      Proposed cfg o spent now item control action ∧
      (nextActionLoop cfg o now l s).2 =
        (nextActionLoop cfg o now l₁ s).2.update id .waitingForBus none := by
  induction l generalizing s with
  | nil => simp [nextActionLoop] at h
  | cons entry l ih =>
    obtain ⟨control, id⟩ := entry
    -- a goal that leads to no action is passed over, whatever it does to the engine
    have hpass : ∀ s₁, (∀ l', nextActionLoop cfg o now ((control, id) :: l') s =
        nextActionLoop cfg o now l' s₁) → (nextActionLoop cfg o now l s₁).1 = some action →
        ∃ l₁ l₂ control' id' item spent, (control, id) :: l = l₁ ++ (control', id') :: l₂ ∧
          (nextActionLoop cfg o now l₁ s).2.intent id' = some item ∧ item.stage.terminal = false ∧
          Proposed cfg o spent now item control' action ∧
          (nextActionLoop cfg o now ((control, id) :: l) s).2 =
            (nextActionLoop cfg o now l₁ s).2.update id' .waitingForBus none := by
      intro s₁ heq h₁
      obtain ⟨l₁, l₂, control', id', item, spent, hl, hi, hlive, hp, hfinal⟩ := ih h₁
      exact ⟨(control, id) :: l₁, l₂, control', id', item, spent, by rw [hl]; rfl,
        by rw [heq]; exact hi, hlive, hp, by rw [heq, heq]; exact hfinal⟩
    cases hi : s.intent id with
    | none =>
      have heq : ∀ l', nextActionLoop cfg o now ((control, id) :: l') s =
          nextActionLoop cfg o now l' s := fun l' => by simp only [nextActionLoop, hi]
      rw [heq] at h
      exact hpass s heq h
    | some item =>
      cases hlive : item.stage.terminal with
      | true =>
        have heq : ∀ l', nextActionLoop cfg o now ((control, id) :: l') s =
            nextActionLoop cfg o now l' s := fun l' => by
          simp only [nextActionLoop, hi, hlive, if_true]
        rw [heq] at h
        exact hpass s heq h
      | false =>
        cases hp : propose cfg o ((s.actions.get? control).getD 0) now item control with
        | skip =>
          have heq : ∀ l', nextActionLoop cfg o now ((control, id) :: l') s =
              nextActionLoop cfg o now l' s := fun l' => by
            simp only [nextActionLoop, hi, hlive, hp, Bool.false_eq_true, if_false]
          rw [heq] at h
          exact hpass s heq h
        | close stage reason =>
          have heq : ∀ l', nextActionLoop cfg o now ((control, id) :: l') s =
              nextActionLoop cfg o now l' (s.update id stage reason) := fun l' => by
            simp only [nextActionLoop, hi, hlive, hp, Bool.false_eq_true, if_false]
          rw [heq] at h
          exact hpass _ heq h
        | act action' =>
          have heq : nextActionLoop cfg o now ((control, id) :: l) s =
              (some action', s.update id .waitingForBus none) := by
            simp only [nextActionLoop, hi, hlive, hp, Bool.false_eq_true, if_false]
          rw [heq] at h
          obtain rfl := Option.some.inj h
          exact ⟨[], l, control, id, item, _, rfl, hi, hlive, propose_act hp, by rw [heq]; rfl⟩

/-- A request either is refused, after at most a `tick`, or adds its goal. -/
theorem request_core (cfg : EngineConfig) (s : Engine) (r : Request) :
    (∃ e, (s.request cfg r).1 = .error e ∧
        ((s.request cfg r).2 = s ∨ (s.request cfg r).2 = s.tick cfg r.now)) ∨
      ∃ item, (s.request cfg r).1 = .ok item ∧ item.control = r.control ∧
        item.id = (s.tick cfg r.now).counter + 1 ∧
        (s.request cfg r).2.state = (s.tick cfg r.now).state ∧
        (s.request cfg r).2.latest = (s.tick cfg r.now).latest.set r.control item.id ∧
        (s.request cfg r).2.inflight = (s.tick cfg r.now).inflight ∧
        (s.request cfg r).2.history = (s.tick cfg r.now).history ∧
        (s.request cfg r).2.resyncEpoch = (s.tick cfg r.now).resyncEpoch ∧
        (s.request cfg r).2.settling = (s.tick cfg r.now).settling ∧
        (s.request cfg r).2.counter = (s.tick cfg r.now).counter + 1 := by
  unfold request
  split
  · exact Or.inl ⟨_, rfl, Or.inl rfl⟩
  · dsimp only
    split
    · exact Or.inl ⟨_, rfl, Or.inr rfl⟩
    · have hr := sameCore_retire (s.tick cfg r.now) r.control
      refine Or.inr ⟨_, rfl, rfl, ?_, ?_, ?_, ?_, ?_, ?_, ?_, ?_⟩
      · simp only [newIntent, hr.counter]
      all_goals simp only [record, hr.state, hr.latest, hr.inflight, hr.history, hr.resyncEpoch,
        hr.settling, hr.counter]

/-- What is known of an accepted request without what the `tick` before it did. -/
theorem request_new {cfg : EngineConfig} {s : Engine} {r : Request} {item : Intent}
    (h : (s.request cfg r).1 = .ok item) :
    item.control = r.control ∧ item.id = (s.tick cfg r.now).counter + 1 ∧
      (s.request cfg r).2.latest = (s.tick cfg r.now).latest.set r.control item.id := by
  obtain ⟨e, he, -⟩ | ⟨new, hnew, hcontrol, hid, -, hlatest, -⟩ := request_core cfg s r
  · rw [h] at he
    cases he
  · rw [h] at hnew
    cases hnew
    exact ⟨hcontrol, hid, hlatest⟩

/-- A goal is admitted on the current observation. -/
theorem admitOn_state {cfg : EngineConfig} {s : Engine} {r : Request} {state : SpaState}
    (h : s.admitOn cfg r = .ok state) : s.state = some state := by
  unfold admitOn at h
  cases hs : s.state with
  | none =>
    rw [hs] at h
    cases h
  | some o =>
    simp only [hs] at h
    split at h
    · cases h
    · split at h
      · cases h
      · generalize SpaState.validate _ r.control r.desired = verdict at h
        cases verdict with
        | error e => cases h
        | ok =>
          cases h
          rfl

/-- What an accepted request was admitted on, and the deadline, the reminder code and
    the action counts it leaves behind. -/
theorem request_ok {cfg : EngineConfig} {s : Engine} {r : Request} {item : Intent}
    (h : (s.request cfg r).1 = .ok item) :
    ∃ state, (s.tick cfg r.now).admitOn cfg r = .ok state ∧
      item.deadline = (if (s.tick cfg r.now).replacing r then
        ((s.tick cfg r.now).latestIntent r.control).bind Intent.deadline else r.deadline) ∧
      item.reminderCode =
        (if r.control = .ackReminder then state.status.reminderCode else none) ∧
      (s.request cfg r).2.actions = if (s.tick cfg r.now).replacing r then
        (s.tick cfg r.now).actions else (s.tick cfg r.now).actions.set r.control 0 := by
  unfold request at h ⊢
  split at h
  · cases h
  · next hargs =>
    rw [if_neg hargs]
    dsimp only at h ⊢
    split at h
    · cases h
    · next state hadmitted =>
      cases h
      refine ⟨state, hadmitted, rfl, rfl, ?_⟩
      simp only [record, (sameCore_retire _ _).actions]

/-- A receipt is refused, or puts its transaction in flight. -/
theorem sent_core (cfg : EngineConfig) (s : Engine) (action : Action) (at_ : ℚ)
    (ctsAt : Option ℚ) :
    (∃ e, (s.sent cfg action at_ ctsAt).1 = .error e ∧
        SameCore s (s.sent cfg action at_ ctsAt).2) ∨
      ((s.sent cfg action at_ ctsAt).1 = .ok () ∧ s.inflight = none ∧
        ({ s with now := at_ }).receiptValid action at_ ctsAt = true ∧
        (s.sent cfg action at_ ctsAt).2.state = s.state ∧
        (s.sent cfg action at_ ctsAt).2.latest = s.latest ∧
        (s.sent cfg action at_ ctsAt).2.inflight = some { action, ctsAt, sentAt := at_ } ∧
        (s.sent cfg action at_ ctsAt).2.history =
          s.history.append { action, ctsAt, sentAt := at_ } ∧
        (s.sent cfg action at_ ctsAt).2.resyncEpoch = s.resyncEpoch ∧
        (s.sent cfg action at_ ctsAt).2.settling = s.settling ∧
        (s.sent cfg action at_ ctsAt).2.counter = s.counter) := by
  unfold sent
  dsimp only
  split
  · exact Or.inl ⟨_, rfl, sameCore_now s at_⟩
  · next hi =>
    split
    · exact Or.inl ⟨_, rfl, sameCore_now s at_⟩
    · next hv =>
      simp only [ne_eq, Decidable.not_not] at hi
      set sending : Engine := { s with
        now := at_
        inflight := some { action, ctsAt, sentAt := at_ }
        actions := s.actions.set action.intent.control
          ((s.actions.get? action.intent.control).getD 0 + 1)
        history := s.history.append { action, ctsAt, sentAt := at_ } } with hsending
      have hu := (sameCore_update sending action.intent.id .sent none).trans
        (sameCore_update _ action.intent.id .waitingForState none)
      -- the receipt's own `tick` is too early for the confirmation window
      obtain ⟨-, ⟨ht, -⟩ | ⟨pending, ht, hover⟩⟩ := tick_core cfg
        ((sending.update action.intent.id .sent none).update action.intent.id .waitingForState none)
        at_
      · have h := hu.trans ht
        exact Or.inr ⟨rfl, hi, by simpa using hv, h.state, h.latest, h.inflight, h.history,
          h.resyncEpoch, h.settling, h.counter⟩
      · have hp : pending = { action, ctsAt, sentAt := at_ } := by
          have := ht.before
          rw [hu.inflight] at this
          exact (Option.some.inj this).symm
        have hpos : 0 < cfg.timeoutOf pending.action.intent.control := by
          unfold EngineConfig.timeoutOf
          split
          · exact cfg.guard_pos.trans cfg.guard_lt_filterTimeout
          · exact cfg.guard_pos.trans cfg.guard_lt_timeout
        rw [hp] at hover hpos
        simp only [sub_self] at hover
        exact absurd hover (not_le.mpr hpos)

end Engine

end BalboaRs485
