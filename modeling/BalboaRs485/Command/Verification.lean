import BalboaRs485.Command.Barrier
import BalboaRs485.Command.Intents

/-!
# What `VERIFIED` means

Three places write `VERIFIED`: the confirmation part of `observe` (a reminder
acknowledgement), its final loop, and the loop of `next_action`. This module
states what holds when one of them does, over runs in which `sent` is only called
with actions that `next_action` returned.

* `step_moves`: what a call other than `request` does to the goals; `Shown` is what
  it has to observe to verify one.
* `step_accounted`: a transmitted action is in flight, or observations have moved
  beyond it, or its epoch is ambiguous.
* `step_records`: a transaction is recorded `VERIFIED` within its confirmation
  window, with a value that differs from the one it started from.
* `verified_sound`: the three together, for whole runs.
-/

namespace BalboaRs485

namespace Engine

variable {cfg : EngineConfig} {ops : List EngineOp}

/-! ## Goals -/

/-- After the call, the current observation shows what the goal asks for, nothing
    is in flight and nothing waits for resynchronization. -/
def Shown (s s' : Engine) (item : Intent) : Prop :=
  s'.inflight = none ∧ s'.resyncEpoch = none ∧
    ∃ o, s'.state = some o ∧ o.safeFor item.control = true ∧
      (Value.shows (o.value item.control) item.desired = true ∨
        ∃ pending, s.inflight = some pending ∧ pending.action.intent.id = item.id ∧
          pending.action.intent.control = .ackReminder ∧
          reminderAcknowledged pending.action.intent o = true)

/-- A goal that has ended stays as it is, and one is only verified when `Shown`. -/
def Moves (s s' : Engine) (item : Intent) (stage : Stage) : Prop :=
  (item.stage.terminal = true → item.stage = .superseded ∧ stage = .superseded) ∧
    (stage = .verified → Shown s s' item)

theorem Quiet.moves {s s' : Engine} {item : Intent} {stage : Stage} (h : Quiet item stage) :
    Moves s s' item stage :=
  ⟨h.2, fun hv => absurd hv h.1⟩

theorem moves_of_live {s s' : Engine} {item : Intent} {stage : Stage}
    (h : item.stage.terminal = false) (hs : stage = .verified → Shown s s' item) :
    Moves s s' item stage :=
  ⟨fun ht => absurd (h.symm.trans ht) (by decide), hs⟩

theorem safeFor_of_controlsSafe {o : SpaState} (h : o.controlsSafe = true) (control : Control) :
    o.safeFor control = true := by
  simp [SpaState.safeFor, h]

theorem available_of_safeFor {o : SpaState} {control : Control} (h : o.safeFor control = true) :
    o.available = true := by
  unfold SpaState.safeFor SpaState.controlsSafe at h
  split at h
  · simp_all
  · split at h <;> simp_all

theorem confirm_inflight {s : Engine} {pending : Transaction} {o : SpaState} {now : ℚ}
    (hp : s.inflight = some pending) (hc : completes cfg pending o = true) :
    (s.confirm cfg o now).inflight = none := by
  unfold confirm
  rw [hp]
  simp only [hc, not_true_eq_false, if_false]
  split
  · split
    · rfl
    · split
      · rfl
      · rw [(sameCore_update _ _ _ _).inflight]
  · rfl

/-- The record of a reminder acknowledgement is `VERIFIED` only if the reminder is
    gone; no other record ends its goal as `VERIFIED`. -/
theorem completion_verified {pending : Transaction} {o : SpaState} {now : ℚ}
    (hc : completes cfg pending o = true) (hv : (completion pending o now).result = .verified) :
    pumpOffRetainedLow pending o = false ∧
      (pending.action.intent.control = .ackReminder →
        reminderAcknowledged pending.action.intent o = true) ∧
      (pending.action.intent.control ≠ .ackReminder →
        Value.shows (o.value pending.action.intent.control) pending.action.expected = true ∨
          Value.shows (o.value pending.action.intent.control) pending.action.intent.desired = true) := by
  have hlow : pumpOffRetainedLow pending o = false := by
    simp only [completion] at hv
    split at hv
    · cases hv
    · next h => simpa using h
  simp only [completes, showsOutcome, hlow, Bool.decide_and, Bool.and_eq_true,
    decide_eq_true_eq] at hc
  refine ⟨hlow, fun hack => ?_, fun hack => ?_⟩
  · simpa [hack] using hc.2.2.2.2.2
  · simpa [hack] using hc.2.2.2.2.2

/-- **What one call makes of the goals**, `request` aside. -/
theorem step_moves (cfg : EngineConfig) {s : Engine} (hr : IntentRep s) {op : EngineOp}
    (hop : ∀ r, op ≠ .request r) : Updates (Moves s (s.step cfg op).1) s (s.step cfg op).1 := by
  have hquiet : ∀ {e e' : Engine}, Updates Quiet e e' →
      Updates (Moves s (s.step cfg op).1) e e' := fun h => h.mono fun _ _ hq => hq.moves
  cases op with
  | request r => exact absurd rfl (hop r)
  | cancel control now => exact hquiet (updates_cancel s control now)
  | joined id now => exact hquiet (updates_joined s id now)
  | sent action at_ ctsAt => exact hquiet (updates_sent hr cfg action at_ ctsAt)
  | tick now => exact hquiet (updates_tick hr cfg now)
  | suspend now => exact hquiet (updates_suspend s now)
  | nextAction now =>
    have htick := updates_tick hr cfg now
    have hcore := nextAction_core cfg s now
    simp only [step] at hquiet ⊢
    refine (hquiet htick).trans ?_
    unfold nextAction at hcore ⊢
    dsimp only at hcore ⊢
    split
    · next o hres hfree ho =>
      simp only [hres, hfree, ho] at hcore ⊢
      split
      · next hok =>
        simp only [hok, and_self, if_true] at hcore
        refine updates_nextActionLoop cfg o now (fun item stage hlive hshow => ?_) _ _
          (fun _ h => h) (htick.rep hr)
        refine moves_of_live hlive fun hv => ?_
        obtain ⟨hsafe, hval⟩ := hshow hv
        exact ⟨hcore.inflight.trans hfree, hcore.resyncEpoch.trans hres, o,
          hcore.state.trans ho, hsafe, Or.inl hval⟩
      · exact .refl _
    · exact .refl _
  | observe o now =>
    by_cases hst : s.stale o = true
    · have heq : (s.step cfg (.observe o now)).1 = { s with now } := by
        simp only [step, observe, hst, if_true]
      rw [heq]
      exact .same (sameGoals_now s now)
    have hcase := step_case cfg s (.observe o now)
    generalize (s.step cfg (.observe o now)).1 = s' at hcase hquiet ⊢
    have harrive := updates_arrive hr cfg o now
    cases hcase with
    | ticked ha => simp [accepted, Bool.eq_false_of_not_eq_true hst] at ha
    | unsettled _ hc => exact (hquiet harrive).trans (.same (settled_goals hc))
    | @settled _ _ s₁ _ _ hc hs' =>
      have hr₁ := (settled_goals hc).rep (harrive.rep hr)
      have hres : s₁.resyncEpoch = none := by
        cases hc with
        | clear h => exact h
        | released => rfl
      obtain ⟨hst, -, hresync, -⟩ := used_core cfg s₁ o now
      have hstate : s'.state = some o := by
        rw [hs', hst, (settled_core hc).1, (arrive_core cfg s o now).1]
      have hfinal : s'.inflight = (s₁.confirm cfg o now).inflight := by
        rw [hs', (sameCore_verifyLatest _ o).inflight]
      have hflight : ∀ pending, s₁.inflight = some pending → s.inflight = some pending := by
        intro pending hp
        obtain ⟨-, ⟨ht, -⟩ | ⟨q, ht⟩⟩ := arrive_core cfg s o now
        · rw [← ht.inflight, ← (settled_core hc).2.2.1, hp]
        · rw [(settled_core hc).2.2.1, ht.after] at hp; cases hp
      refine ((hquiet harrive).trans (.same (settled_goals hc))).trans ?_
      rw [← hs'] at hresync
      have hconfirm : Updates (Moves s s') s₁ (s₁.confirm cfg o now) := by
        refine updates_confirm cfg s₁ o now
          (fun pending item hp hcomp hitem hlive hkind hid => ?_) hr₁
        refine moves_of_live hlive fun hv => ?_
        obtain ⟨hlow, hack, -⟩ := completion_verified hcomp hv
        have hc' : pending.action.intent.control = .ackReminder := by
          rcases hkind with h | h
          · rw [hlow] at h; cases h
          · exact h
        have hdone := hack hc'
        have hsafe : o.controlsSafe = true := by
          simp only [reminderAcknowledged, Bool.decide_and, Bool.and_eq_true,
            decide_eq_true_eq] at hdone
          exact hdone.1
        exact ⟨hfinal.trans (confirm_inflight hp hcomp), hresync.trans hres, o, hstate,
          safeFor_of_controlsSafe hsafe _, Or.inr ⟨pending, hflight pending hp, hid.symm, hc', hdone⟩⟩
      have hlast : Updates (Moves s s') (s₁.confirm cfg o now) s' := by
        rw [hs']
        refine updates_verifyLatest _ o ?_ (hconfirm.rep hr₁)
        rintro control id item - - rfl hlive hnone hsafe hval
        rw [← hs']
        exact moves_of_live hlive fun _ => ⟨hfinal.trans hnone, hresync.trans hres, o,
          hstate, hsafe, Or.inl hval⟩
      exact hconfirm.trans hlast

/-- Goals are compared by what `_update` does not change. -/
theorem goal_eq {item item' : Intent} (h : item'.goal = item.goal) :
    item'.id = item.id ∧ item'.control = item.control ∧ item'.desired = item.desired ∧
      item'.reminderCode = item.reminderCode := by
  unfold Intent.goal at h
  injection h with h1 h2 h3 _ _ _ h4
  exact ⟨h1, h2, h3, h4⟩

theorem Shown.congr {s s' : Engine} {item item' : Intent} (hg : item'.goal = item.goal)
    (h : Shown s s' item) : Shown s s' item' := by
  obtain ⟨hid, hc, hd, -⟩ := goal_eq hg
  unfold Shown
  rw [hid, hc, hd]
  exact h

/-- **One goal over one call**: it is new, or it was there before with the same
    desired value, and it is verified only when `Shown`. -/
theorem step_intent (cfg : EngineConfig) {s : Engine} (hr : IntentRep s) (op : EngineOp) :
    IntentRep (s.step cfg op).1 ∧ s.counter ≤ (s.step cfg op).1.counter ∧
      ∀ id item', (s.step cfg op).1.intent id = some item' →
        (s.counter < id ∧ item'.stage = .queued) ∨
          ∃ item, s.intent id = some item ∧ item'.goal = item.goal ∧
            (item'.stage = .verified →
              item.stage = .verified ∨ Shown s (s.step cfg op).1 item') := by
  by_cases hop : ∃ r, op = .request r
  · obtain ⟨r, rfl⟩ := hop
    -- a request verifies nothing
    have hold : ∀ {s₁ : Engine} {id : ℕ} {item' : Intent}, Updates Quiet s s₁ →
        s₁.intent id = some item' → ∃ item, s.intent id = some item ∧ item'.goal = item.goal ∧
          (item'.stage = .verified → item.stage = .verified ∨
            Shown s (s.step cfg (.request r)).1 item') := by
      intro s₁ id item' hu hi
      obtain ⟨item, hitem, hgoal, hcase⟩ := hu.evolves hr hi
      refine ⟨item, hitem, hgoal, fun hv => Or.inl ?_⟩
      rcases hcase with rfl | ⟨_, -, hq⟩
      · exact hv
      · exact absurd hv hq.1
    obtain ⟨e, s', -, hs', hu⟩ | ⟨item, s₁, -, hu, hid, -, -, hst, -, hnew, hrep, hcount, hrest, -⟩ :=
      request_intents cfg r hr
    · have heq : (s.step cfg (.request r)).1 = s' := hs'
      rw [heq] at hold ⊢
      exact ⟨hu.rep hr, hu.counter.ge, fun id item' hi => Or.inr (hold hu hi)⟩
    · refine ⟨hrep, (Nat.le_succ _).trans hcount.ge, fun id item' hi => ?_⟩
      by_cases h : id = item.id
      · subst h
        have : item' = item := Option.some.inj (Eq.trans (Eq.symm hi) hnew)
        subst this
        exact Or.inl ⟨by omega, hst⟩
      · exact Or.inr (hold hu (hrest id item' hi h))
  · have hu := step_moves cfg hr fun r h => hop ⟨r, h⟩
    refine ⟨hu.rep hr, hu.counter.ge, fun id item' hi => Or.inr ?_⟩
    obtain ⟨item, hitem, hgoal, hcase⟩ := hu.evolves hr hi
    refine ⟨item, hitem, hgoal, fun hv => ?_⟩
    rcases hcase with rfl | ⟨before, hb, hm⟩
    · exact Or.inl hv
    · exact Or.inr ((hm.2 hv).congr (hgoal.trans hb.symm))

theorem stateAt_rep (cfg : EngineConfig) (ops : List EngineOp) (n : ℕ) :
    IntentRep (engineAt cfg ops n) :=
  (engineMachine cfg).stateAt_invariant (P := IntentRep) intentRep_init
    (fun _ op hr => (step_intent cfg hr op).1) ops n

/-- The goal of an action that was handed out waits for the bus. -/
theorem intent_handed {n : ℕ} {now : ℚ} {action : Action} (hop : ops[n]? = some (.nextAction now))
    (h : ((engineAt cfg ops n).nextAction cfg now).1 = some action) :
    (engineAt cfg ops (n + 1)).intent action.intent.id =
      some { action.intent with stage := .waitingForBus, reason := none } := by
  obtain ⟨o, spent, -, -, -, -, hint⟩ := nextAction_intent (stateAt_rep cfg ops n) h
  rw [engineAt_succ hop]
  exact hint

/-- A goal keeps its number, control and desired value for good. -/
theorem goal_mono {m n id : ℕ} {item item' : Intent}
    (h : (engineAt cfg ops m).intent id = some item) (hmn : m ≤ n)
    (h' : (engineAt cfg ops n).intent id = some item') : item'.goal = item.goal := by
  have hinv := (engineMachine cfg).stateAt_invariant_from
    (P := fun s => IntentRep s ∧ id ≤ s.counter ∧
      ∀ item', s.intent id = some item' → item'.goal = item.goal)
    (l := ops) (m := m) ⟨stateAt_rep cfg ops m, intent_le (stateAt_rep cfg ops m) h,
      fun item' hi => by rw [Option.some.inj (hi.symm.trans h)]⟩
    (fun s op ⟨hr, hle, hg⟩ => by
      obtain ⟨hr', hle', hall⟩ := step_intent cfg hr op
      refine ⟨hr', hle.trans hle', fun item' hi => ?_⟩
      rcases hall id item' hi with ⟨hlt, -⟩ | ⟨old, hold, hgoal, -⟩
      · omega
      · exact hgoal.trans (hg old hold)) n hmn
  exact hinv.2.2 item' h'

/-! ## Transmissions -/

/-- One of the first `n` calls transmits `action` at time `at_`. -/
def Transmitted (cfg : EngineConfig) (ops : List EngineOp) (n : ℕ) (action : Action) (at_ : ℚ) :
    Prop :=
  ∃ m, m < n ∧ ∃ ctsAt, ops[m]? = some (.sent action at_ ctsAt) ∧
    (engineMachine cfg).outAt ops m = some (.receipt (.ok ()))

/-- An observation from after the transmission and its guard time. -/
def Beyond (cfg : EngineConfig) (action : Action) (at_ : ℚ) (o : SpaState) : Prop :=
  action.epoch < o.epoch ∨
    (action.epoch = o.epoch ∧ action.sequence < o.sequence ∧
      at_ + cfg.confirmationGuard ≤ o.observedAt)

theorem Beyond.later {action : Action} {at_ : ℚ} {o o' : SpaState} (h : Beyond cfg action at_ o)
    (hp : Precedes o o') : Beyond cfg action at_ o' := by
  rcases h with h | ⟨he, hs, ht⟩
  · exact Or.inl (h.trans_le hp.epoch_le)
  · rcases hp with hp | ⟨he', hs', ht'⟩
    · exact Or.inl (he ▸ hp)
    · exact Or.inr ⟨he.trans he', hs.trans_le hs', ht.trans ht'⟩

theorem beyond_of_completes {pending : Transaction} {o : SpaState}
    (h : completes cfg pending o = true) : Beyond cfg pending.action pending.sentAt o := by
  simp only [completes, Bool.decide_and, Bool.and_eq_true, decide_eq_true_eq] at h
  exact Or.inr ⟨h.2.1.symm, h.2.2.1, by linarith [h.2.2.2.1]⟩

/-- What became of a transmitted action. -/
def Accounted (cfg : EngineConfig) (s : Engine) (action : Action) (at_ : ℚ) : Prop :=
  (∃ pending, s.inflight = some pending ∧ pending.action = action ∧ pending.sentAt = at_) ∨
    (∃ o, s.state = some o ∧ Beyond cfg action at_ o) ∨
    ∃ r, s.resyncEpoch = some r ∧ action.epoch ≤ r

/-- The transaction in flight stays in flight, or is completed by the observation
    that is now current, or leaves its epoch ambiguous. -/
theorem step_flight (cfg : EngineConfig) {s : Engine} (op : EngineOp) {pending : Transaction}
    (h : s.inflight = some pending) :
    (s.step cfg op).1.inflight = some pending ∨
      (s.step cfg op).1.resyncEpoch = some pending.action.epoch ∨
      ∃ o, (s.step cfg op).1.state = some o ∧ completes cfg pending o = true := by
  have hend : ∀ {s' q}, AmbiguousEnd s s' q → s'.resyncEpoch = some pending.action.epoch := by
    intro s' q hq
    obtain rfl := Option.some.inj (h.symm.trans hq.before)
    exact hq.resyncEpoch
  have hticked : ∀ {s'}, Ticked s s' →
      s'.inflight = some pending ∨ s'.resyncEpoch = some pending.action.epoch := by
    rintro s' ⟨-, ht | ⟨q, ht⟩⟩
    · exact Or.inl (ht.inflight.trans h)
    · exact Or.inr (hend ht)
  -- an ambiguous end leaves no candidate, so the same observation cannot settle it
  have hsettle : ∀ {o now b s₁}, SettleCase cfg (s.arrive cfg o now) o b s₁ →
      s₁.inflight = some pending ∨ (b = false ∧ s₁.resyncEpoch = some pending.action.epoch) := by
    intro o now b s₁ hc
    obtain ⟨-, ⟨ht, -⟩ | ⟨q, ht⟩⟩ := arrive_core cfg s o now
    · exact Or.inl ((settled_core hc).2.2.1.trans (ht.inflight.trans h))
    · have hr := hend ht
      have hs := ht.settling
      refine Or.inr ?_
      cases hc with
      | clear hn => rw [hr] at hn; cases hn
      | ignored => exact ⟨rfl, hr⟩
      | restarted => exact ⟨rfl, hr⟩
      | waiting _ _ _ _ _ hp => rw [hs] at hp; cases hp
      | released _ _ _ _ _ hp => rw [hs] at hp; cases hp
  have hcase := step_case cfg s op
  generalize (s.step cfg op).1 = s' at hcase
  cases hcase with
  | ticked _ ht => exact (hticked ht).imp_right Or.inl
  | requested ht _ _ _ _ _ hinflight _ hresync =>
    rw [hinflight, hresync]
    exact (hticked ht).imp_right Or.inl
  | lost _ hn => rw [hn] at h; cases h
  | lostFlight _ he => exact Or.inr (Or.inl (hend he))
  | sent hn => rw [hn] at h; cases h
  | unsettled _ hc =>
    rcases hsettle hc with hf | ⟨-, hr⟩
    · exact Or.inl hf
    · exact Or.inr (Or.inl hr)
  | @settled o now s₁ _ _ hc hs' =>
    rcases hsettle hc with hf | ⟨hb, -⟩
    · have hv := sameCore_verifyLatest (s₁.confirm cfg o now) o
      obtain hk | ⟨q, hq, hcomp, -⟩ := confirm_core cfg s₁ o now
      · exact Or.inl (by rw [hs', hv.inflight, hk.inflight, hf])
      · obtain rfl := Option.some.inj (hf.symm.trans hq)
        refine Or.inr (Or.inr ⟨o, ?_, hcomp⟩)
        rw [hs', (used_core cfg s₁ o now).1, (settled_core hc).1, (arrive_core cfg s o now).1]
    · cases hb

/-- The ambiguous epoch only grows until an observation of a later epoch settles
    the state. -/
theorem step_resync_le (cfg : EngineConfig) {s : Engine} (hep : Epochs s) (op : EngineOp) {r : ℕ}
    (h : s.resyncEpoch = some r) :
    (∃ r', (s.step cfg op).1.resyncEpoch = some r' ∧ r ≤ r') ∨
      ∃ o, (s.step cfg op).1.state = some o ∧ r < o.epoch := by
  obtain ⟨o, ho, hle⟩ := hep.resync r h
  have hraised : ∀ {s'}, Raised s s' → ∃ r', s'.resyncEpoch = some r' ∧ r ≤ r' := by
    rintro s' (⟨h1, -⟩ | ⟨pending, hp, h1, -⟩)
    · exact ⟨r, h1.trans h, le_rfl⟩
    · obtain ⟨o', ho', heq⟩ := hep.inflight pending hp
      obtain rfl := Option.some.inj (ho.symm.trans ho')
      exact ⟨_, h1, hle.trans heq.ge⟩
  cases ha : s.accepted op with
  | none => exact Or.inl (hraised (step_barrier cfg ha))
  | some o' =>
    obtain ⟨now, b, s₁, -, -, hc, h1, -⟩ := step_accepted_settle cfg ha
    obtain ⟨r', hr', hle'⟩ := hraised (arrive_raised cfg s o' now)
    cases hc with
    | clear hn => rw [hn] at hr'; cases hr'
    | ignored => exact Or.inl ⟨r', h1.trans hr', hle'⟩
    | restarted => exact Or.inl ⟨r', h1.trans hr', hle'⟩
    | waiting => exact Or.inl ⟨r', h1.trans hr', hle'⟩
    | released resync _ hres he =>
      obtain rfl := Option.some.inj (hr'.symm.trans hres)
      exact Or.inr ⟨o', (step_accepted cfg ha).1, hle'.trans_lt he⟩

/-- **One call keeps every transmitted action accounted for.** -/
theorem step_accounted {s : Engine} (hep : Epochs s) {op : EngineOp} {action : Action} {at_ : ℚ}
    (h : Accounted cfg s action at_) : Accounted cfg (s.step cfg op).1 action at_ := by
  rcases h with ⟨pending, hp, rfl, rfl⟩ | ⟨o, ho, hb⟩ | ⟨r, hr, hle⟩
  · rcases step_flight cfg op hp with hf | hres | ⟨o, ho, hc⟩
    · exact Or.inl ⟨pending, hf, rfl, rfl⟩
    · exact Or.inr (Or.inr ⟨_, hres, le_rfl⟩)
    · exact Or.inr (Or.inl ⟨o, ho, beyond_of_completes hc⟩)
  · obtain ⟨o', ho', hp⟩ := step_precedes cfg op ho
    exact Or.inr (Or.inl ⟨o', ho', hb.later hp⟩)
  · rcases step_resync_le cfg hep op hr with ⟨r', hr', hle'⟩ | ⟨o, ho, hlt⟩
    · exact Or.inr (Or.inr ⟨r', hr', hle.trans hle'⟩)
    · exact Or.inr (Or.inl ⟨o, ho, Or.inl (hle.trans_lt hlt)⟩)

theorem transmitted_accounted {n : ℕ} {action : Action} {at_ : ℚ}
    (h : Transmitted cfg ops n action at_) : Accounted cfg (engineAt cfg ops n) action at_ := by
  obtain ⟨m, hmn, ctsAt, hop, hout⟩ := h
  refine ((engineMachine cfg).stateAt_invariant_from
    (P := fun s => Epochs s ∧ Accounted cfg s action at_) (m := m + 1) ⟨stateAt_epochs cfg ops _, ?_⟩
    (fun s op ⟨hep, hs⟩ => ⟨step_epochs hep op, step_accounted hep hs⟩) n hmn).2
  rw [(engineMachine cfg).stateAt_succ hop]
  obtain ⟨e, he, -⟩ | ⟨-, -, -, -, -, hinflight, -⟩ :=
    sent_core cfg (engineAt cfg ops m) action at_ ctsAt
  · rw [outAt_receipt hop, he] at hout
    cases hout
  · exact Or.inl ⟨_, hinflight, rfl, rfl⟩

/-! ## Records -/

/-- The value an action starts from is neither the one it expects nor the one it is
    sent for. -/
def Changing (action : Action) : Prop :=
  action.startingValue.pyEq action.expected = false ∧
    action.startingValue.pyEq action.intent.desired = false

theorem Proposed.changing {o : SpaState} {spent : ℕ} {now : ℚ} {control : Control}
    {action : Action} (h : Proposed cfg o spent now action.intent control action) :
    Changing action :=
  ⟨plan_expected_ne h.planned h.starting h.undone, h.undone⟩

/-- What a record says that is closed as `VERIFIED`. -/
def SoundRecord (cfg : EngineConfig) (record : Transaction) : Prop :=
  (∃ at_, record.completedAt = some at_ ∧
      at_ - record.sentAt < cfg.timeoutOf record.action.intent.control) ∧
    (record.action.intent.control ≠ .ackReminder →
      ∃ v, record.resultingValue = some v ∧ v.pyEq record.action.startingValue = false)

/-- The records after a call were there before, or are not `VERIFIED`, or are of the
    transaction that the call confirms within its window. -/
theorem step_records {s : Engine} {op : EngineOp} {record : Transaction}
    (h : record ∈ (s.step cfg op).1.history.items) :
    record ∈ s.history.items ∨ record.result ≠ .verified ∨
      ∃ pending o now, s.inflight = some pending ∧ completes cfg pending o = true ∧
        now - pending.sentAt < cfg.timeoutOf pending.action.intent.control ∧
        record = completion pending o now := by
  have hamb : ∀ {s' q}, AmbiguousEnd s s' q → record ∈ s'.history.items →
      record ∈ s.history.items ∨ record.result ≠ .verified := by
    intro s' q hq hm
    obtain ⟨closed, hclosed, heq⟩ := hq.history
    rw [heq] at hm
    rcases Deque.mem_of_mem_setLast hm with hm | rfl
    · exact Or.inl hm
    · obtain ⟨-, -, -, ⟨hr, -⟩ | ⟨hr, -⟩⟩ := hclosed <;> exact Or.inr (by rw [hr]; decide)
  have hticked : ∀ {s'}, Ticked s s' → record ∈ s'.history.items →
      record ∈ s.history.items ∨ record.result ≠ .verified := by
    rintro s' ⟨-, ht | ⟨q, ht⟩⟩ hm
    · exact Or.inl (ht.history ▸ hm)
    · exact hamb ht hm
  have harrive : ∀ {o now}, record ∈ (s.arrive cfg o now).history.items →
      record ∈ s.history.items ∨ record.result ≠ .verified := by
    intro o now hm
    obtain ⟨-, ⟨ht, -⟩ | ⟨q, ht⟩⟩ := arrive_core cfg s o now
    · exact Or.inl (ht.history ▸ hm)
    · exact hamb ht hm
  have hcase := step_case cfg s op
  generalize (s.step cfg op).1 = s' at hcase h
  cases hcase with
  | ticked _ ht => exact (hticked ht h).imp_right Or.inl
  | requested ht _ _ _ _ _ _ hhist => exact (hticked ht (hhist ▸ h)).imp_right Or.inl
  | lost _ _ hf => exact Or.inl (hf.history ▸ h)
  | lostFlight _ he => exact (hamb he h).imp_right Or.inl
  | sent _ _ _ _ _ hhist =>
    rw [hhist] at h
    rcases Deque.mem_of_mem_append h with h | rfl
    · exact Or.inl h
    · exact Or.inr (Or.inl (by simp))
  | unsettled _ hc => exact (harrive ((settled_core hc).2.2.2.1 ▸ h)).imp_right Or.inl
  | @settled o now s₁ _ _ hc hs' =>
    subst hs'
    rw [(sameCore_verifyLatest _ o).history] at h
    obtain hk | ⟨q, hq, hcomp, -, hhist, -⟩ := confirm_core cfg s₁ o now
    · rw [hk.history, (settled_core hc).2.2.2.1] at h
      exact (harrive h).imp_right Or.inl
    · rw [hhist] at h
      rcases Deque.mem_of_mem_setLast h with h | rfl
      · rw [(settled_core hc).2.2.2.1] at h
        exact (harrive h).imp_right Or.inl
      · -- the transaction outlived the arrival, so it is within its window
        obtain ⟨-, ⟨ht, hin⟩ | ⟨q', ht⟩⟩ := arrive_core cfg s o now
        · have hp : s.inflight = some q := by
            rw [← ht.inflight, ← (settled_core hc).2.2.1, hq]
          exact Or.inr (Or.inr ⟨q, o, now, hp, hcomp, (hin q hp).2, rfl⟩)
        · rw [(settled_core hc).2.2.1, ht.after] at hq; cases hq

theorem sound_completion {pending : Transaction} {o : SpaState} {now : ℚ}
    (hc : completes cfg pending o = true) (hch : Changing pending.action)
    (hin : now - pending.sentAt < cfg.timeoutOf pending.action.intent.control)
    (hv : (completion pending o now).result = .verified) :
    SoundRecord cfg (completion pending o now) := by
  refine ⟨⟨now, rfl, hin⟩, fun hack => ?_⟩
  obtain ⟨-, -, hshows⟩ := completion_verified hc hv
  -- a value that equals the starting one would make the action unchanging
  have hne : ∀ v w : Value, v.pyEq w = true → pending.action.startingValue.pyEq w = false →
      v.pyEq pending.action.startingValue = false := by
    intro v w hvw hsw
    by_contra hcon
    rw [Bool.not_eq_false, Value.pyEq_comm] at hcon
    rw [Value.pyEq_trans hcon hvw] at hsw; cases hsw
  rcases hshows hack with h | h <;> obtain ⟨v, hval, heq⟩ := Value.shows_iff.mp h
  · exact ⟨v, hval, hne v _ heq hch.1⟩
  · exact ⟨v, hval, hne v _ heq hch.2⟩

/-! ## Runs -/

/-- One of the first `n` calls is a `next_action` that returned `action`, up to its
    frame, which the transport readdresses. -/
def HandedOut (cfg : EngineConfig) (ops : List EngineOp) (n : ℕ) (action : Action) : Prop :=
  ∃ m, m < n ∧ ∃ action', (engineMachine cfg).outAt ops m = some (.action (some action')) ∧
    action = { action' with frame := action.frame }

/-- `sent` is only called with actions that `next_action` has returned. -/
def Disciplined (cfg : EngineConfig) (ops : List EngineOp) : Prop :=
  ∀ n action at_ ctsAt, ops[n]? = some (.sent action at_ ctsAt) → HandedOut cfg ops n action

/-- Call `n` moves the goal `item` to `VERIFIED`. -/
def Verifies (cfg : EngineConfig) (ops : List EngineOp) (n : ℕ) (item : Intent) : Prop :=
  (engineAt cfg ops (n + 1)).intent item.id = some item ∧ item.stage = .verified ∧
    ∀ before, (engineAt cfg ops n).intent item.id = some before → before.stage ≠ .verified

theorem HandedOut.later {m n : ℕ} {action : Action} (h : HandedOut cfg ops m action)
    (hmn : m ≤ n) : HandedOut cfg ops n action := by
  obtain ⟨k, hk, h⟩ := h
  exact ⟨k, hk.trans_le hmn, h⟩

/-- An action that was handed out changes something, and its goal is still the one
    stored under its number. -/
theorem HandedOut.spec {n : ℕ} {action : Action} (h : HandedOut cfg ops n action) :
    Changing action ∧ ∀ item, (engineAt cfg ops n).intent action.intent.id = some item →
      item.goal = action.intent.goal := by
  obtain ⟨m, hmn, action', hout, heq⟩ := h
  obtain ⟨now, hop, hsome⟩ := outAt_action hout
  obtain ⟨o, spent, -, -, hp, -⟩ := nextAction_intent (stateAt_rep cfg ops m) hsome
  have hintent : action.intent = action'.intent := by rw [heq]
  refine ⟨?_, fun item hi => ?_⟩
  · have := hp.changing
    rw [heq]
    exact this
  · rw [hintent] at hi ⊢
    exact (goal_mono (intent_handed hop hsome) hmn hi).trans rfl

/-- The transaction in flight was sent with an action that was handed out. -/
theorem inflight_handedOut (hd : Disciplined cfg ops) (n : ℕ) {pending : Transaction}
    (h : (engineAt cfg ops n).inflight = some pending) : HandedOut cfg ops n pending.action := by
  induction n generalizing pending with
  | zero => cases h
  | succ n ih =>
    cases hop : ops[n]? with
    | none =>
      rw [engineAt, (engineMachine cfg).stateAt_succ_none hop] at h
      exact (ih h).later n.le_succ
    | some op =>
      rw [engineAt_succ hop] at h
      rcases step_inflight h with ⟨h, -⟩ | ⟨action, at_, ctsAt, rfl, -, -, rfl⟩
      · exact (ih h).later n.le_succ
      · exact (hd n action at_ ctsAt hop).later n.le_succ

theorem records_sound (hd : Disciplined cfg ops) (n : ℕ) {record : Transaction}
    (h : record ∈ (engineAt cfg ops n).history.items) (hv : record.result = .verified) :
    SoundRecord cfg record := by
  induction n with
  | zero => cases h
  | succ n ih =>
    cases hop : ops[n]? with
    | none =>
      rw [engineAt, (engineMachine cfg).stateAt_succ_none hop] at h
      exact ih h
    | some op =>
      rw [engineAt_succ hop] at h
      rcases step_records h with h | h | ⟨pending, o, now, hp, hc, hin, rfl⟩
      · exact ih h
      · exact absurd hv h
      · exact sound_completion hc (inflight_handedOut hd n hp).spec.1 hin hv

/-- **Verification soundness.** In a run in which `sent` is only called with actions
    that `next_action` returned:

    * after a call that moves a goal to `VERIFIED`, nothing is in flight or waits
      for resynchronization, the current observation is available, permits the
      control and shows the desired value (or the reminder gone), and it is from
      after every transmission for that goal;
    * every transaction recorded `VERIFIED` was completed within its confirmation
      window, a write with a value that differs from the one it started from. -/
theorem verified_sound (cfg : EngineConfig) (ops : List EngineOp) (hd : Disciplined cfg ops) :
    (∀ n item, Verifies cfg ops n item →
      (engineAt cfg ops (n + 1)).inflight = none ∧
      (engineAt cfg ops (n + 1)).resyncEpoch = none ∧
      ∃ o, (engineAt cfg ops (n + 1)).state = some o ∧ o.available = true ∧
        o.safeFor item.control = true ∧
        (Value.shows (o.value item.control) item.desired = true ∨
          (item.control = .ackReminder ∧ reminderAcknowledged item o = true)) ∧
        ∀ action at_, Transmitted cfg ops (n + 1) action at_ → action.intent.id = item.id →
          Beyond cfg action at_ o) ∧
      ∀ n record, record ∈ (engineAt cfg ops n).history.items → record.result = .verified →
        SoundRecord cfg record := by
  refine ⟨fun n item hv => ?_, fun n record => records_sound hd n⟩
  obtain ⟨hi, hstage, hbefore⟩ := hv
  have hr := stateAt_rep cfg ops n
  have hop : ∃ op, ops[n]? = some op := by
    by_contra hno
    have hnone : ops[n]? = none := by
      cases h : ops[n]? with
      | none => rfl
      | some op => exact absurd ⟨op, h⟩ hno
    rw [engineAt, (engineMachine cfg).stateAt_succ_none hnone] at hi
    exact hbefore item hi hstage
  obtain ⟨op, hop⟩ := hop
  have hi' := hi
  rw [engineAt_succ hop] at hi'
  obtain ⟨hfree, hres, o, ho, hsafe, hshow⟩ :
      Shown (engineAt cfg ops n) (engineAt cfg ops (n + 1)) item := by
    rw [engineAt_succ hop]
    rcases (step_intent cfg hr op).2.2 item.id item hi' with ⟨-, hq⟩ | ⟨old, hold, -, h⟩
    · rw [hstage] at hq; cases hq
    · exact (h hstage).resolve_left (hbefore old hold)
  refine ⟨hfree, hres, o, ho, available_of_safeFor hsafe, hsafe, ?_, fun action at_ ht _ => ?_⟩
  · refine hshow.imp_right ?_
    rintro ⟨pending, hp, hid, hc, hack⟩
    -- the acknowledgement was sent for this very goal
    have hg := ((inflight_handedOut hd n hp).later n.le_succ).spec.2 item (hid ▸ hi)
    obtain ⟨-, hc', -, hcode⟩ := goal_eq hg
    refine ⟨hc'.trans hc, ?_⟩
    simpa [reminderAcknowledged, hcode] using hack
  · rcases transmitted_accounted ht with ⟨pending, hp, -⟩ | ⟨o', ho', hb⟩ | ⟨r, hr', -⟩
    · rw [hfree] at hp; cases hp
    · obtain rfl := Option.some.inj (ho.symm.trans ho')
      exact hb
    · rw [hres] at hr'; cases hr'

/-- A setpoint write that the next observation confirms. -/
def confirmedRun : List EngineOp :=
  [.observe (sampleState (sampleStatus 98 0 true) 1 1 0) 0,
   .request { control := .target, desired := .int 102, now := 0 },
   .nextAction 0,
   .sent (sampleAction sampleGoal 1 1 0) 0 none,
   .observe (sampleState (sampleStatus 102 0 true) 1 2 1) 1]

theorem verified_sound_sample :
    ((engineAt .default confirmedRun 5).inflight = none ∧
      ∃ o, (engineAt .default confirmedRun 5).state = some o ∧
        Value.shows (o.value .target) (.int 102) = true ∧
        Beyond .default (sampleAction sampleGoal 1 1 0) 0 o) ∧
      SoundRecord .default
        { action := sampleAction sampleGoal 1 1 0
          ctsAt := none
          sentAt := 0
          result := .verified
          resultingValue := some (.float 102)
          completedAt := some 1 } := by
  have hd : Disciplined .default confirmedRun := by
    intro n action at_ ctsAt hop
    match n, hop with
    | 3, hop =>
      obtain ⟨rfl, rfl, rfl⟩ : action = sampleAction sampleGoal 1 1 0 ∧ at_ = 0 ∧ ctsAt = none := by
        simpa [confirmedRun, eq_comm] using hop
      exact ⟨2, by decide, sampleAction sampleGoal 1 1 0, by decide +kernel, rfl⟩
    | 0, hop | 1, hop | 2, hop | 4, hop => simp [confirmedRun] at hop
    | n + 5, hop => simp [confirmedRun] at hop
  obtain ⟨hgoals, hrecords⟩ := verified_sound .default confirmedRun hd
  obtain ⟨hfree, -, o, ho, -, -, hshow, hbeyond⟩ := hgoals 4 { sampleGoal with stage := .verified }
    ⟨by decide +kernel, rfl, fun before hb => by
      have hbefore : (engineAt .default confirmedRun 4).intent 1 =
        some { sampleGoal with stage := .waitingForState } := by decide +kernel
      rw [Option.some.inj (hb.symm.trans hbefore)]
      decide⟩
  refine ⟨⟨hfree, o, ho, hshow.resolve_right (by simp [sampleGoal]), ?_⟩, ?_⟩
  · exact hbeyond _ 0 ⟨3, by decide, none, rfl, by decide +kernel⟩ rfl
  · exact hrecords 5 _ (by decide +kernel) rfl

end Engine

end BalboaRs485
