import BalboaRs485.Command.Invariant

/-!
# Budgets and deadlines

Every transmission is counted in a counter of its control; a request resets it,
unless it replaces a pending goal.

* `affordable_nextActionLoop`: a goal is handed to the bus while its control has an
  action left, and by `next_action` only (`NotBus`).
* `step_actions`: only a receipt and a request change a counter.
* `BudgetRep`: no counter exceeds the budget, in any state of any run.
* `tick_deadline`: after a `tick` no pending goal is overdue.
* `step_verified_in_time`: no goal is verified at or past its deadline.
-/

namespace BalboaRs485

namespace Engine

variable {cfg : EngineConfig} {ops : List EngineOp} {s s' : Engine}

/-! ## Who hands a goal to the bus -/

/-- The goal is not handed to the bus. -/
def NotBus (_ : Intent) (stage : Stage) : Prop := stage ≠ .waitingForBus

/-- A goal is only handed to the bus while its control has an action left. -/
def Affordable (cfg : EngineConfig) (actions : Dict Control ℕ) (item : Intent) (stage : Stage) :
    Prop :=
  stage = .waitingForBus → (actions.get? item.control).getD 0 < cfg.maxActions

theorem NotBus.affordable {actions : Dict Control ℕ} {item : Intent} {stage : Stage}
    (h : NotBus item stage) : Affordable cfg actions item stage :=
  fun hb => absurd hb h

theorem notBus_update {id : ℕ} {stage : Stage} {reason : Option Reason}
    (h : stage ≠ .waitingForBus) : Updates NotBus s (s.update id stage reason) :=
  .update fun _ _ => h

theorem notBus_closeAmbiguous (s : Engine) (pending : Transaction) (result : Stage)
    (reason : Reason) (now : ℚ) :
    Updates NotBus s (s.closeAmbiguous pending result reason now) := by
  have hclosed : Updates NotBus s { s with
      history := s.history.setLast
        { pending with result, completedAt := some now, reason := some reason }
      resyncEpoch := some pending.action.epoch
      settling := none
      inflight := none } := .same ⟨rfl, rfl, rfl, rfl⟩
  unfold closeAmbiguous
  dsimp only
  split
  · exact hclosed
  · split
    · exact hclosed
    · split
      · exact hclosed.trans (notBus_update (by decide))
      · exact hclosed.trans (notBus_update (by decide))

theorem notBus_tick (cfg : EngineConfig) (s : Engine) (now : ℚ) :
    Updates NotBus s (s.tick cfg now) := by
  have hexp : Updates NotBus s (({ s with now }).expireDeadlines now) := by
    refine (Updates.same (sameGoals_now s now)).trans (Updates.foldl _ (fun e item => ?_) _ _)
    split
    · exact notBus_update (by decide)
    · exact .refl e
  unfold tick
  dsimp only
  split
  · exact hexp
  · split
    · exact hexp.trans (notBus_closeAmbiguous _ _ _ _ _)
    · exact hexp

theorem notBus_suspend (s : Engine) (now : ℚ) : Updates NotBus s (s.suspend now) := by
  have hoff : Updates NotBus s { s with now := now, state := offline s.state } :=
    .same ⟨rfl, rfl, rfl, rfl⟩
  unfold suspend
  dsimp only
  split
  · exact hoff
  · exact hoff.trans (notBus_closeAmbiguous _ _ _ _ _)

theorem notBus_arrive (cfg : EngineConfig) (s : Engine) (o : SpaState) (now : ℚ) :
    Updates NotBus s (s.arrive cfg o now) := by
  have hset : ∀ e : Engine, Updates NotBus e { e with state := some o } :=
    fun e => .same ⟨rfl, rfl, rfl, rfl⟩
  unfold arrive
  dsimp only
  split
  · exact ((notBus_suspend s now).trans (notBus_tick cfg _ now)).trans (hset _)
  · exact ((Updates.same (sameGoals_now s now)).trans (notBus_tick cfg _ now)).trans (hset _)

theorem notBus_observe (cfg : EngineConfig) (hr : IntentRep s) (o : SpaState) (now : ℚ) :
    Updates NotBus s (s.observe cfg o now) := by
  unfold observe
  split
  · exact .same (sameGoals_now s now)
  · have harrive := notBus_arrive cfg s o now
    have hsettle : Updates NotBus s ((s.arrive cfg o now).settle cfg o).2 :=
      harrive.trans (updates_settle cfg _ o)
    split
    · next heq =>
      rw [heq] at hsettle
      exact hsettle
    · next s₁ heq =>
      rw [heq] at hsettle
      have hconfirm : Updates NotBus s₁ (s₁.confirm cfg o now) := by
        refine updates_confirm cfg s₁ o now (fun pending _ _ _ _ _ _ _ => ?_) (hsettle.rep hr)
        unfold NotBus
        simp only [completion]
        split <;> decide
      refine (hsettle.trans hconfirm).trans (updates_verifyLatest _ o ?_ ?_)
      · intro _ _ _ _ _ _ _ _ _ _ hb
        cases hb
      · exact hconfirm.rep (hsettle.rep hr)

theorem notBus_cancel (s : Engine) (control : Control) (now : Option ℚ) :
    Updates NotBus s (s.cancel control now) := by
  unfold cancel
  dsimp only
  split
  · exact .same ⟨rfl, rfl, rfl, rfl⟩
  · split
    · exact (Updates.same (sameGoals_now s _)).trans (notBus_update (by decide))
    · exact .same ⟨rfl, rfl, rfl, rfl⟩

theorem notBus_superseding (cfg : EngineConfig) (s : Engine) (r : Request) :
    Updates NotBus s (s.superseding cfg r) := by
  have htick := notBus_tick cfg s r.now
  unfold superseding
  split
  · exact htick
  · refine htick.trans ?_
    unfold supersede
    split
    · exact .refl _
    · split
      · exact .refl _
      · exact notBus_update (by decide)

/-- A receipt moves its goal on from the bus. -/
theorem notBus_sent (cfg : EngineConfig) (hr : IntentRep s) (action : Action) (at_ : ℚ)
    (ctsAt : Option ℚ) :
    Updates NotBus s (s.sent cfg action at_ ctsAt).2 ∧
      ((s.sent cfg action at_ ctsAt).1 = .ok () →
        (s.sent cfg action at_ ctsAt).2.actions = s.actions.set action.intent.control
          ((s.actions.get? action.intent.control).getD 0 + 1) ∧
        ∀ item, (s.sent cfg action at_ ctsAt).2.intent action.intent.id = some item →
          item.stage ≠ .waitingForBus) := by
  unfold sent
  dsimp only
  split
  · exact ⟨.same (sameGoals_now s at_), fun h => by cases h⟩
  split
  · exact ⟨.same (sameGoals_now s at_), fun h => by cases h⟩
  set sending : Engine := { s with
    now := at_
    inflight := some { action, ctsAt, sentAt := at_ }
    actions := s.actions.set action.intent.control
      ((s.actions.get? action.intent.control).getD 0 + 1)
    history := s.history.append { action, ctsAt, sentAt := at_ } } with hsending
  set onBus := sending.update action.intent.id .sent none with honBus
  set waiting := onBus.update action.intent.id .waitingForState none with hwaiting
  have hsame : Updates NotBus s sending := .same ⟨rfl, rfl, rfl, rfl⟩
  have hon : Updates NotBus s onBus := hsame.trans (notBus_update (by decide))
  have hwait : Updates NotBus s waiting := hon.trans (notBus_update (by decide))
  have htick := notBus_tick cfg waiting at_
  refine ⟨hwait.trans htick, fun _ => ⟨?_, fun item hi => ?_⟩⟩
  · have hcore : SameCore sending waiting :=
      (sameCore_update _ _ _ _).trans (sameCore_update _ _ _ _)
    obtain ⟨-, ⟨ht, -⟩ | ⟨pending, ht, -⟩⟩ := tick_core cfg waiting at_
    · rw [ht.actions, hcore.actions]
    · rw [ht.actions, hcore.actions]
  · obtain ⟨before, hbefore, -, rfl | ⟨_, -, hn⟩⟩ := htick.evolves (hwait.rep hr) hi
    · rw [hwaiting, intent_update (hon.rep hr), if_pos rfl] at hbefore
      obtain ⟨_, -, rfl⟩ := Option.map_eq_some_iff.mp hbefore
      exact Stage.noConfusion
    · exact hn

/-- A goal that `next_action` closes has ended. -/
theorem propose_close {o : SpaState} {spent : ℕ} {now : ℚ} {item : Intent} {control : Control}
    {stage : Stage} {reason : Option Reason}
    (h : propose cfg o spent now item control = .close stage reason) : stage.terminal = true := by
  unfold propose at h
  repeat' split at h
  all_goals cases h
  all_goals rfl

/-- **`next_action` hands a goal to the bus while its control has an action left.** -/
theorem affordable_nextActionLoop (cfg : EngineConfig) (o : SpaState) (now : ℚ)
    (l : List (Control × ℕ)) (hl : ∀ x ∈ l, x ∈ s.latest.entries) (hr : IntentRep s) :
    Updates (Affordable cfg s.actions) s (nextActionLoop cfg o now l s).2 := by
  induction l generalizing s with
  | nil => exact .refl s
  | cons entry l ih =>
    obtain ⟨control, id⟩ := entry
    have hrest : ∀ x ∈ l, x ∈ s.latest.entries := fun x hx => hl x (List.mem_cons_of_mem _ hx)
    unfold nextActionLoop
    split
    · exact ih hrest hr
    · next item hitem =>
      split
      · exact ih hrest hr
      · split
        · exact ih hrest hr
        · next stage reason hp =>
          have hstage : stage ≠ .waitingForBus := by
            intro hb
            have := propose_close hp
            rw [hb] at this
            cases this
          have hcore := sameCore_update s id stage reason
          have hstep := ih (s := s.update id stage reason) (by rwa [hcore.latest])
            (hr.update _ _ _)
          rw [hcore.actions] at hstep
          exact ((notBus_update hstage).mono fun _ _ h => h.affordable).trans hstep
        · next action hp =>
          refine .update fun item' hi _ => ?_
          obtain ⟨old, hold, hc, -⟩ := intent_of_latest hr
            ((Dict.mem_entries _).mp (hl (control, id) List.mem_cons_self))
          rw [Option.some.inj (hi.symm.trans hold), hc]
          exact (propose_act hp).budget

theorem affordable_nextAction (cfg : EngineConfig) (hr : IntentRep s) (now : ℚ) :
    Updates (Affordable cfg (s.tick cfg now).actions) s (s.nextAction cfg now).2 := by
  have htick : Updates (Affordable cfg (s.tick cfg now).actions) s (s.tick cfg now) :=
    (notBus_tick cfg s now).mono fun _ _ h => h.affordable
  refine htick.trans ?_
  unfold nextAction
  dsimp only
  split
  · split
    · exact affordable_nextActionLoop cfg _ now _ (fun _ h => h) (htick.rep hr)
    · exact .refl _
  · exact .refl _

/-! ## The counters -/

theorem tick_actions (cfg : EngineConfig) (s : Engine) (now : ℚ) :
    (s.tick cfg now).actions = s.actions := by
  obtain ⟨-, ⟨h, -⟩ | ⟨pending, h, -⟩⟩ := tick_core cfg s now
  · exact h.actions
  · exact h.actions

theorem observe_actions (cfg : EngineConfig) (s : Engine) (o : SpaState) (now : ℚ) :
    (s.observe cfg o now).actions = s.actions := by
  have harrive : (s.arrive cfg o now).actions = s.actions := by
    obtain ⟨-, ⟨h, -⟩ | ⟨pending, h⟩⟩ := arrive_core cfg s o now
    · exact h.actions
    · exact h.actions
  have hcase := step_case cfg s (.observe o now)
  have heq : (s.step cfg (.observe o now)).1 = s.observe cfg o now := rfl
  rw [heq] at hcase
  generalize s.observe cfg o now = s' at hcase
  cases hcase with
  | ticked _ ht =>
    obtain ⟨-, h | ⟨pending, h⟩⟩ := ht
    · exact h.actions
    · exact h.actions
  | unsettled _ hc => exact (settled_core hc).2.2.2.2.2.trans harrive
  | @settled _ _ s₁ _ _ hc hs' =>
    rw [hs', (sameCore_verifyLatest _ o).actions]
    have hs₁ := (settled_core hc).2.2.2.2.2.trans harrive
    obtain h | ⟨_, -, -, -, -, -, -, -, -, -, h⟩ := confirm_core cfg s₁ o now
    · exact h.actions.trans hs₁
    · exact h.trans hs₁

/-- **What a call does to the counters**: a request that replaces nothing resets the
    one of its control, a receipt increments the one of its control. -/
theorem step_actions (cfg : EngineConfig) (hr : IntentRep s) (op : EngineOp) :
    (s.step cfg op).1.actions = s.actions ∨
      (∃ r item, op = .request r ∧ (s.request cfg r).1 = .ok item ∧
        (s.step cfg op).1.actions = s.actions.set r.control 0) ∨
      ∃ action at_ ctsAt, op = .sent action at_ ctsAt ∧
        (s.sent cfg action at_ ctsAt).1 = .ok () ∧
        (s.step cfg op).1.actions = s.actions.set action.intent.control
          ((s.actions.get? action.intent.control).getD 0 + 1) := by
  cases op with
  | request r =>
    obtain ⟨e, -, h | h⟩ | ⟨item, hok, -⟩ := request_core cfg s r
    · exact Or.inl (by simp only [step, h])
    · exact Or.inl (by simp only [step, h, tick_actions])
    · obtain ⟨_, -, -, -, hact⟩ := request_ok hok
      rw [tick_actions] at hact
      split at hact
      · exact Or.inl hact
      · exact Or.inr (Or.inl ⟨r, item, rfl, hok, hact⟩)
  | cancel control now => exact Or.inl (sameCore_cancel s control now).actions
  | joined id now => exact Or.inl (sameCore_joined s id now).actions
  | observe o now => exact Or.inl (observe_actions cfg s o now)
  | nextAction now =>
    exact Or.inl ((nextAction_core cfg s now).actions.trans (tick_actions cfg s now))
  | sent action at_ ctsAt =>
    obtain ⟨e, -, hcore⟩ | ⟨hok, -⟩ := sent_core cfg s action at_ ctsAt
    · exact Or.inl hcore.actions
    · exact Or.inr (Or.inr ⟨action, at_, ctsAt, rfl, hok,
        ((notBus_sent cfg hr action at_ ctsAt).2 hok).1⟩)
  | tick now => exact Or.inl (tick_actions cfg s now)
  | suspend now =>
    obtain ⟨-, ⟨-, -, -, -, -, -, -, h⟩ | ⟨pending, h⟩⟩ := suspend_core s now
    · exact Or.inl h
    · exact Or.inl h.actions

/-- No control has spent more than its budget, and a goal that waits for the bus has
    an action left. -/
structure BudgetRep (cfg : EngineConfig) (s : Engine) : Prop where
  spent : ∀ control, (s.actions.get? control).getD 0 ≤ cfg.maxActions
  waiting : ∀ id item, s.intent id = some item → item.stage = .waitingForBus →
    (s.actions.get? item.control).getD 0 < cfg.maxActions

theorem budgetRep_init (cfg : EngineConfig) : BudgetRep cfg {} where
  spent _ := Nat.zero_le _
  waiting _ _ h := by cases h

/-- Updates that keep the counters. -/
theorem BudgetRep.updates (h : BudgetRep cfg s) (hr : IntentRep s)
    (hu : Updates (Affordable cfg s.actions) s s') (ha : s'.actions = s.actions) :
    BudgetRep cfg s' := by
  refine ⟨fun control => by rw [ha]; exact h.spent control, fun id item hi hb => ?_⟩
  rw [ha]
  obtain ⟨before, hbefore, hg, rfl | ⟨old, hold, hw⟩⟩ := hu.evolves hr hi
  · exact h.waiting id item hbefore hb
  · rw [intent_control (hg.trans hold.symm)]
    exact hw hb

theorem BudgetRep.request (h : BudgetRep cfg s) (hr : IntentRep s) (r : Request) :
    BudgetRep cfg (s.request cfg r).2 := by
  have htick : BudgetRep cfg (s.tick cfg r.now) :=
    h.updates hr ((notBus_tick cfg s r.now).mono fun _ _ hn => hn.affordable)
      (tick_actions cfg s r.now)
  obtain ⟨e, -, heq | heq⟩ | ⟨item, hok, -⟩ := request_core cfg s r
  · rw [heq]
    exact h
  · rw [heq]
    exact htick
  · obtain ⟨e, _, herr, -⟩ | ⟨new, hnew, -, -, -, hst, -, hint, hrep, -, hrest, -⟩ :=
      request_retires cfg r hr
    · rw [hok] at herr
      cases herr
    · rw [hok] at hnew
      cases hnew
      obtain ⟨_, -, -, -, hact⟩ := request_ok hok
      rw [tick_actions] at hact
      -- a reset counter affords an action
      have hle : ∀ control, ((s.request cfg r).2.actions.get? control).getD 0 ≤
          (s.actions.get? control).getD 0 := by
        intro control
        rw [hact]
        split
        · exact le_rfl
        · rw [Dict.get?_set]
          split
          · exact Nat.zero_le _
          · exact le_rfl
      refine ⟨fun control => (hle control).trans (h.spent control), fun id x hx hb => ?_⟩
      by_cases hid : id = item.id
      · subst hid
        rw [Option.some.inj (hx.symm.trans hint), hst] at hb
        cases hb
      · obtain ⟨before, hbefore, hg, rfl | ⟨_, -, hn⟩⟩ :=
          (notBus_superseding cfg s r).evolves hr (hrest id x hx hid)
        · exact (hle x.control).trans_lt (h.waiting id x hbefore hb)
        · exact absurd hb hn

theorem BudgetRep.sent (h : BudgetRep cfg s) (hr : IntentRep s) (hp : Pending s) (action : Action)
    (at_ : ℚ) (ctsAt : Option ℚ) : BudgetRep cfg (s.sent cfg action at_ ctsAt).2 := by
  obtain ⟨hu, hsent⟩ := notBus_sent cfg hr action at_ ctsAt
  obtain ⟨e, -, hcore⟩ | ⟨hok, -, hv, -⟩ := sent_core cfg s action at_ ctsAt
  · exact h.updates hr (hu.mono fun _ _ hn => hn.affordable) hcore.actions
  · obtain ⟨hact, hleft⟩ := hsent hok
    obtain ⟨-, hlat, ⟨current, hcur, hbus⟩, -⟩ := receiptValid_iff.mp hv
    obtain ⟨item, hitem, hc, -⟩ := intent_of_latest hr hlat
    have hroom : (s.actions.get? action.intent.control).getD 0 < cfg.maxActions := by
      rw [← hc, ← Option.some.inj (hcur.symm.trans hitem)]
      exact h.waiting _ current hcur hbus
    constructor
    · intro control
      rw [hact, Dict.get?_set]
      split
      · exact hroom
      · exact h.spent control
    · intro id x hx hb
      obtain ⟨before, hbefore, -, rfl | ⟨_, -, hn⟩⟩ := hu.evolves hr hx
      · -- the only goal of this control that could wait for the bus was the one sent
        have hne : x.control ≠ action.intent.control := by
          intro heq
          have hlat' := hp id x hbefore (by rw [hb]; rfl)
          rw [heq] at hlat'
          obtain rfl := Option.some.inj (hlat.symm.trans hlat')
          exact hleft x hx hb
        rw [hact, Dict.get?_set_of_ne _ _ hne]
        exact h.waiting id x hbefore hb
      · exact absurd hb hn

theorem step_budgetRep (h : BudgetRep cfg s) (hr : IntentRep s) (hp : Pending s) (op : EngineOp) :
    BudgetRep cfg (s.step cfg op).1 := by
  have hquiet : ∀ {e : Engine}, Updates NotBus s e → e.actions = s.actions → BudgetRep cfg e :=
    fun hu ha => h.updates hr (hu.mono fun _ _ hn => hn.affordable) ha
  cases op with
  | request r => exact h.request hr r
  | cancel control now =>
    exact hquiet (notBus_cancel s control now) (sameCore_cancel s control now).actions
  | joined id now =>
    have hsame : SameGoals s (s.joined id now) := by
      unfold joined
      split
      · exact .refl s
      · split
        · exact .refl s
        · exact ⟨rfl, rfl, rfl, rfl⟩
    exact hquiet (.same hsame) (sameCore_joined s id now).actions
  | observe o now => exact hquiet (notBus_observe cfg hr o now) (observe_actions cfg s o now)
  | nextAction now =>
    have hu := affordable_nextAction cfg hr now
    rw [tick_actions] at hu
    exact h.updates hr hu
      ((nextAction_core cfg s now).actions.trans (tick_actions cfg s now))
  | sent action at_ ctsAt => exact h.sent hr hp action at_ ctsAt
  | tick now => exact hquiet (notBus_tick cfg s now) (tick_actions cfg s now)
  | suspend now =>
    refine hquiet (notBus_suspend s now) ?_
    obtain ⟨-, ⟨-, -, -, -, -, -, -, ha⟩ | ⟨pending, ha⟩⟩ := suspend_core s now
    · exact ha
    · exact ha.actions

theorem stateAt_budgetRep (cfg : EngineConfig) (ops : List EngineOp) (n : ℕ) :
    BudgetRep cfg (engineAt cfg ops n) := by
  refine ((engineMachine cfg).stateAt_invariant
    (P := fun s => IntentRep s ∧ Pending s ∧ BudgetRep cfg s)
    ⟨intentRep_init, pending_init, budgetRep_init cfg⟩ (fun s op ⟨hr, hp, hb⟩ => ?_) ops n).2.2
  have hone : Calls cfg (fun _ => True) s (s.step cfg op).1 := .one op trivial
  obtain ⟨hr', hp'⟩ := hone.rep hr hp
  exact ⟨hr', hp', step_budgetRep hb hr hp op⟩

/-! ## Deadlines -/

/-- The loop of `tick` ends every overdue goal it meets. -/
theorem expire_loop_ended (now : ℚ) {item : Intent} (hover : overdue now item = true)
    (l : List Intent) (hr : IntentRep s) (hl : (l.map Intent.id).Nodup)
    (hs : ∀ x ∈ l, s.intent x.id = some x) (hm : item ∈ l) :
    Ended (l.foldl (fun s x =>
      if overdue now x then s.update x.id .failed (some .deadlineExpired) else s) s) item.id := by
  induction l generalizing s with
  | nil => cases hm
  | cons x l ih =>
    simp only [List.map_cons, List.nodup_cons] at hl
    rw [List.foldl_cons]
    -- the rest of the list is stored as it was
    have hrest : ∀ stage reason, ∀ y ∈ l, (s.update x.id stage reason).intent y.id = some y := by
      intro stage reason y hy
      rw [intent_update hr, if_neg]
      · exact hs y (List.mem_cons_of_mem _ hy)
      · exact fun heq => hl.1 (heq ▸ List.mem_map_of_mem hy)
    rcases List.mem_cons.mp hm with rfl | hm
    · rw [if_pos hover]
      have hended : Ended (s.update item.id .failed (some .deadlineExpired)) item.id := by
        intro y hy
        rw [intent_update hr, if_pos rfl] at hy
        obtain ⟨_, -, rfl⟩ := Option.map_eq_some_iff.mp hy
        rfl
      refine hended.updates (hr.update _ _ _) (updates_expire_loop now (fun y hy => ?_) l _
        (hr.update _ _ _) hl.2 (hrest _ _))
      exact ends_of_live (overdue_iff.mp hy).1
    · split
      · exact ih (hr.update _ _ _) hl.2 (hrest _ _) hm
      · exact ih hr hl.2 (fun y hy => hs y (List.mem_cons_of_mem _ hy)) hm

/-- **After a `tick` no pending goal is overdue.** -/
theorem tick_deadline (cfg : EngineConfig) (hr : IntentRep s) (hp : Pending s) {now : ℚ} {id : ℕ}
    {item : Intent} (hi : (s.tick cfg now).intent id = some item)
    (hlive : item.stage.terminal = false) {d : ℚ} (hd : item.deadline = some d) : now < d := by
  have hsame := sameGoals_now s now
  have hr₀ := hsame.rep hr
  have hp₀ : Pending { s with now } := hp
  have hexp : Updates Ends { s with now } (({ s with now }).expireDeadlines now) :=
    (updates_expireDeadlines hr₀ now).mono fun _ _ hq => hq.ends
  have hrest : Updates Ends (({ s with now }).expireDeadlines now) (s.tick cfg now) := by
    unfold tick
    dsimp only
    split
    · exact .refl _
    · split
      · exact (updates_closeAmbiguous _ _ _ _).mono fun _ _ hq => hq.ends
      · exact .refl _
  obtain ⟨mid, hmid, hgm, hlivem⟩ := hrest.was_pending (hexp.rep hr₀) hi hlive
  obtain ⟨first, hfirst, hgf, hlivef⟩ := hexp.was_pending hr₀ hmid hlivem
  have hdf : first.deadline = some d := by
    rw [← goal_deadline hgf, ← goal_deadline hgm, hd]
  by_contra hle
  have hover : overdue now first = true := overdue_iff.mpr ⟨hlivef, d, hdf, not_lt.mp hle⟩
  -- a pending goal is active, so the loop meets it
  have hactive : s.active.get? id = some first := by
    obtain ⟨x, hx, -⟩ := hr₀.latest _ _ (hp₀ id first hfirst hlivef)
    rw [show s.active.get? id = some x from hx, ← hfirst, intent_of_active hx]
  have hended : Ended (({ s with now }).expireDeadlines now) first.id :=
    expire_loop_ended now hover s.active.values hr₀ (active_values hr₀).1 (active_values hr₀).2
      ((Dict.mem_values _).mpr ⟨id, hactive⟩)
  rw [hr.own id first hactive] at hended
  rw [hended mid hmid] at hlivem
  cases hlivem

/-! ## Verification in time -/

/-- The time a call is made at. -/
def clock : EngineOp → Option ℚ
  | .request r => some r.now
  | .cancel _ now => now
  | .joined _ now => some now
  | .observe _ now => some now
  | .nextAction now => some now
  | .sent _ at_ _ => some at_
  | .tick now => some now
  | .suspend now => some now

theorem Updates.verified_before (h : Updates Quiet s s') (hr : IntentRep s) {id : ℕ}
    {item : Intent} (hi : s'.intent id = some item) (hv : item.stage = .verified) :
    ∃ before, s.intent id = some before ∧ before.stage = .verified := by
  obtain ⟨before, hbefore, -, rfl | ⟨_, -, hq⟩⟩ := h.evolves hr hi
  · exact ⟨item, hbefore, hv⟩
  · exact absurd hv hq.1

/-- A goal that is verified after a `tick` was not overdue. -/
theorem verified_in_time {e : Engine} (hr : IntentRep s) (hq : Updates Quiet s e)
    (hk : Updates Keeps e s') {now : ℚ}
    (hdue : ∀ id item, e.intent id = some item → item.stage.terminal = false →
      ∀ d, item.deadline = some d → now < d) {id : ℕ} {item : Intent}
    (hi : s'.intent id = some item) (hv : item.stage = .verified)
    (hnot : ∀ before, s.intent id = some before → before.stage ≠ .verified) {d : ℚ}
    (hd : item.deadline = some d) : now < d := by
  obtain ⟨mid, hmid, hg, -⟩ := hk.evolves (hq.rep hr) hi
  by_contra hle
  have hended : mid.stage.terminal = true := by
    by_contra hlive
    exact hle (hdue id mid hmid (by simpa using hlive) d (by rw [← goal_deadline hg, hd]))
  have hstage := hk.stage_kept (hq.rep hr) hmid hi hended
  obtain ⟨before, hbefore, hvb⟩ := hq.verified_before hr hmid (by rw [← hstage, hv])
  exact hnot before hbefore hvb

/-- Only `observe` and `next_action` verify a goal. -/
theorem step_verified_before (cfg : EngineConfig) (hr : IntentRep s) {op : EngineOp}
    (hobserve : ∀ o now, op ≠ .observe o now) (hnext : ∀ now, op ≠ .nextAction now) {id : ℕ}
    {item : Intent} (hi : (s.step cfg op).1.intent id = some item) (hv : item.stage = .verified) :
    ∃ before, s.intent id = some before ∧ before.stage = .verified := by
  have hquiet : Updates Quiet s (s.step cfg op).1 →
      ∃ before, s.intent id = some before ∧ before.stage = .verified :=
    fun hq => hq.verified_before hr hi hv
  cases op with
  | request r =>
    obtain ⟨e, _, -, hs', hq⟩ | ⟨new, _, -, hq, -, -, -, hst, -, hnew, -, -, hrest, -⟩ :=
      request_intents cfg r hr
    · refine hquiet ?_
      rw [show (s.step cfg (.request r)).1 = _ from hs']
      exact hq
    · by_cases hid : id = new.id
      · subst hid
        rw [Option.some.inj (Eq.trans (Eq.symm hi) hnew), hst] at hv
        cases hv
      · exact hq.verified_before hr (hrest id item hi hid) hv
  | cancel control now => exact hquiet (updates_cancel s control now)
  | joined id' now => exact hquiet (updates_joined s id' now)
  | observe o now => exact absurd rfl (hobserve o now)
  | nextAction now => exact absurd rfl (hnext now)
  | sent action at_ ctsAt => exact hquiet (updates_sent hr cfg action at_ ctsAt)
  | tick now => exact hquiet (updates_tick hr cfg now)
  | suspend now => exact hquiet (updates_suspend s now)

/-- **No call verifies a goal at or past its deadline.** -/
theorem step_verified_in_time (cfg : EngineConfig) (hr : IntentRep s) (hp : Pending s)
    {op : EngineOp} {now : ℚ} (hnow : clock op = some now) {id : ℕ} {item : Intent}
    (hi : (s.step cfg op).1.intent id = some item) (hv : item.stage = .verified)
    (hnot : ∀ before, s.intent id = some before → before.stage ≠ .verified) {d : ℚ}
    (hd : item.deadline = some d) : now < d := by
  have hquiet : Updates Quiet s (s.step cfg op).1 → now < d := by
    intro hq
    obtain ⟨before, hbefore, hvb⟩ := hq.verified_before hr hi hv
    exact absurd hvb (hnot before hbefore)
  have hother : (∀ o t, op ≠ .observe o t) → (∀ t, op ≠ .nextAction t) → now < d := by
    intro hobserve hnext
    obtain ⟨before, hbefore, hvb⟩ := step_verified_before cfg hr hobserve hnext hi hv
    exact absurd hvb (hnot before hbefore)
  cases op with
  | request r => exact hother (by simp) (by simp)
  | cancel control t => exact hother (by simp) (by simp)
  | joined id' t => exact hother (by simp) (by simp)
  | sent action at_ ctsAt => exact hother (by simp) (by simp)
  | tick t => exact hother (by simp) (by simp)
  | suspend t => exact hother (by simp) (by simp)
  | nextAction t =>
    cases hnow
    have htick := updates_tick hr cfg now
    refine verified_in_time hr htick ?_ (fun k x hx hlive d hd => tick_deadline cfg hr hp hx hlive hd)
      hi hv hnot hd
    show Updates Keeps (s.tick cfg now) (s.nextAction cfg now).2
    unfold nextAction
    dsimp only
    split
    · split
      · exact updates_nextActionLoop cfg _ now (fun _ _ hlive _ => keeps_of_live hlive) _ _
          (fun _ hx => hx) (htick.rep hr)
      · exact .refl _
    · exact .refl _
  | observe o t =>
    cases hnow
    by_cases hst : s.stale o = true
    · refine hquiet ?_
      have heq : (s.step cfg (.observe o now)).1 = { s with now } := by
        simp only [step, observe, hst, if_true]
      rw [heq]
      exact .same (sameGoals_now s now)
    -- the arrival ends with a `tick`
    have harrive := updates_arrive hr cfg o now
    have hdue : ∀ id item, (s.arrive cfg o now).intent id = some item →
        item.stage.terminal = false → ∀ d, item.deadline = some d → now < d := by
      intro k x hx hlive d hd
      unfold arrive at hx
      dsimp only at hx
      split at hx
      · have hsus := updates_suspend s now
        have hpending := (hsus.mono fun _ _ hq => hq.ends).pending hr hp
        exact tick_deadline cfg (hsus.rep hr) hpending hx hlive hd
      · have hpending : Pending { s with now } := hp
        exact tick_deadline cfg ((sameGoals_now s now).rep hr) hpending hx hlive hd
    have hcase := step_case cfg s (.observe o now)
    generalize (s.step cfg (.observe o now)).1 = s' at hcase hquiet hi
    cases hcase with
    | ticked ha => simp [accepted, Bool.eq_false_of_not_eq_true hst] at ha
    | unsettled _ hc => exact hquiet (harrive.trans (.same (settled_goals hc)))
    | @settled _ _ s₁ _ _ hc hs' =>
      have hq : Updates Quiet s s₁ := harrive.trans (.same (settled_goals hc))
      have hconfirm : Updates Keeps s₁ (s₁.confirm cfg o now) :=
        updates_confirm cfg s₁ o now (fun _ _ _ _ _ hlive _ _ => keeps_of_live hlive) (hq.rep hr)
      refine verified_in_time hr hq (hconfirm.trans ?_)
        (fun k x hx => hdue k x (by rw [← (settled_goals hc).intent, hx])) hi hv hnot hd
      rw [hs']
      exact updates_verifyLatest _ o (fun _ _ _ _ _ _ hlive _ _ _ => keeps_of_live hlive)
        (hconfirm.rep (hq.rep hr))

end Engine

end BalboaRs485
