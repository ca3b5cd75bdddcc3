import BalboaRs485.Command.Invariant

/-!
# Reminder acknowledgements

An acknowledgement clears whatever reminder the panel shows, so one that is sent a
second time would clear the next reminder unseen. The engine therefore ends the
goal at every exit of its transaction instead of putting it back in the queue.

* `AckRep`: the acknowledgement is in flight, or it has ended.
* `AckRep.closeAmbiguous`, `AckRep.confirm`: the exits of the transaction.
* `step_ackRep`, `ackRep_from`: one call, and all calls after the transmission.
* `reminder_once`: at most one transmission, for the reminder it was requested for.
-/

namespace BalboaRs485

namespace Engine

variable {cfg : EngineConfig} {ops : List EngineOp} {s s' : Engine} {id : ℕ}

/-! ## The exits of the transaction -/

/-- Goal `id` is an acknowledgement that is in flight or has ended. -/
structure AckRep (id : ℕ) (s : Engine) : Prop where
  rep : IntentRep s
  le : id ≤ s.counter
  control : ∀ item, s.intent id = some item → item.control = .ackReminder
  settled : (∃ pending, s.inflight = some pending ∧ pending.action.intent.id = id ∧
      pending.action.intent.control = .ackReminder) ∨ Ended s id

theorem AckRep.control_updates (h : AckRep id s) (hu : Updates Ends s s') :
    ∀ item, s'.intent id = some item → item.control = .ackReminder := by
  intro item' hi'
  obtain ⟨item, hi, hg, -⟩ := hu.evolves h.rep hi'
  rw [intent_control hg]
  exact h.control item hi

/-- Updates that leave the transaction in flight alone. -/
theorem AckRep.updates (h : AckRep id s) (hu : Updates Ends s s') (hi : s'.inflight = s.inflight) :
    AckRep id s' := by
  refine ⟨hu.rep h.rep, by rw [hu.counter]; exact h.le, h.control_updates hu, ?_⟩
  rw [hi]
  exact h.settled.imp_right fun he => he.updates h.rep hu

/-- Updates after which the goal has ended. -/
theorem AckRep.of_ended (h : AckRep id s) (hu : Updates Ends s s') (he : Ended s' id) :
    AckRep id s' :=
  ⟨hu.rep h.rep, by rw [hu.counter]; exact h.le, h.control_updates hu, Or.inr he⟩

/-- The transaction in flight is the one of the acknowledgement, or that has ended. -/
theorem AckRep.cases_of_inflight (h : AckRep id s) {pending : Transaction}
    (hp : s.inflight = some pending) :
    (pending.action.intent.id = id ∧ pending.action.intent.control = .ackReminder) ∨
      Ended s id := by
  refine h.settled.imp_left ?_
  rintro ⟨q, hq, hid, hc⟩
  obtain rfl := Option.some.inj (hp.symm.trans hq)
  exact ⟨hid, hc⟩

/-- **An ambiguous end is the end of an acknowledgement.** -/
theorem AckRep.closeAmbiguous (h : AckRep id s) {pending : Transaction}
    (hp : s.inflight = some pending) (result : Stage) (reason : Reason) (now : ℚ) :
    AckRep id (s.closeAmbiguous pending result reason now) := by
  have hu : Updates Ends s (s.closeAmbiguous pending result reason now) :=
    (updates_closeAmbiguous s pending reason now).mono fun _ _ hq => hq.ends
  refine h.of_ended hu ?_
  rcases h.cases_of_inflight hp with ⟨rfl, -⟩ | he
  · intro item hi
    unfold Engine.closeAmbiguous at hi
    dsimp only at hi
    set closed : Engine := { s with
      history := s.history.setLast
        { pending with result, completedAt := some now, reason := some reason }
      resyncEpoch := some pending.action.epoch
      settling := none
      inflight := none } with hclosed
    have hsame : SameGoals s closed := ⟨rfl, rfl, rfl, rfl⟩
    cases hcur : closed.intent pending.action.intent.id with
    | none =>
      simp only [hcur] at hi
      cases hi
    | some current =>
      have hack : current.control = .ackReminder := h.control current (by rw [← hsame.intent, hcur])
      simp only [hcur, hack, if_true] at hi
      split at hi
      · next ht =>
        rw [Option.some.inj (hi.symm.trans hcur)]
        exact ht
      · rw [intent_update (hsame.rep h.rep), if_pos rfl, hcur] at hi
        cases hi
        rfl
  · exact he.updates h.rep hu

theorem AckRep.tick (h : AckRep id s) (cfg : EngineConfig) (now : ℚ) :
    AckRep id (s.tick cfg now) := by
  have hexp : AckRep id (({ s with now }).expireDeadlines now) := by
    refine h.updates ?_ (sameCore_expireDeadlines { s with now } now).inflight
    exact (Updates.same (sameGoals_now s now)).trans
      ((updates_expireDeadlines ((sameGoals_now s now).rep h.rep) now).mono fun _ _ hq => hq.ends)
  unfold Engine.tick
  dsimp only
  split
  · exact hexp
  · next pending hp =>
    split
    · exact hexp.closeAmbiguous hp _ _ _
    · exact hexp

theorem AckRep.suspend (h : AckRep id s) (now : ℚ) : AckRep id (s.suspend now) := by
  have hoff : AckRep id { s with now := now, state := offline s.state } :=
    h.updates (.same ⟨rfl, rfl, rfl, rfl⟩) rfl
  unfold Engine.suspend
  dsimp only
  split
  · exact hoff
  · next pending hp => exact hoff.closeAmbiguous hp _ _ _

theorem AckRep.arrive (h : AckRep id s) (cfg : EngineConfig) (o : SpaState) (now : ℚ) :
    AckRep id (s.arrive cfg o now) := by
  have hset : ∀ {e : Engine}, AckRep id e → AckRep id { e with state := some o } :=
    fun he => he.updates (.same ⟨rfl, rfl, rfl, rfl⟩) rfl
  unfold Engine.arrive
  dsimp only
  split
  · exact hset ((h.suspend now).tick cfg now)
  · have hnow : AckRep id { s with now } := h.updates (.same (sameGoals_now s now)) rfl
    exact hset (hnow.tick cfg now)

/-- The goal of a completed acknowledgement ends with its record. -/
theorem completion_terminal (pending : Transaction) (o : SpaState) (now : ℚ) :
    (completion pending o now).result.terminal = true := by
  simp only [completion]
  split <;> rfl

/-- **A confirmation is the end of an acknowledgement.** -/
theorem AckRep.confirm (h : AckRep id s) (cfg : EngineConfig) (o : SpaState) (now : ℚ) :
    AckRep id (s.confirm cfg o now) := by
  have hu : Updates Ends s (s.confirm cfg o now) :=
    updates_confirm cfg s o now (fun _ _ _ _ _ hlive _ _ => ends_of_live hlive) h.rep
  obtain hcore | ⟨pending, hp, hcomp, -⟩ := confirm_core cfg s o now
  · exact h.updates hu hcore.inflight
  · refine h.of_ended hu ?_
    rcases h.cases_of_inflight hp with ⟨rfl, hack⟩ | he
    · intro item hi
      unfold Engine.confirm at hi
      simp only [hp, hcomp, not_true_eq_false, if_false, hack, or_true, if_true] at hi
      set done : Engine := { s with
        history := s.history.setLast (completion pending o now), inflight := none } with hdone
      have hsame : SameGoals s done := ⟨rfl, rfl, rfl, rfl⟩
      have hrep := hsame.rep h.rep
      cases hcur : done.intent pending.action.intent.id with
      | none =>
        simp only [hcur] at hi
        cases hi
      | some current =>
        simp only [hcur] at hi
        split at hi
        · next ht =>
          rw [Option.some.inj (hi.symm.trans hcur)]
          exact ht
        · rw [(intent_some hrep hcur).1, intent_update hrep, if_pos rfl, hcur] at hi
          cases hi
          exact completion_terminal pending o now
    · exact he.updates h.rep hu

theorem AckRep.observe (h : AckRep id s) (cfg : EngineConfig) (o : SpaState) (now : ℚ) :
    AckRep id (s.observe cfg o now) := by
  unfold Engine.observe
  split
  · exact h.updates (.same (sameGoals_now s now)) rfl
  · have hsettle : ∀ {b : Bool} {s₁ : Engine},
        (s.arrive cfg o now).settle cfg o = (b, s₁) → AckRep id s₁ := by
      intro b s₁ heq
      have hcase := settle_case cfg (s.arrive cfg o now) o
      have hu : Updates Ends (s.arrive cfg o now) ((s.arrive cfg o now).settle cfg o).2 :=
        updates_settle cfg _ o
      rw [heq] at hcase hu
      exact (h.arrive cfg o now).updates hu (settled_core hcase).2.2.1
    split
    · next heq => exact hsettle heq
    · next s₁ heq =>
      have hc := (hsettle heq).confirm cfg o now
      refine hc.updates ?_ (sameCore_verifyLatest _ o).inflight
      exact updates_verifyLatest _ o (fun _ _ _ _ _ _ hlive _ _ _ => ends_of_live hlive) hc.rep

theorem AckRep.request (h : AckRep id s) (cfg : EngineConfig) (r : Request) :
    AckRep id (s.request cfg r).2 := by
  obtain ⟨e, herr, heq | heq⟩ | ⟨item, hok, -, hid, -, -, hi, -⟩ := request_core cfg s r
  · rw [heq]
    exact h
  · rw [heq]
    exact h.tick cfg r.now
  · have ht := h.tick cfg r.now
    obtain ⟨e, _, herr, -⟩ | ⟨new, hnew, hid', -, -, -, -, -, hrep, hcount, hrest, -⟩ :=
      request_retires cfg r h.rep
    · rw [hok] at herr
      cases herr
    · rw [hok] at hnew
      cases hnew
      have hu : Updates Ends (s.tick cfg r.now) (s.superseding cfg r) :=
        (updates_superseding cfg s r).mono fun _ _ hq => hq.ends
      -- the new goal is another one
      have hold : ∀ x, (s.request cfg r).2.intent id = some x →
          (s.superseding cfg r).intent id = some x := by
        intro x hx
        refine hrest id x hx ?_
        have := h.le
        omega
      refine ⟨hrep, ?_, fun x hx => ht.control_updates hu x (hold x hx), ?_⟩
      · have := h.le
        omega
      · rw [hi]
        exact ht.settled.imp_right fun he x hx => he.updates ht.rep hu x (hold x hx)

theorem step_ackRep (cfg : EngineConfig) (h : AckRep id s) (op : EngineOp) :
    AckRep id (s.step cfg op).1 := by
  cases op with
  | request r => exact h.request cfg r
  | cancel control now =>
    exact h.updates ((updates_cancel s control now).mono fun _ _ hq => hq.ends)
      (sameCore_cancel s control now).inflight
  | joined id' now =>
    exact h.updates ((updates_joined s id' now).mono fun _ _ hq => hq.ends)
      (sameCore_joined s id' now).inflight
  | observe o now => exact h.observe cfg o now
  | nextAction now =>
    have ht := h.tick cfg now
    have hcore := nextAction_core cfg s now
    refine ht.updates ?_ hcore.inflight
    show Updates Ends (s.tick cfg now) (s.nextAction cfg now).2
    unfold nextAction
    dsimp only
    split
    · split
      · exact updates_nextActionLoop cfg _ now (fun _ _ hlive _ => ends_of_live hlive) _ _
          (fun _ hx => hx) ht.rep
      · exact .refl _
    · exact .refl _
  | sent action at_ ctsAt =>
    have hu : Updates Ends s (s.sent cfg action at_ ctsAt).2 :=
      (updates_sent h.rep cfg action at_ ctsAt).mono fun _ _ hq => hq.ends
    obtain ⟨e, -, hcore⟩ | ⟨-, hfree, -⟩ := sent_core cfg s action at_ ctsAt
    · exact h.updates hu hcore.inflight
    · -- the slot was free, so the acknowledgement had ended
      refine h.of_ended hu ?_
      rcases h.settled with ⟨pending, hp, -⟩ | he
      · rw [hfree] at hp
        cases hp
      · exact he.updates h.rep hu
  | tick now => exact h.tick cfg now
  | suspend now => exact h.suspend now

/-! ## Transmissions -/

/-- After the transmission of an acknowledgement it is in flight or has ended. -/
theorem ackRep_from {i n : ℕ} {action : Action} (h : Transmits cfg ops i action)
    (hack : action.intent.control = .ackReminder) (hin : i < n) :
    AckRep action.intent.id (engineAt cfg ops n) := by
  refine (engineMachine cfg).stateAt_invariant_from (P := AckRep action.intent.id) (m := i + 1) ?_
    (fun s op hs => step_ackRep cfg hs op) n hin
  obtain ⟨-, -, ⟨current, hcur, -, hc⟩, pending, hp, rfl⟩ := h.spec
  have hr := stateAt_rep cfg ops i
  refine ⟨stateAt_rep cfg ops _, ?_, fun item hi => ?_, Or.inl ⟨pending, hp, rfl, hack⟩⟩
  · exact (intent_le hr hcur).trans (counter_mono cfg ops i.le_succ)
  · rw [intent_control (goal_mono hcur i.le_succ hi), hc, hack]

/-- **An acknowledgement is never repeated.** For every reminder acknowledgement that
    is requested:

    * at most one call transmits it;
    * it is handed out only while the observed reminder code is the one observed
      when it was requested;
    * once it was transmitted and its transaction is not in flight any more, it has
      ended. -/
theorem reminder_once (cfg : EngineConfig) (ops : List EngineOp) :
    (∀ m item i j action action', Creates cfg ops m item → item.control = .ackReminder →
      Transmits cfg ops i action → action.intent.id = item.id →
      Transmits cfg ops j action' → action'.intent.id = item.id → i = j) ∧
    (∀ m item n action, Creates cfg ops m item → item.control = .ackReminder →
      (engineMachine cfg).outAt ops n = some (.action (some action)) →
      action.intent.id = item.id →
      ∃ o o', (engineAt cfg ops m).state = some o ∧ (engineAt cfg ops n).state = some o' ∧
        item.reminderCode = o.status.reminderCode ∧
        o'.status.reminderCode = item.reminderCode) ∧
    ∀ m item i n action, Creates cfg ops m item → item.control = .ackReminder →
      Transmits cfg ops i action → action.intent.id = item.id → i < n →
      (∀ pending, (engineAt cfg ops n).inflight = some pending →
        pending.action.intent.id ≠ item.id) →
      ∃ item', lastVersion cfg ops item.id n = some item' ∧ item'.stage.terminal = true := by
  have hcontrol : ∀ {m item i action}, Creates cfg ops m item → item.control = .ackReminder →
      Transmits cfg ops i action → action.intent.id = item.id →
      action.intent.control = .ackReminder := by
    intro m item i action hc hack ht hid
    obtain ⟨-, -, ⟨current, hcur, -, hctl⟩, -⟩ := ht.spec
    rw [hid] at hcur
    rw [← hctl, intent_control (hc.goal hcur).2, hack]
  -- the second transmission would find its goal waiting for the bus
  have honce : ∀ {m item i j action action'}, Creates cfg ops m item →
      item.control = .ackReminder → Transmits cfg ops i action → action.intent.id = item.id →
      Transmits cfg ops j action' → action'.intent.id = item.id → ¬ i < j := by
    intro m item i j action action' hc hack ht hid ht' hid' hij
    have hrep := ackRep_from ht (hcontrol hc hack ht hid) hij
    obtain ⟨hfree, -, ⟨current, hcur, hbus, -⟩, -⟩ := ht'.spec
    rcases hrep.settled with ⟨pending, hp, -⟩ | he
    · rw [hfree] at hp
      cases hp
    · have := he current (by rw [hid, ← hid']; exact hcur)
      rw [hbus] at this
      cases this
  refine ⟨fun m item i j action action' hc hack ht hid ht' hid' => ?_,
    fun m item n action hc hack hout hid => ?_,
    fun m item i n action hc hack ht hid hin hgone => ?_⟩
  · have h₁ := honce hc hack ht hid ht' hid'
    have h₂ := honce hc hack ht' hid' ht hid
    omega
  · obtain ⟨r, hop, hok⟩ := hc.request
    obtain ⟨o, hadmitted, -, hcode, -⟩ := request_ok hok
    have hr : r.control = .ackReminder := by
      rw [← (request_new hok).1, hack]
    obtain ⟨now, hop', hsome⟩ := outAt_action hout
    obtain ⟨o', spent, ho', -, hp, -⟩ := nextAction_intent (stateAt_rep cfg ops n) hsome
    have hafter := intent_handed hop' hsome
    rw [hid] at hafter
    have hg := goal_eq ((hc.goal hafter).2)
    refine ⟨o, o', ?_, ho', ?_, ?_⟩
    · rw [← admitOn_state hadmitted, (tick_core cfg _ r.now).1]
    · rw [hcode, if_pos hr]
    · have hctl : action.intent.control = .ackReminder := hg.2.1.trans hack
      exact (hp.reminder hctl).trans hg.2.2.2
  · have hrep := ackRep_from ht (hcontrol hc hack ht hid) hin
    rw [hid] at hrep
    have he : Ended (engineAt cfg ops n) item.id := by
      rcases hrep.settled with ⟨pending, hp, hpid, -⟩ | he
      · exact absurd hpid (hgone pending hp)
      · exact he
    have hmn : m < n := by
      obtain ⟨-, -, ⟨current, hcur, -⟩, -⟩ := ht.spec
      rw [hid] at hcur
      exact (hc.goal hcur).1.trans hin
    obtain ⟨item', hitem'⟩ := Created.lastVersion ⟨m, hmn, item, hc, rfl⟩
    refine ⟨item', hitem', ?_⟩
    by_contra hlive
    have ha := lastVersion_active hitem' (by simpa using hlive)
    exact hlive (he item' (intent_of_active ha))

end Engine

end BalboaRs485
