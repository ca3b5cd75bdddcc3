import BalboaRs485.Command.Barrier
import BalboaRs485.Command.Occupied
import BalboaRs485.Runtime.Admission
import BalboaRs485.Runtime.Journal

/-!
# Waiting for the outcome of a transmission

Once an action is in flight, the engine either learns its outcome from an observation that
completes it, or the outcome stays unknown and the engine asks for a new epoch, which it then
reaches before it acts again. `Awaits` says so of one state, `step_awaits` of one call.

* `step_awaits`: the only way out of `Awaits` is an observation that completes the transaction.
* `Awaits.next`: what `next_action` hands out while `Awaits` holds is of a later epoch.
* `SpaRuntime.step_awaits`, `SpaRuntime.prepare_later`: the same for the runtime.
-/

namespace BalboaRs485

namespace Engine

variable {cfg : EngineConfig} {s : Engine}

/-- The outcome of `action`, sent at `sentAt`, has not been observed: it is in flight, its epoch
    is ambiguous, or the engine is in a later one. -/
inductive Awaits (s : Engine) (action : Action) (sentAt : ℚ) : Prop where
  | flying (pending : Transaction) (h : s.inflight = some pending) (haction : pending.action = action)
      (hsent : pending.sentAt = sentAt)
  | ambiguous (resync : ℕ) (h : s.resyncEpoch = some resync) (hepoch : action.epoch ≤ resync)
  | later (o : SpaState) (h : s.state = some o) (hepoch : action.epoch < o.epoch)

/-- The observation completes the transaction of `action`. -/
def Acknowledges (cfg : EngineConfig) (s : Engine) (action : Action) (sentAt : ℚ) (o : SpaState) :
    Prop :=
  s.stale o = false ∧ ∃ pending, s.inflight = some pending ∧ pending.action = action ∧
    pending.sentAt = sentAt ∧ completes cfg pending o = true

variable {action : Action} {sentAt : ℚ}

/-- The transaction in flight is never of an epoch before an ambiguous one. -/
theorem Epochs.resync_le (h : Epochs s) {resync : ℕ} {pending : Transaction}
    (hr : s.resyncEpoch = some resync) (hp : s.inflight = some pending) :
    resync ≤ pending.action.epoch := by
  obtain ⟨o, ho, hle⟩ := h.resync resync hr
  obtain ⟨o', ho', heq⟩ := h.inflight pending hp
  obtain rfl := Option.some.inj (ho.symm.trans ho')
  exact hle.trans heq.ge

/-- A barrier that is raised again is not raised for an earlier epoch. -/
theorem Raised.resync_ge (h : Epochs s) {s' : Engine} (hr : Raised s s') {resync : ℕ}
    (hresync : s.resyncEpoch = some resync) :
    ∃ resync', s'.resyncEpoch = some resync' ∧ resync ≤ resync' := by
  rcases hr with ⟨heq, -⟩ | ⟨pending, hp, heq, -⟩
  · exact ⟨resync, heq.trans hresync, le_rfl⟩
  · exact ⟨_, heq, h.resync_le hresync hp⟩

/-- A later epoch stays a later one. -/
theorem Awaits.later_step {o : SpaState} (op : EngineOp) (ho : s.state = some o)
    (hepoch : action.epoch < o.epoch) : Awaits (s.step cfg op).1 action sentAt := by
  obtain ⟨o', ho', hprecedes⟩ := step_precedes cfg op ho
  exact .later o' ho' (hepoch.trans_le hprecedes.epoch_le)

/-- A transaction that a `tick` ends leaves its epoch ambiguous. -/
theorem Awaits.ticked {s' : Engine} (ht : Ticked s s') {pending : Transaction}
    (hp : s.inflight = some pending) (haction : pending.action = action)
    (hsent : pending.sentAt = sentAt) : Awaits s' action sentAt := by
  obtain ⟨-, hsame | ⟨ended, hend⟩⟩ := ht
  · exact .flying pending (hsame.inflight.trans hp) haction hsent
  · obtain rfl := Option.some.inj (hend.before.symm.trans hp)
    exact .ambiguous _ hend.resyncEpoch (by rw [haction])

/-- The outcome of the transaction in flight after one call. -/
theorem step_flying {op : EngineOp} (hop : op.isReceipt = false) {pending : Transaction}
    (hp : s.inflight = some pending) (haction : pending.action = action)
    (hsent : pending.sentAt = sentAt) :
    Awaits (s.step cfg op).1 action sentAt ∨
      ∃ o, s.accepted op = some o ∧ Acknowledges cfg s action sentAt o := by
  have hended : ∀ {s' : Engine} {ended : Transaction}, AmbiguousEnd s s' ended →
      s'.resyncEpoch = some action.epoch := by
    intro s' ended hend
    obtain rfl := Option.some.inj (hend.before.symm.trans hp)
    rw [hend.resyncEpoch, haction]
  have hcase := step_case cfg s op
  generalize (s.step cfg op).1 = s' at hcase ⊢
  cases hcase with
  | ticked _ ht => exact Or.inl (.ticked ht hp haction hsent)
  | requested ht _ _ _ hstate _ hinflight _ hresync =>
    left
    cases Awaits.ticked ht hp haction hsent with
    | flying q hq ha hs => exact .flying q (hinflight.trans hq) ha hs
    | ambiguous r hr he => exact .ambiguous r (hresync.trans hr) he
    | later o ho he => exact .later o (hstate.trans ho) he
  | lost _ hnone =>
    rw [hp] at hnone
    cases hnone
  | lostFlight _ hend => exact Or.inl (.ambiguous _ (hended hend) le_rfl)
  | sent => cases hop
  | @unsettled o now s' hs hsettle =>
    left
    obtain ⟨-, -, hinflight, -⟩ := settled_core hsettle
    obtain ⟨-, ⟨hflight, -⟩ | ⟨ended, hend⟩⟩ := arrive_core cfg s o now
    · exact .flying pending (hinflight.trans (hflight.inflight.trans hp)) haction hsent
    · refine .ambiguous _ ?_ le_rfl
      have hresync := hended hend
      cases hsettle with
      | ignored => exact hresync
      | restarted => exact hresync
      | waiting => exact hresync
  | @settled o now s₁ s' hs hsettle hs' =>
    obtain ⟨-, -, hinflight, -⟩ := settled_core hsettle
    obtain ⟨-, ⟨hflight, -⟩ | ⟨ended, hend⟩⟩ := arrive_core cfg s o now
    · have hp₁ : s₁.inflight = some pending := hinflight.trans (hflight.inflight.trans hp)
      subst hs'
      have hverified := (sameCore_verifyLatest (s₁.confirm cfg o now) o).inflight
      obtain hsame | ⟨q, hq, hcompletes, -⟩ := confirm_core cfg s₁ o now
      · exact Or.inl (.flying pending (hverified.trans (hsame.inflight.trans hp₁)) haction hsent)
      · obtain rfl := Option.some.inj (hq.symm.trans hp₁)
        exact Or.inr ⟨o, by simp [accepted, hs], hs, q, hp, haction, hsent, hcompletes⟩
    · -- an epoch that has just become ambiguous is not settled by the same observation
      have hresync := hended hend
      cases hsettle with
      | clear hnone =>
        rw [hnone] at hresync
        cases hresync
      | released _ previous _ _ _ hprevious =>
        rw [hend.settling] at hprevious
        cases hprevious

/-- **The only way out of `Awaits` is an observation that completes the transaction.** -/
theorem step_awaits (cfg : EngineConfig) (he : Epochs s) (op : EngineOp)
    (hop : op.isReceipt = false) (h : Awaits s action sentAt) :
    Awaits (s.step cfg op).1 action sentAt ∨
      ∃ o, s.accepted op = some o ∧ Acknowledges cfg s action sentAt o := by
  cases h with
  | flying pending hp haction hsent => exact step_flying hop hp haction hsent
  | later o ho hepoch => exact Or.inl (.later_step op ho hepoch)
  | ambiguous resync hresync hepoch =>
    left
    cases ha : s.accepted op with
    | none =>
      obtain ⟨resync', hresync', hle⟩ := Raised.resync_ge he (step_barrier cfg ha) hresync
      exact .ambiguous resync' hresync' (hepoch.trans hle)
    | some o =>
      -- an accepted observation lowers the barrier only in a later epoch
      obtain ⟨now, b, s₁, rfl, -, hsettle, hbarrier, -⟩ := step_accepted_settle cfg ha
      obtain ⟨resync', hresync', hle⟩ := Raised.resync_ge he (arrive_raised cfg s o now) hresync
      have hle' := hepoch.trans hle
      cases hsettle with
      | clear hnone =>
        rw [hnone] at hresync'
        cases hresync'
      | ignored => exact .ambiguous resync' (hbarrier.trans hresync') hle'
      | restarted => exact .ambiguous resync' (hbarrier.trans hresync') hle'
      | waiting => exact .ambiguous resync' (hbarrier.trans hresync') hle'
      | released r _ hr hlt =>
        obtain rfl := Option.some.inj (hr.symm.trans hresync')
        exact .later o (step_accepted cfg ha).1 (hle'.trans_lt hlt)

/-- While the outcome of an action is not known, `next_action` hands out actions of later
    epochs only. -/
theorem Awaits.next (he : Epochs s) (h : Awaits s action sentAt) {now : ℚ} {next : Action}
    (hnext : (s.nextAction cfg now).1 = some next) : action.epoch < next.epoch := by
  obtain ⟨hresync, hfree, o, ho, -, -, hloop⟩ := nextAction_some hnext
  obtain ⟨_, _, _, _, _, _, -, -, -, hproposed, -⟩ := nextActionLoop_some hloop
  rw [hproposed.epoch]
  -- the `tick` inside `next_action` is a call of its own
  obtain hawaits | ⟨o', hnone, -⟩ := step_awaits cfg he (.tick now) rfl h
  · cases hawaits with
    | flying pending hp =>
      rw [show (s.step cfg (.tick now)).1 = s.tick cfg now from rfl, hfree] at hp
      cases hp
    | ambiguous resync hr =>
      rw [show (s.step cfg (.tick now)).1 = s.tick cfg now from rfl, hresync] at hr
      cases hr
    | later o' ho' hlt =>
      obtain rfl := Option.some.inj (ho.symm.trans ho')
      exact hlt
  · cases hnone

/-- A call that shows the engine nothing and sends nothing. -/
def Silent : EngineOp → Prop
  | .observe _ _ => False
  | .sent _ _ _ => False
  | _ => True

theorem Silent.noReceipt {op : EngineOp} (h : Silent op) : op.isReceipt = false := by
  cases op with
  | sent => exact h.elim
  | _ => rfl

theorem Silent.accepted {op : EngineOp} (h : Silent op) (s : Engine) : s.accepted op = none := by
  cases op with
  | observe => exact h.elim
  | _ => rfl

/-- Silent calls do not learn the outcome of an action. -/
theorem Calls.awaits {s' : Engine} (h : Calls cfg Silent s s') (he : Epochs s)
    (ha : Awaits s action sentAt) : Awaits s' action sentAt := by
  refine (h.induct (R := fun s => Epochs s ∧ Awaits s action sentAt)
    (fun s op hsilent ⟨he, ha⟩ => ⟨step_epochs he op, ?_⟩) ⟨he, ha⟩).2
  obtain hawaits | ⟨o, hsome, -⟩ := step_awaits cfg he op hsilent.noReceipt ha
  · exact hawaits
  · rw [hsilent.accepted] at hsome
    cases hsome

/-- An action that is accepted for transmission awaits its outcome. -/
theorem awaits_sent {at_ : ℚ} {ctsAt : Option ℚ} (h : (s.sent cfg action at_ ctsAt).1 = .ok ()) :
    Awaits (s.sent cfg action at_ ctsAt).2 action at_ := by
  obtain ⟨e, herr, -⟩ | ⟨-, -, -, -, -, hinflight, -⟩ := sent_core cfg s action at_ ctsAt
  · rw [herr] at h
    cases h
  · exact .flying _ hinflight rfl rfl

/-- An action is only accepted in its own epoch. -/
theorem Awaits.sent {next : Action} {at_ : ℚ} {ctsAt : Option ℚ} (hepoch : action.epoch < next.epoch)
    (h : (s.sent cfg next at_ ctsAt).1 = .ok ()) :
    Awaits (s.sent cfg next at_ ctsAt).2 action sentAt := by
  obtain ⟨e, herr, -⟩ | ⟨-, -, hvalid, hstate, -⟩ := sent_core cfg s next at_ ctsAt
  · rw [herr] at h
    cases h
  · obtain ⟨⟨o, ho, -, heq, -⟩, -⟩ := receiptValid_iff.mp hvalid
    exact .later o (hstate.trans ho) (heq ▸ hepoch)

end Engine

/-- The action a message carries, as it is written. -/
def Transmission.command (message : Transmission) : Option Action :=
  match message.token with
  | .query _ => none
  | .action action => some { action with frame := message.frame }

theorem Transmission.command_some {message : Transmission} {action : Action}
    (h : message.command = some action) :
    ∃ action', message.token = .action action' ∧ action = { action' with frame := message.frame } := by
  unfold command at h
  split at h
  · cases h
  · next action' htoken => exact ⟨action', htoken, (Option.some.inj h).symm⟩

/-- A receipt that is accepted: the engine has accepted the action, or there is none. -/
theorem Commands.sent_ok {γ : Type} {cfg : RuntimeConfig} {c : Commands γ} {message : Transmission}
    {at_ : ℚ} {ctsAt : Option ℚ} (h : (c.sent cfg message at_ ctsAt).1 = .ok ()) :
    (message.command = none ∧ (c.sent cfg message at_ ctsAt).2.engine = c.engine) ∨
      ∃ action, message.command = some action ∧
        (c.engine.sent cfg.engine action at_ ctsAt).1 = .ok () ∧
        (c.sent cfg message at_ ctsAt).2.engine = (c.engine.sent cfg.engine action at_ ctsAt).2 := by
  obtain ⟨frame, token⟩ := message
  cases token with
  | query => exact Or.inl ⟨rfl, rfl⟩
  | action action =>
    right
    refine ⟨_, rfl, ?_⟩
    unfold sent at h ⊢
    dsimp only at h ⊢
    split at h
    · cases h
    · next engine heq =>
      rw [heq]
      dsimp only
      split
      · exact ⟨rfl, (refreshFilters_engine _).1⟩
      · exact ⟨rfl, rfl⟩

namespace SpaRuntime

variable {ρ : Type} {cfg : RuntimeConfig} {w w' : SpaRuntime ρ} {action : Action} {sentAt : ℚ}

/-! ## The runtime -/

/-- `update` shows the engine an observation that completes the transaction of `action`. -/
def Confirms (cfg : RuntimeConfig) (w : SpaRuntime ρ) (action : Action) (sentAt : ℚ) : Op ρ → Prop
  | .update now => ∃ o, (w.commands.manageQueries cfg w.snapshot now).observation w.snapshot = some o ∧
      w.commands.engine.Acknowledges cfg.engine action sentAt o
  | _ => False

theorem silent_request (w : SpaRuntime ρ) (r : SpaRequest ρ) (edit : Option (FilterEdit ρ)) :
    Engine.Calls cfg.engine Engine.Silent w.commands.engine
      (w.request cfg r edit).2.commands.engine := by
  have hcalls : Engine.Calls cfg.engine Engine.Silent w.commands.engine
      (w.commands.request cfg (r.engineRequest w.time) (r.guard w.snapshot.epoch)).2.engine := by
    rw [(Commands.request_engine cfg w.commands _ _).1]
    exact .one (.request (r.engineRequest w.time)) trivial
  obtain heq | ⟨err, -, heq⟩ | ⟨intent, -, heq⟩ := request_case cfg w r edit
  · rw [heq]
    exact .refl _
  · rw [heq]
    exact hcalls
  · rw [heq]
    exact hcalls

theorem silent_stretch {P : FilterEdit ρ → FilterSchedule → Prop} (h : Stretch cfg P w w') :
    Engine.Calls cfg.engine Engine.Silent w.commands.engine w'.commands.engine := by
  induction h with
  | begins => exact .refl _
  | moves _ _ _ ih => exact ih
  | @asks w' _ ih =>
    show Engine.Calls _ _ _ w'.commands.refreshFilters.2.engine
    rw [(Commands.refreshFilters_engine w'.commands).1]
    exact ih
  | writes _ _ ih => exact ih.trans (silent_request _ _ _)
  | ticks _ now ih => exact ih.trans (.one (.tick now) trivial)
  | cancels _ ih => exact ih.trans (.one (.cancel .filters none) trivial)

theorem silent_prepareOp {op : EngineOp} (h : Commands.PrepareOp op) : Engine.Silent op := by
  cases op with
  | observe => exact h.elim
  | sent => exact h.elim
  | _ => trivial

/-- Only `update` shows the engine something, and only a receipt sends something. -/
theorem step_silent (cfg : RuntimeConfig) (w : SpaRuntime ρ) (op : Op ρ) (hop : op.isReceipt = false) :
    Engine.Calls cfg.engine Engine.Silent w.commands.engine (w.step cfg op).1.commands.engine ∨
      ∃ now o, op = .update now ∧
        (w.commands.manageQueries cfg w.snapshot now).observation w.snapshot = some o ∧
        (w.step cfg op).1.commands.engine = w.commands.engine.observe cfg.engine o now := by
  cases op with
  | clock | world => exact Or.inl (.refl _)
  | publish snapshot =>
    left
    show Engine.Calls _ _ _ (w.publish snapshot).commands.engine
    unfold publish
    split <;> exact .refl _
  | update now =>
    obtain ⟨o, ho, heq⟩ | ⟨-, heq⟩ := Commands.update_engine cfg w.commands w.snapshot now
    · exact Or.inr ⟨now, o, rfl, ho, heq⟩
    · left
      show Engine.Calls _ _ _ (w.commands.update cfg w.snapshot now).engine
      rw [heq]
      exact (Engine.Calls.one (.tick now) trivial).trans (.one (.suspend now) trivial)
  | prepare now =>
    exact Or.inl ((Commands.prepare_engine cfg w.commands w.callGuard w.world now).mono
      fun _ => silent_prepareOp)
  | sent => cases hop
  | received message epoch at_ =>
    left
    show Engine.Calls _ _ _ (w.commands.received cfg message epoch at_).engine
    rw [(Commands.received_engine cfg w.commands message epoch at_).1]
    exact .refl _
  | disconnected now => exact Or.inl (.one (.suspend now) trivial)
  | request r => exact Or.inl (silent_request w r none)
  | cancel control now => exact Or.inl (.one (.cancel control now) trivial)
  | joined id now => exact Or.inl (.one (.joined id now) trivial)
  | waited now => exact Or.inl (.one (.tick now) trivial)
  | asyncUpdateFilter edit => exact Or.inl (silent_stretch (stretch_asyncUpdateFilter cfg w edit))
  | wake => exact Or.inl (silent_stretch (stretch_wake cfg w))
  | timeout now => exact Or.inl (silent_stretch (stretch_timeout cfg w now))
  | stop => exact Or.inl (silent_stretch (stretch_stop cfg w))

theorem step_epochs (h : w.commands.engine.Epochs) (op : Op ρ) :
    (w.step cfg op).1.commands.engine.Epochs := by
  cases hop : op.isReceipt with
  | false =>
    obtain hcalls | ⟨now, o, -, -, heq⟩ := step_silent cfg w op hop
    · exact hcalls.epochs h
    · rw [heq]
      show Engine.Epochs (w.commands.engine.step cfg.engine (.observe o now)).1
      exact Engine.step_epochs h _
  | true =>
    cases op with
    | sent message at_ ctsAt =>
      show (w.commands.sent cfg message at_ ctsAt).2.engine.Epochs
      obtain ⟨heq | ⟨action, heq⟩, -⟩ := Commands.sent_engine cfg w.commands message at_ ctsAt
      · rwa [heq]
      · rw [heq]
        show Engine.Epochs (w.commands.engine.step cfg.engine (.sent action at_ ctsAt)).1
        exact Engine.step_epochs h _
    | _ => cases hop

/-- **Until it is confirmed, an action that was sent awaits its outcome**, whoever calls the
    runtime. -/
theorem step_awaits (he : w.commands.engine.Epochs) (h : w.commands.engine.Awaits action sentAt)
    (op : Op ρ) (hop : op.isReceipt = false) :
    (w.step cfg op).1.commands.engine.Awaits action sentAt ∨ w.Confirms cfg action sentAt op := by
  obtain hcalls | ⟨now, o, rfl, ho, heq⟩ := step_silent cfg w op hop
  · exact Or.inl (hcalls.awaits he h)
  · rw [heq]
    refine (Engine.step_awaits cfg.engine he (.observe o now) rfl h).imp_right ?_
    rintro ⟨o', haccepted, hack⟩
    obtain ⟨-, rfl⟩ : w.commands.engine.stale o = false ∧ o = o' := by
      simpa [Engine.accepted] using haccepted
    exact ⟨o, ho, hack⟩

/-- What `prepare` hands out while the outcome of an action is open is of a later epoch. -/
theorem prepare_later (he : w.commands.engine.Epochs) (h : w.commands.engine.Awaits action sentAt)
    {now : ℚ} {message : Transmission} {next : Action}
    (hhanded : (w.commands.prepare cfg w.callGuard w.world now).1 = some message)
    (htoken : message.token = .action next) : action.epoch < next.epoch := by
  obtain ⟨e, hcalls, hnext⟩ := Commands.prepare_action cfg w.commands w.callGuard hhanded htoken
  have hsilent := hcalls.mono fun _ => silent_prepareOp
  exact Engine.Awaits.next (hsilent.epochs he) (hsilent.awaits he h) hnext

/-- What a receipt of what was handed out leaves of an action whose outcome is open. -/
theorem sent_awaits (h : w.commands.engine.Awaits action sentAt) {message : Transmission} {at_ : ℚ}
    {ctsAt : Option ℚ} (hok : (w.step cfg (.sent message at_ ctsAt)).2 = .receipt (.ok ()))
    (hlater : ∀ next, message.command = some next → action.epoch < next.epoch) :
    (w.step cfg (.sent message at_ ctsAt)).1.commands.engine.Awaits action sentAt := by
  have hok : (w.commands.sent cfg message at_ ctsAt).1 = .ok () := Out.receipt.inj hok
  show (w.commands.sent cfg message at_ ctsAt).2.engine.Awaits action sentAt
  obtain ⟨-, heq⟩ | ⟨next, hnext, hsent, heq⟩ := Commands.sent_ok hok
  · rwa [heq]
  · rw [heq]
    exact Engine.Awaits.sent (hlater next hnext) hsent

/-- **A command that was sent awaits its outcome.** -/
theorem awaits_sent {message : Transmission} {at_ : ℚ} {ctsAt : Option ℚ}
    (hok : (w.step cfg (.sent message at_ ctsAt)).2 = .receipt (.ok ()))
    (hcommand : message.command = some action) :
    (w.step cfg (.sent message at_ ctsAt)).1.commands.engine.Awaits action at_ := by
  have hok : (w.commands.sent cfg message at_ ctsAt).1 = .ok () := Out.receipt.inj hok
  show (w.commands.sent cfg message at_ ctsAt).2.engine.Awaits action at_
  obtain ⟨hnone, -⟩ | ⟨action', hsome, hsent, heq⟩ := Commands.sent_ok hok
  · rw [hnone] at hcommand
    cases hcommand
  · obtain rfl := Option.some.inj (hsome.symm.trans hcommand)
    rw [heq]
    exact Engine.awaits_sent hsent

end SpaRuntime

end BalboaRs485
