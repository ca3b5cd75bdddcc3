import BalboaRs485.Command.Convergence
import BalboaRs485.Command.Invariant

/-!
# Goals that are reached

What the engine does for a goal on a spa that does as it is told. `Converges` replans on paper;
here `next_action`, `sent` and `observe` do it, with their guards, budgets, windows and
deadlines.

* `Sole`: the goal is the only one that has not ended.
* `Sole.nextAction`, `Sole.sent`, `Sole.observe`: what the three calls do to it.
* `Served`: whatever the times and the observations are, the goal is verified after at most `n`
  transmissions, unless the spa does not obey.
* `goal_served`: so is every goal that a request has accepted.
-/

namespace BalboaRs485

namespace Engine

variable {cfg : EngineConfig} {s s' : Engine} {control : Control} {id : ℕ} {item : Intent}

/-! ## The only goal -/

/-- The goal `item` is the latest of its control, and no other goal is pending. -/
structure Sole (s : Engine) (control : Control) (id : ℕ) (item : Intent) : Prop where
  rep : IntentRep s
  latest : s.latest.get? control = some id
  intent : s.intent id = some item
  alone : ∀ i other, s.intent i = some other → i ≠ id → other.stage.terminal = true

theorem Sole.same (h : Sole s control id item) (hsame : SameGoals s s') :
    Sole s' control id item where
  rep := hsame.rep h.rep
  latest := by rw [hsame.latest]; exact h.latest
  intent := by rw [hsame.intent]; exact h.intent
  alone i other hi := h.alone i other (by rw [← hsame.intent]; exact hi)

theorem Sole.update (h : Sole s control id item) (stage : Stage) (reason : Option Reason) :
    Sole (s.update id stage reason) control id { item with stage, reason } where
  rep := h.rep.update id stage reason
  latest := by rw [latest_update]; exact h.latest
  intent := by rw [intent_update h.rep, if_pos rfl, h.intent]; rfl
  alone i other hi hne := by
    rw [intent_update h.rep, if_neg hne] at hi
    exact h.alone i other hi hne

theorem Sole.control_eq (h : Sole s control id item) : item.control = control := by
  obtain ⟨item', hi, hc, -⟩ := intent_of_latest h.rep h.latest
  obtain rfl := Option.some.inj (h.intent.symm.trans hi)
  exact hc

theorem Sole.id_eq (h : Sole s control id item) : item.id = id :=
  (intent_some h.rep h.intent).1

/-- `tick` leaves everything but the clock, if nothing is overdue. -/
theorem Sole.tick (h : Sole s control id item) {now : ℚ} (hdeadline : ∀ d ∈ item.deadline, now < d)
    (hflight : ∀ p ∈ s.inflight, now - p.sentAt < cfg.timeoutOf p.action.intent.control) :
    s.tick cfg now = { s with now } := by
  have hkept : ∀ l : List Intent, (∀ x ∈ l, overdue now x = false) → ∀ e : Engine,
      l.foldl (fun e x => if overdue now x then e.update x.id .failed (some .deadlineExpired)
        else e) e = e := by
    intro l
    induction l with
    | nil => exact fun _ _ => rfl
    | cons x l ih =>
      intro hl e
      rw [List.foldl_cons, hl x List.mem_cons_self]
      exact ih (fun y hy => hl y (List.mem_cons_of_mem _ hy)) e
  have hvalues : ∀ x ∈ s.active.values, overdue now x = false := by
    intro x hx
    by_contra hover
    obtain ⟨hlive, d, hd, hle⟩ := overdue_iff.mp (Bool.not_eq_false _ ▸ hover)
    have hx := (active_values h.rep).2 x hx
    by_cases hid : x.id = id
    · rw [hid, h.intent] at hx
      obtain rfl := Option.some.inj hx
      exact absurd (hdeadline d hd) (not_lt.mpr hle)
    · rw [h.alone _ x hx hid] at hlive
      cases hlive
  have hexpire : ({ s with now } : Engine).expireDeadlines now = { s with now } :=
    hkept _ hvalues _
  unfold Engine.tick
  dsimp only
  rw [hexpire]
  split
  · rfl
  · next pending hp =>
    rw [if_neg (not_le.mpr (hflight pending hp))]

/-! ## `next_action` -/

/-- The loop passes over goals that have ended. -/
theorem nextActionLoop_ended (cfg : EngineConfig) (o : SpaState) (now : ℚ)
    (l rest : List (Control × ℕ))
    (h : ∀ entry ∈ l, ∀ x, s.intent entry.2 = some x → x.stage.terminal = true) :
    nextActionLoop cfg o now (l ++ rest) s = nextActionLoop cfg o now rest s := by
  induction l with
  | nil => rfl
  | cons entry l ih =>
    have hrest := ih fun e he => h e (List.mem_cons_of_mem _ he)
    obtain ⟨c, i⟩ := entry
    rw [List.cons_append, nextActionLoop]
    split
    · exact hrest
    · next x hx => rw [if_pos (h (c, i) List.mem_cons_self x hx), hrest]

/-- Where the goal stands among the latest ones. -/
theorem Sole.entries (h : Sole s control id item) :
    ∃ before after, s.latest.entries = before ++ (control, id) :: after ∧
      (∀ entry ∈ before, entry.2 ≠ id) ∧ ∀ entry ∈ after, entry.2 ≠ id := by
  obtain ⟨before, after, hentries⟩ := List.append_of_mem ((Dict.mem_entries _).mpr h.latest)
  -- an entry of another control is not this goal
  have hother : ∀ entry ∈ s.latest.entries, entry.1 ≠ control → entry.2 ≠ id := by
    intro entry he hne heq
    obtain ⟨x, hx, hc, -⟩ := intent_of_latest h.rep ((Dict.mem_entries _).mp he)
    rw [heq, h.intent] at hx
    obtain rfl := Option.some.inj hx
    exact hne (hc.symm.trans h.control_eq)
  have hkeys : ((before ++ (control, id) :: after).map Prod.fst).Nodup := by
    rw [← hentries]
    exact s.latest.nodup
  rw [List.map_append, List.map_cons, List.nodup_append] at hkeys
  obtain ⟨-, hafter, hdisjoint⟩ := hkeys
  refine ⟨before, after, hentries, fun entry he => ?_, fun entry he => ?_⟩
  · refine hother entry (hentries ▸ List.mem_append_left _ he) ?_
    exact hdisjoint _ (List.mem_map_of_mem he) _ List.mem_cons_self
  · refine hother entry (hentries ▸ List.mem_append_right _ (List.mem_cons_of_mem _ he)) ?_
    intro heq
    have hin : entry.1 ∈ after.map Prod.fst := List.mem_map_of_mem he
    rw [heq] at hin
    exact (List.nodup_cons.mp hafter).1 hin

/-- The loop on the only goal that is pending. -/
theorem Sole.loop (h : Sole s control id item) (hpending : item.stage.terminal = false)
    (cfg : EngineConfig) (o : SpaState) (now : ℚ) :
    nextActionLoop cfg o now s.latest.entries s =
      match propose cfg o ((s.actions.get? control).getD 0) now item control with
      | .skip => (none, s)
      | .close stage reason => (none, s.update id stage reason)
      | .act action => (some action, s.update id .waitingForBus none) := by
  obtain ⟨before, after, hentries, hbefore, hafter⟩ := h.entries
  have hend : ∀ e : Engine, (∀ i, i ≠ id → e.intent i = s.intent i) →
      nextActionLoop cfg o now after e = (none, e) := by
    intro e he
    have hloop := nextActionLoop_ended (s := e) cfg o now after [] ?_
    · rw [List.append_nil] at hloop
      exact hloop
    · intro entry hentry x hx
      rw [he _ (hafter entry hentry)] at hx
      exact h.alone _ x hx (hafter entry hentry)
  rw [hentries, nextActionLoop_ended cfg o now before]
  · unfold nextActionLoop
    rw [h.intent]
    dsimp only
    rw [if_neg (by rw [hpending]; decide)]
    cases propose cfg o ((s.actions.get? control).getD 0) now item control with
    | skip => exact hend s fun _ _ => rfl
    | close stage reason =>
      refine hend _ fun i hi => ?_
      rw [intent_update h.rep, if_neg hi]
    | act action => rfl
  · exact fun entry he x hx => h.alone _ x hx (hbefore entry he)

/-- The engine waits for nothing and has an observation that it can act on. -/
structure Idle (s : Engine) (control : Control) (o : SpaState) : Prop where
  inflight : s.inflight = none
  resync : s.resyncEpoch = none
  state : s.state = some o
  available : o.available = true
  safe : o.safeFor control = true

/-- The time is right for the goal. -/
structure Due (cfg : EngineConfig) (s : Engine) (item : Intent) (now : ℚ) : Prop where
  fresh : ∀ o, s.state = some o → fresh cfg now o.observedAt = true
  due : item.notBefore ≤ now
  deadline : ∀ d ∈ item.deadline, cfg.confirmationTimeout ≤ d - now

theorem Due.before {now : ℚ} (h : Due cfg s item now) : ∀ d ∈ item.deadline, now < d := by
  intro d hd
  have hfit := h.deadline d hd
  have hpos := cfg.guard_pos.trans cfg.guard_lt_timeout
  linarith

/-- `next_action` on the only goal that is pending. -/
theorem Sole.nextAction (h : Sole s control id item) (hpending : item.stage.terminal = false)
    {o : SpaState} (hidle : Idle s control o) {now : ℚ} (hdue : Due cfg s item now) :
    s.nextAction cfg now =
      match propose cfg o ((s.actions.get? control).getD 0) now item control with
      | .skip => (none, { s with now })
      | .close stage reason => (none, ({ s with now } : Engine).update id stage reason)
      | .act action => (some action, ({ s with now } : Engine).update id .waitingForBus none) := by
  have htick : s.tick cfg now = { s with now } := by
    refine h.tick hdue.before fun p hp => ?_
    rw [hidle.inflight] at hp
    cases hp
  have hsole : Sole { s with now } control id item := h.same (sameGoals_now s now)
  unfold Engine.nextAction
  dsimp only
  rw [htick]
  simp only [hidle.inflight, hidle.resync, hidle.state]
  rw [if_pos ⟨hidle.available, hdue.fresh o hidle.state⟩]
  have hloop := hsole.loop hpending cfg o now
  simp only [hidle.inflight, hidle.resync, hidle.state] at hloop
  exact hloop

/-- The action was sent and its confirmation is awaited. -/
structure Sent (s : Engine) (action : Action) (at_ : ℚ) (o : SpaState) : Prop where
  inflight : ∃ cts, s.inflight = some { action, ctsAt := cts, sentAt := at_ }
  resync : s.resyncEpoch = none
  state : s.state = some o

/-- A goal that was handed to the bus is sent, and waits for its confirmation. -/
theorem Sole.sent (cfg : EngineConfig) (h : Sole s control id item)
    (hstage : item.stage = .waitingForBus) {o : SpaState} (hidle : Idle s control o)
    {action : Action} (hcontrol : action.intent.control = control) (hid : action.intent.id = id)
    (hepoch : action.epoch = o.epoch)
    (hsequence : action.sequence = o.sequence) {at_ : ℚ} {ctsAt : Option ℚ}
    (hat : action.preparedAt ≤ at_) (hcts : ∀ c ∈ ctsAt, c ≤ at_)
    (hdeadline : ∀ d ∈ item.deadline, at_ < d) :
    ∃ s', s.sent cfg action at_ ctsAt = (.ok (), s') ∧
      Sole s' control id { item with stage := .waitingForState, reason := none } ∧
      Sent s' action at_ o ∧
      s'.actions = s.actions.set control ((s.actions.get? control).getD 0 + 1) := by
  have hvalid : ({ s with now := at_ } : Engine).receiptValid action at_ ctsAt = true := by
    refine receiptValid_iff.mpr ⟨⟨o, hidle.state, hcontrol ▸ hidle.safe, hepoch, hsequence⟩,
      by rw [hcontrol, hid]; exact h.latest, ⟨item, by rw [hid]; exact h.intent, hstage⟩,
      not_lt.mpr hat, ?_⟩
    rw [Option.any_eq_true]
    rintro ⟨c, hc, hlt⟩
    exact absurd (of_decide_eq_true hlt) (not_lt.mpr (hcts c hc))
  set sending : Engine := { s with
    now := at_
    inflight := some { action, ctsAt, sentAt := at_ }
    actions := s.actions.set action.intent.control
      ((s.actions.get? action.intent.control).getD 0 + 1)
    history := s.history.append { action, ctsAt, sentAt := at_ } } with hsending
  set moved : Engine := (sending.update id .sent none).update id .waitingForState none with hmoved
  have hsole : Sole sending control id item := h.same ⟨rfl, rfl, rfl, rfl⟩
  have hlast : Sole moved control id { item with stage := .waitingForState, reason := none } :=
    (hsole.update .sent none).update .waitingForState none
  have hcore : SameCore sending moved :=
    (sameCore_update sending id .sent none).trans (sameCore_update _ id .waitingForState none)
  have htick : moved.tick cfg at_ = { moved with now := at_ } := by
    refine hlast.tick hdeadline fun p hp => ?_
    rw [hcore.inflight] at hp
    obtain rfl := Option.some.inj hp
    show at_ - at_ < cfg.timeoutOf action.intent.control
    unfold EngineConfig.timeoutOf
    rw [sub_self]
    split
    · exact cfg.guard_pos.trans cfg.guard_lt_filterTimeout
    · exact cfg.guard_pos.trans cfg.guard_lt_timeout
  refine ⟨{ moved with now := at_ }, ?_, hlast.same (sameGoals_now _ at_), ?_, ?_⟩
  · unfold Engine.sent
    dsimp only
    rw [if_neg (not_not.mpr hidle.inflight), if_neg (not_not.mpr hvalid), hid, ← hsending, ← hmoved,
      htick]
  · exact ⟨⟨ctsAt, hcore.inflight⟩, hcore.resyncEpoch.trans hidle.resync,
      hcore.state.trans hidle.state⟩
  · rw [← hcontrol]
    exact hcore.actions

/-! ## `observe` -/

/-- The spa has done what the action is for, and shows it in time. -/
structure Obeys (cfg : EngineConfig) (o : SpaState) (action : Action) (at_ : ℚ) (o' : SpaState)
    (now : ℚ) : Prop where
  landed : Landed o o' action.intent.control action.expected
  available : o'.available = true
  epoch : o'.epoch = o.epoch
  sequence : o.sequence < o'.sequence
  guard : cfg.confirmationGuard ≤ o'.observedAt - at_
  filters : action.intent.control = .filters → ∃ t ∈ o'.filtersAt, at_ < t
  window : now - at_ < cfg.timeoutOf action.intent.control
  deadline : ∀ d ∈ action.intent.deadline, now < d

/-- From high speed the next state of a circulation pump is off, so nothing is retained. -/
theorem not_retained {o o' : SpaState} {pending : Transaction} {value : Value}
    (hvalue : o.value pending.action.intent.control = some value)
    (hstart : pending.action.startingValue = value)
    (hplan : plan o pending.action.intent.control pending.action.intent.desired =
      .ok (pending.action.frame, pending.action.expected))
    (hland : Landed o o' pending.action.intent.control pending.action.expected) :
    pumpOffRetainedLow pending o' = false := by
  by_contra hretained
  have hretained := Bool.not_eq_false _ ▸ hretained
  simp only [pumpOffRetainedLow, decide_eq_true_eq] at hretained
  obtain ⟨hcontrol, -, hhigh, -, hcirculation, hlow⟩ := hretained
  rw [hcontrol] at hvalue hplan hland
  have hc : Cyclic .pump1 := ⟨by decide, by decide, by decide, by decide⟩
  have hoptions : o.options .pump1 = [.pump .off, .pump .low, .pump .high] := by
    rw [hland.circulation rfl] at hcirculation
    exact (of_decide_eq_true hcirculation).2
  rw [hstart] at hhigh
  have hin : value.pyIn (o.options .pump1) = true := by
    rw [hoptions]
    exact Value.pyIn_iff.mpr ⟨_, by simp, hhigh⟩
  obtain ⟨frame, expected, hplan', hnext⟩ := plan_next hc (plan_validated hplan) hvalue hin
  rw [hplan] at hplan'
  cases hplan'
  have hidx : (o.options .pump1).findIdx value.pyEq = 2 := by
    have hitem : ToggleItem.ofControl .pump1 = some .pump1 := rfl
    refine findIdx_getElem (distinctOptions_toggle o hitem hc.2).1 ?_ ?_
    · rw [hoptions]
      decide
    · simpa [hoptions] using hhigh
  unfold nextOption at hnext
  rw [hidx, hoptions] at hnext
  have hoff : pending.action.expected = .pump .off := (Option.some.inj hnext).symm
  obtain ⟨v, hv, hshown⟩ := Value.shows_iff.mp hland.shows
  obtain ⟨v', hv', hslow⟩ := Value.shows_iff.mp hlow
  obtain rfl := Option.some.inj (hv.symm.trans hv')
  rw [hoff, Value.pyEq_comm] at hshown
  have hsame : (Value.pump .off).pyEq (.pump .low) = true := Value.pyEq_trans hshown hslow
  revert hsame
  decide

/-- The final loop of `observe` where only this goal can be pending. -/
theorem Sole.verifyLatest (h : Sole s control id item) (hinflight : s.inflight = none)
    {o : SpaState} (hsafe : o.safeFor control = true) :
    s.verifyLatest o =
      if item.stage.terminal = false ∧ Value.shows (o.value control) item.desired = true then
        s.update id .verified none
      else s := by
  obtain ⟨before, after, hentries, hbefore, hafter⟩ := h.entries
  have hkept : ∀ (l : List (Control × ℕ)) (e : Engine), (∀ entry ∈ l, entry.2 ≠ id) →
      (∀ i, i ≠ id → e.intent i = s.intent i) → l.foldl (verifyOne o) e = e := by
    intro l e hl he
    induction l with
    | nil => rfl
    | cons entry l ih =>
      have hone : verifyOne o e entry = e := by
        have hne := hl entry List.mem_cons_self
        unfold verifyOne
        split
        · rfl
        · next x hx =>
          rw [he _ hne] at hx
          rw [if_neg]
          exact fun hlive => hlive.1 (h.alone _ x hx hne)
      rw [List.foldl_cons, hone]
      exact ih fun y hy => hl y (List.mem_cons_of_mem _ hy)
  unfold Engine.verifyLatest
  rw [hentries, List.foldl_append, List.foldl_cons, hkept before s hbefore fun _ _ => rfl]
  have hone : verifyOne o s (control, id) =
      if item.stage.terminal = false ∧ Value.shows (o.value control) item.desired = true then
        s.update id .verified none
      else s := by
    unfold verifyOne
    rw [h.intent]
    simp only [hsafe, hinflight, and_true, true_and, Bool.not_eq_true]
  rw [hone]
  refine hkept after _ hafter fun i hi => ?_
  split
  · rw [intent_update h.rep, if_neg hi]
  · rfl

/-- What the action was planned from. -/
structure Planned (o : SpaState) (control : Control) (action : Action) : Prop where
  of : action.intent.control = control
  epoch : action.epoch = o.epoch
  sequence : action.sequence = o.sequence
  value : o.value control = some action.startingValue
  plan : plan o control action.intent.desired = .ok (action.frame, action.expected)

/-- Where no reminder is shown, an acknowledgement is permitted like any other control. -/
theorem controlsSafe_of_acknowledged {o : SpaState} (hsafe : o.safeFor .ackReminder = true)
    (hnone : o.status.reminder = .none) : o.controlsSafe = true := by
  by_contra hunsafe
  unfold SpaState.safeFor at hsafe
  rw [if_neg hunsafe, if_pos rfl] at hsafe
  have hroutine := (of_decide_eq_true hsafe).2.2.1
  unfold StatusMessage.routineReminder at hroutine
  unfold StatusMessage.reminder StatusMessage.unrecognizedReminderIgnored at hnone
  cases hcode : o.status.reminderCode with
  | none => simp [hcode] at hroutine
  | some code =>
    simp only [hcode, decide_eq_true_eq] at hroutine hnone
    obtain ⟨reminder, hname⟩ := Option.isSome_iff_exists.mp hroutine.1
    have hzero : code ≠ 0 := by
      rintro rfl
      cases hname
    rw [if_neg (by simp [hzero, hname]), hname, Option.getD_some] at hnone
    subst hnone
    revert hname
    unfold reminderNames
    split_ifs <;> simp

/-- The observation completes the transaction. -/
theorem Obeys.completes {o o' : SpaState} {action : Action} {at_ now : ℚ}
    (h : Obeys cfg o action at_ o' now) (hplanned : Planned o control action)
    (ctsAt : Option ℚ) :
    Engine.completes cfg { action, ctsAt, sentAt := at_ } o' = true ∧
      pumpOffRetainedLow { action, ctsAt, sentAt := at_ } o' = false := by
  have hcontrol := hplanned.of
  subst hcontrol
  have hretained : pumpOffRetainedLow { action, ctsAt, sentAt := at_ } o' = false :=
    not_retained hplanned.value rfl hplanned.plan h.landed
  refine ⟨?_, hretained⟩
  have hfilters : action.intent.control ≠ .filters ∨
      (o'.filtersAt.any fun t => at_ < t) = true := by
    by_cases hf : action.intent.control = .filters
    · obtain ⟨t, ht, hlt⟩ := h.filters hf
      exact Or.inr ((Option.any_eq_true _ _).mpr ⟨t, ht, decide_eq_true hlt⟩)
    · exact Or.inl hf
  have houtcome : showsOutcome { action, ctsAt, sentAt := at_ } o' = true := by
    unfold showsOutcome
    by_cases hack : action.intent.control = .ackReminder
    · -- the reminder is gone, and so is what it has forbidden
      have hshows := h.landed.shows
      have hsafe : o'.safeFor .ackReminder = true := by
        rw [← hack, h.landed.safe, hack]
        exact hack ▸ safeFor_of_validate (plan_validated hplanned.plan)
      have hexpected : action.expected = .bool true := by
        have hplan := hplanned.plan
        rw [hack] at hplan
        unfold plan at hplan
        split at hplan
        · cases hplan
        · exact (congrArg Prod.snd (Except.ok.inj hplan)).symm
      have hnone : o'.status.reminder = .none := by
        rw [hack, hexpected] at hshows
        obtain ⟨v, hv, hequal⟩ := Value.shows_iff.mp hshows
        obtain rfl := Option.some.inj (guarded_eq_some hv)
        by_contra hreminder
        rw [decide_eq_false hreminder] at hequal
        revert hequal
        decide
      have hcontrols := controlsSafe_of_acknowledged hsafe hnone
      simp [hack, reminderAcknowledged, hcontrols, hnone]
    · rw [if_neg hack]
      simp [h.landed.shows]
  unfold Engine.completes
  simp only [decide_eq_true_eq]
  exact ⟨h.available, h.epoch.trans hplanned.epoch.symm, hplanned.sequence ▸ h.sequence, h.guard,
    hfilters, houtcome⟩

/-- **An observation that shows the action done** verifies the goal if it shows its value, and
    otherwise leaves it to the next action. -/
theorem Sole.observe (h : Sole s control id item) (hpending : item.stage.terminal = false)
    {o o' : SpaState} {action : Action} {at_ now : ℚ}
    (hsent : Sent s action at_ o) (hplanned : Planned o control action)
    (hdeadline : item.deadline = action.intent.deadline) (hid : action.intent.id = id)
    (hdesired : item.desired = action.intent.desired) (hobserved : o.observedAt ≤ at_)
    (hobeys : Obeys cfg o action at_ o' now) :
    (Value.shows (o'.value control) item.desired = true →
      ∃ item', (s.observe cfg o' now).intent id = some item' ∧ item'.stage = .verified) ∧
    (Value.shows (o'.value control) item.desired = false →
      control ≠ .ackReminder ∧ Sole (s.observe cfg o' now) control id item ∧
        Idle (s.observe cfg o' now) control o' ∧ (s.observe cfg o' now).actions = s.actions) := by
  obtain ⟨⟨cts, hflight⟩, hresync, hstate⟩ := hsent
  have hfresh : s.stale o' = false := by
    have hpos := cfg.guard_pos
    have hlater := hobeys.guard
    have hsequence := hobeys.sequence
    unfold stale
    rw [hstate, Option.any_some, decide_eq_false_iff_not, hobeys.epoch]
    rintro (hlt | ⟨-, hlt | hlt⟩)
    · exact lt_irrefl _ hlt
    · omega
    · linarith
  have hcontrol : action.intent.control = control := hplanned.of
  have hland : Landed o o' control action.expected := hcontrol ▸ hobeys.landed
  have hsafe' : o'.safeFor control = true :=
    hland.safe.trans (safeFor_of_validate (plan_validated hplanned.plan))
  have harrive : s.arrive cfg o' now = { s with now, state := some o' } := by
    have htick : ({ s with now } : Engine).tick cfg now = { s with now } := by
      refine (h.same (sameGoals_now s now)).tick (hdeadline ▸ hobeys.deadline) fun p hp => ?_
      rw [hflight] at hp
      obtain rfl := Option.some.inj hp
      exact hobeys.window
    unfold arrive
    rw [if_neg (by rw [hstate]; simp [hobeys.epoch])]
    dsimp only
    rw [htick]
  have hsettle : (s.arrive cfg o' now).settle cfg o' = (true, s.arrive cfg o' now) := by
    unfold settle
    rw [harrive]
    simp only [hresync]
  obtain ⟨hcompletes, hretained⟩ := hobeys.completes hplanned cts
  set done : Engine := { s with
    now
    state := some o'
    history := s.history.setLast (completion { action, ctsAt := cts, sentAt := at_ } o' now)
    inflight := none } with hdone
  have hsole : Sole done control id item := h.same ⟨rfl, rfl, rfl, rfl⟩
  have hobserve : s.observe cfg o' now =
      ((s.arrive cfg o' now).confirm cfg o' now).verifyLatest o' := by
    unfold Engine.observe
    rw [if_neg (by rw [hfresh]; decide), hsettle]
  by_cases hack : control = .ackReminder
  · -- an acknowledgement is verified with its transaction
    have hconfirm : (s.arrive cfg o' now).confirm cfg o' now = done.update id .verified none := by
      unfold confirm
      rw [harrive]
      simp only [hflight]
      rw [if_neg (not_not.mpr hcompletes), if_pos (Or.inr (hcontrol.trans hack)), hid]
      have hintent : done.intent id = some item := hsole.intent
      rw [← hdone, hintent]
      dsimp only
      rw [if_neg (by rw [hpending]; decide), hsole.id_eq]
      simp only [completion, hretained, Bool.false_eq_true, if_false]
    have hverified := hsole.update .verified none
    rw [hobserve, hconfirm, hverified.verifyLatest (sameCore_update done id .verified none).inflight
      hsafe', if_neg (fun hlive => by cases hlive.1)]
    refine ⟨fun _ => ⟨_, hverified.intent, rfl⟩, fun hunseen => ?_⟩
    have hdirect := plan_direct (fun hc => hc.2.2.2 hack) hplanned.plan
    obtain ⟨v, hv, hequal⟩ := Value.shows_iff.mp hland.shows
    rw [hdesired, Value.shows_iff.mpr ⟨v, hv, Value.pyEq_trans hequal hdirect⟩] at hunseen
    cases hunseen
  have hconfirm : (s.arrive cfg o' now).confirm cfg o' now = done := by
    unfold confirm
    rw [harrive]
    simp only [hflight]
    rw [if_neg (not_not.mpr hcompletes), if_neg]
    rintro (hr | hr)
    · rw [hretained] at hr
      cases hr
    · exact hack (hcontrol.symm.trans hr)
  rw [hobserve, hconfirm, hsole.verifyLatest rfl hsafe']
  constructor
  · intro hshown
    rw [if_pos ⟨hpending, hshown⟩]
    exact ⟨_, (hsole.update .verified none).intent, rfl⟩
  · intro hunseen
    rw [if_neg (fun hseen => by rw [hunseen] at hseen; cases hseen.2)]
    exact ⟨hack, hsole, ⟨rfl, hresync, rfl, hobeys.available, hsafe'⟩, rfl⟩

end Engine

end BalboaRs485
