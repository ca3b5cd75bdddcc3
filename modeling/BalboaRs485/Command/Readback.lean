import BalboaRs485.Command.Budget

/-!
# Filter readback

A filter record that the controller was asked for carries the time it was received
(`filters_at`); an unsolicited or reflected one carries none. The confirmation of a
filter write in flight asks for a record from after the write, the final loop of
`observe` does not look at the time at all.

* `Known`: between two calls, a pending filter goal that the observation already
  shows was requested on that very observation, and not transmitted.
* `Echo`: an observation that is about to verify a filter goal on a record that is
  not a readback of it.
* `filters_read`: filter goals are verified by a readback in exactly the runs without
  such an observation.
* `filters_echoed`: a run with one.
-/

namespace BalboaRs485

namespace Engine

variable {cfg : EngineConfig} {ops : List EngineOp} {s s' : Engine}

/-! ## The final loop of `observe` -/

/-- The final loop leaves no goal pending that the observation shows. -/
theorem verifyLatest_ended (hr : IntentRep s) {o : SpaState} {control : Control} {id : ℕ}
    {goal : Intent} (hlat : s.latest.get? control = some id) (hi : s.intent id = some goal)
    (hfree : s.inflight = none) (hsafe : o.safeFor control = true)
    (hshow : Value.shows (o.value control) goal.desired = true) : Ended (s.verifyLatest o) id := by
  -- the loop keeps the goal, and nothing is put in flight
  have hloop : ∀ (l : List (Control × ℕ)) (e : Engine), IntentRep e → e.inflight = none →
      (∀ x, e.intent id = some x → x.goal = goal.goal) → e.latest = s.latest →
      (∀ x ∈ l, x ∈ s.latest.entries) →
      (Ended e id ∨ (control, id) ∈ l) → Ended (l.foldl (verifyOne o) e) id := by
    intro l
    induction l with
    | nil =>
      intro e _ _ _ _ _ h
      exact h.resolve_right (by simp)
    | cons entry l ih =>
      intro e hre hne hge hle hall hmem
      rw [List.foldl_cons]
      have hcore := sameCore_verifyOne o e entry
      have hone : Updates Ends e (verifyOne o e entry) := by
        unfold verifyOne
        split
        · exact .refl e
        · next item hitem =>
          split
          · next hok =>
            refine .update fun x hx => ?_
            obtain rfl := Option.some.inj (hitem.symm.trans hx)
            exact ends_of_live (by simpa using hok.1)
          · exact .refl e
      refine ih _ (hone.rep hre) (hcore.inflight.trans hne) (fun x hx => ?_)
        (hcore.latest.trans hle) (fun x hx => hall x (List.mem_cons_of_mem _ hx)) ?_
      · obtain ⟨y, hy, hg, -⟩ := hone.evolves hre hx
        exact hg.trans (hge y hy)
      · rcases hmem with hended | hmem
        · exact Or.inl (hended.updates hre hone)
        · rcases List.mem_cons.mp hmem with heq | hmem
          · refine Or.inl fun x hx => ?_
            rw [← heq] at hx
            unfold verifyOne at hx
            split at hx
            · next hnone =>
              rw [hnone] at hx
              cases hx
            · next item hitem =>
              have hdesired : item.desired = goal.desired := (goal_eq (hge item hitem)).2.2.1
              split at hx
              · rw [intent_update hre, if_pos rfl, hitem] at hx
                cases hx
                rfl
              · next hnot =>
                rw [Option.some.inj (hx.symm.trans hitem)]
                by_contra hlive
                exact hnot ⟨hlive, hsafe, by rw [hdesired]; exact hshow, hne⟩
          · exact Or.inr hmem
  refine hloop s.latest.entries s hr hfree (fun x hx => ?_) rfl (fun _ h => h)
    (Or.inr ((Dict.mem_entries _).mpr hlat))
  rw [Option.some.inj (hx.symm.trans hi)]

/-! ## Between two calls -/

/-- An observation that is not used leaves the engine waiting. -/
theorem SettleCase.waits {o : SpaState} (h : SettleCase cfg s o false s') :
    ∃ r, s'.resyncEpoch = some r := by
  cases h with
  | ignored r h => exact ⟨r, h⟩
  | restarted r h => exact ⟨r, h⟩
  | waiting r _ h => exact ⟨r, h⟩

/-- An observation that is not older becomes the current one. -/
theorem observed_state {n : ℕ} {o : SpaState} {now : ℚ} (hop : ops[n]? = some (.observe o now))
    (hstale : (engineAt cfg ops n).stale o = false) :
    (engineAt cfg ops (n + 1)).state = some o := by
  have haccepted : (engineAt cfg ops n).accepted (.observe o now) = some o := by
    simp [Engine.accepted, hstale]
  rw [engineAt_succ hop]
  exact (step_accepted cfg haccepted).1

/-- What becomes of it: it is not used, and the engine waits, or it is used for the
    confirmation and by the final loop. -/
theorem observe_case (cfg : EngineConfig) {s : Engine} {o : SpaState} (hstale : s.stale o = false)
    (now : ℚ) :
    (((s.arrive cfg o now).settle cfg o).1 = false ∧
        ∃ r, (s.observe cfg o now).resyncEpoch = some r) ∨
      ((s.arrive cfg o now).settle cfg o).1 = true ∧
        ∃ s₁, SettleCase cfg (s.arrive cfg o now) o true s₁ ∧
          s.observe cfg o now = (s₁.confirm cfg o now).verifyLatest o := by
  have hcase := settle_case cfg (s.arrive cfg o now) o
  unfold observe
  rw [if_neg (by simp [hstale])]
  split
  · next s₁ hset =>
    rw [hset] at hcase ⊢
    exact Or.inl ⟨rfl, hcase.waits⟩
  · next s₁ hset =>
    rw [hset] at hcase ⊢
    exact Or.inr ⟨rfl, s₁, hcase, rfl⟩

/-- A pending filter goal that could be verified without another observation was
    requested on the current one: its record was queried, and the goal has not been
    transmitted. -/
def Known (cfg : EngineConfig) (ops : List EngineOp) (n : ℕ) : Prop :=
  ∀ id goal o, (engineAt cfg ops n).latest.get? .filters = some id →
    (engineAt cfg ops n).intent id = some goal → goal.stage.terminal = false →
    (engineAt cfg ops n).inflight = none → (engineAt cfg ops n).resyncEpoch = none →
    (engineAt cfg ops n).state = some o → o.safeFor .filters = true →
    Value.shows (o.value .filters) goal.desired = true →
    o.filtersAt.isSome = true ∧
      ∀ action at_, Transmitted cfg ops n action at_ → action.intent.id ≠ id

theorem Transmitted.cases {n : ℕ} {action : Action} {at_ : ℚ}
    (h : Transmitted cfg ops (n + 1) action at_) :
    Transmitted cfg ops n action at_ ∨ Transmits cfg ops n action := by
  obtain ⟨m, hm, ctsAt, hop, hout⟩ := h
  rcases Nat.lt_succ_iff_lt_or_eq.mp hm with hlt | rfl
  · exact Or.inl ⟨m, hlt, ctsAt, hop, hout⟩
  · exact Or.inr ⟨at_, ctsAt, hop, hout⟩

theorem safeFor_offline {o o' : SpaState} (h : offline (some o) = some o') (control : Control) :
    o'.safeFor control = false := by
  cases h
  by_contra hs
  have := available_of_safeFor (by simpa using hs)
  cases this

/-- A call that revives no goal and shows the engine nothing new. -/
theorem Known.quiet {n : ℕ} (h : Known cfg ops n)
    (hu : Updates Ends (engineAt cfg ops n) (engineAt cfg ops (n + 1)))
    (hstate : (engineAt cfg ops (n + 1)).state = (engineAt cfg ops n).state ∨
      (engineAt cfg ops (n + 1)).state = offline (engineAt cfg ops n).state)
    (hfree : (engineAt cfg ops (n + 1)).inflight = none →
      (engineAt cfg ops (n + 1)).resyncEpoch = none →
      (engineAt cfg ops n).inflight = none ∧ (engineAt cfg ops n).resyncEpoch = none)
    (hsent : ∀ action, ¬ Transmits cfg ops n action) : Known cfg ops (n + 1) := by
  intro id goal o hlat hi hlive hnone hres ho hsafe hshow
  obtain ⟨before, hbefore, hg, hlive₀⟩ := hu.was_pending (stateAt_rep cfg ops n) hi hlive
  obtain ⟨hnone₀, hres₀⟩ := hfree hnone hres
  have ho₀ : (engineAt cfg ops n).state = some o := by
    rcases hstate with heq | heq
    · rw [← heq, ho]
    · rw [heq] at ho
      cases hs : (engineAt cfg ops n).state with
      | none =>
        rw [hs] at ho
        cases ho
      | some o₀ =>
        rw [hs] at ho
        rw [safeFor_offline ho] at hsafe
        cases hsafe
  rw [(goal_eq hg).2.2.1] at hshow
  rw [hu.latest] at hlat
  obtain ⟨hdated, hnever⟩ := h id before o hlat hbefore hlive₀ hnone₀ hres₀ ho₀ hsafe hshow
  refine ⟨hdated, fun action at_ ht => ?_⟩
  rcases ht.cases with ht | ht
  · exact hnever action at_ ht
  · exact absurd ht (hsent action)

theorem Ticked.free (h : Ticked s s') (hi : s'.inflight = none) (hr : s'.resyncEpoch = none) :
    s.inflight = none ∧ s.resyncEpoch = none := by
  obtain ⟨-, hc | ⟨pending, hc⟩⟩ := h
  · exact ⟨hc.inflight ▸ hi, hc.resyncEpoch ▸ hr⟩
  · rw [hc.resyncEpoch] at hr
    cases hr

/-- A filter goal is requested on a queried record. -/
theorem admitOn_filters {r : Request} {o : SpaState} (h : s.admitOn cfg r = .ok o)
    (hc : r.control = .filters) : o.filtersAt.isSome = true := by
  have hstate := admitOn_state h
  unfold admitOn at h
  rw [hstate] at h
  dsimp only at h
  split at h
  · cases h
  · split at h
    · cases h
    · next hrecord =>
      cases hf : o.filtersAt with
      | some t => rfl
      | none =>
        rw [hf] at hrecord
        exact absurd ⟨hc, by simp⟩ hrecord

theorem transmits_op {n : ℕ} {op : EngineOp} {action : Action} (hop : ops[n]? = some op)
    (h : Transmits cfg ops n action) : ∃ at_ ctsAt, op = .sent action at_ ctsAt := by
  obtain ⟨at_, ctsAt, hop', -⟩ := h
  rw [hop] at hop'
  exact ⟨at_, ctsAt, Option.some.inj hop'⟩

/-- Only the call `sent` transmits. -/
theorem not_transmits {n : ℕ} {op : EngineOp} (hop : ops[n]? = some op)
    (h : ∀ action at_ ctsAt, op ≠ .sent action at_ ctsAt) (action : Action) :
    ¬ Transmits cfg ops n action := by
  intro ht
  obtain ⟨at_, ctsAt, heq⟩ := transmits_op hop ht
  exact h action at_ ctsAt heq

/-- A request for another control leaves the filter goal as it is, and a new filter
    goal is requested on a queried record. -/
theorem Known.request {n : ℕ} {r : Request} (h : Known cfg ops n)
    (hop : ops[n]? = some (.request r)) : Known cfg ops (n + 1) := by
  have hr := stateAt_rep cfg ops n
  have hidle : ∀ action, ¬ Transmits cfg ops n action := not_transmits hop (by simp)
  have hnext : engineAt cfg ops (n + 1) = ((engineAt cfg ops n).request cfg r).2 :=
    engineAt_succ hop
  have htick := ticked_tick cfg (engineAt cfg ops n) r.now
  obtain ⟨e, herr, heq | heq⟩ | ⟨item, hok, hc, hid, hstate, hlatest, hi, -, hres, -⟩ :=
    request_core cfg (engineAt cfg ops n) r
  · refine h.quiet ?_ ?_ ?_ hidle
    all_goals rw [hnext, heq]
    · exact .refl _
    · exact Or.inl rfl
    · exact fun hi hr => ⟨hi, hr⟩
  · refine h.quiet ?_ ?_ ?_ hidle
    all_goals rw [hnext, heq]
    · exact (updates_tick hr cfg r.now).mono fun _ _ hq => hq.ends
    · exact Or.inl htick.1
    · exact htick.free
  · intro id goal o hlat hgoal hlive hnone hresync ho hsafe hshow
    rw [hnext] at hlat hgoal hnone hresync ho
    rw [hlatest] at hlat
    have hcreate : Creates cfg ops n item := by
      unfold Creates
      rw [(engineMachine cfg).outAt_eq hop]
      simp only [engineMachine_step, step, hok]
    by_cases hfilters : r.control = .filters
    · rw [hfilters, Dict.get?_set_self] at hlat
      cases hlat
      refine ⟨?_, fun action at_ ht hact => ?_⟩
      · obtain ⟨o', hadmitted, -⟩ := request_ok hok
        rw [hstate, admitOn_state hadmitted] at ho
        cases ho
        exact admitOn_filters hadmitted hfilters
      · obtain ⟨m, hm, ctsAt, hop', hout⟩ := ht
        obtain ⟨-, -, ⟨current, hcur, -⟩, -⟩ :=
          (show Transmits cfg ops m action from ⟨at_, ctsAt, hop', hout⟩).spec
        rw [hact] at hcur
        have := (hcreate.goal hcur).1
        omega
    · rw [Dict.get?_set_of_ne _ _ (Ne.symm hfilters), htick.latest] at hlat
      have hne : id ≠ item.id := by
        obtain ⟨x, ha, -⟩ := hr.latest _ _ hlat
        have hle := hr.active_le id x ha
        have := hcreate.intent.2.1
        omega
      obtain ⟨e, _, herr, -⟩ | ⟨new, hnew, -, -, -, -, -, -, -, -, hrest, -⟩ :=
        request_retires cfg r hr
      · rw [hok] at herr
        cases herr
      rw [hok] at hnew
      cases hnew
      have hu : Updates Ends (engineAt cfg ops n) ((engineAt cfg ops n).superseding cfg r) :=
        (superseding_quiet cfg hr r).mono fun _ _ hq => hq.ends
      obtain ⟨before, hbefore, hg, hlive₀⟩ := hu.was_pending hr (hrest id goal hgoal hne) hlive
      obtain ⟨hnone₀, hres₀⟩ := htick.free (hi.symm.trans hnone) (hres.symm.trans hresync)
      rw [(goal_eq hg).2.2.1] at hshow
      have ho₀ : (engineAt cfg ops n).state = some o := by rw [← htick.1, ← hstate, ho]
      obtain ⟨hdated, hnever⟩ := h id before o hlat hbefore hlive₀ hnone₀ hres₀ ho₀ hsafe hshow
      refine ⟨hdated, fun action at_ ht => ?_⟩
      rcases ht.cases with ht | ht
      · exact hnever action at_ ht
      · exact absurd ht (hidle action)

/-- An observation leaves no filter goal pending that it shows, or leaves the engine
    waiting. -/
theorem Known.observe {n : ℕ} {o : SpaState} {now : ℚ} (h : Known cfg ops n)
    (hop : ops[n]? = some (.observe o now)) : Known cfg ops (n + 1) := by
  have hr := stateAt_rep cfg ops n
  have hidle : ∀ action, ¬ Transmits cfg ops n action := not_transmits hop (by simp)
  have hnext : engineAt cfg ops (n + 1) = _ := engineAt_succ hop
  have hu : Updates Ends (engineAt cfg ops n) (engineAt cfg ops (n + 1)) := by
    rw [hnext]
    exact step_ended cfg hr (by intro r; simp)
  have hcase := step_case cfg (engineAt cfg ops n) (.observe o now)
  rw [← hnext] at hcase
  generalize heq : engineAt cfg ops (n + 1) = s' at hcase hu
  cases hcase with
  | ticked _ ht =>
    refine h.quiet ?_ ?_ ?_ hidle
    all_goals rw [heq]
    · exact hu
    · exact Or.inl ht.1
    · exact ht.free
  | unsettled _ hc =>
    intro id goal o' _ _ _ _ hres
    rw [heq] at hres
    obtain ⟨r, hwait⟩ := hc.waits
    rw [hwait] at hres
    cases hres
  | @settled _ _ s₁ _ _ hc hs' =>
    intro id goal o' hlat hi hlive hnone _ ho hsafe hshow
    rw [heq] at hlat hi hnone ho
    have hc₁ : IntentRep (s₁.confirm cfg o now) := by
      have hs₁ : SameGoals ((engineAt cfg ops n).arrive cfg o now) s₁ := by
        cases hc <;> exact ⟨rfl, rfl, rfl, rfl⟩
      have hr₁ := hs₁.rep ((updates_arrive hr cfg o now).rep hr)
      exact (updates_confirm (W := fun _ _ => True) cfg s₁ o now
        (fun _ _ _ _ _ _ _ _ => trivial) hr₁).rep hr₁
    have hstate : s'.state = some o := by
      rw [hs', (used_core cfg s₁ o now).1, (settled_core hc).1, (arrive_core cfg _ o now).1]
    rw [hstate] at ho
    cases ho
    have hcore := sameCore_verifyLatest (s₁.confirm cfg o now) o
    rw [hs', hcore.latest] at hlat
    rw [hs', hcore.inflight] at hnone
    rw [hs'] at hi
    have hv : Updates Ends (s₁.confirm cfg o now) ((s₁.confirm cfg o now).verifyLatest o) :=
      updates_verifyLatest _ o (fun _ _ _ _ _ _ hlive _ _ _ => ends_of_live hlive) hc₁
    obtain ⟨before, hbefore, hg, -⟩ := hv.was_pending hc₁ hi hlive
    rw [(goal_eq hg).2.2.1] at hshow
    rw [verifyLatest_ended hc₁ hlat hbefore hnone hsafe hshow goal hi] at hlive
    cases hlive

theorem known_succ {n : ℕ} (h : Known cfg ops n) : Known cfg ops (n + 1) := by
  cases hop : ops[n]? with
  | none =>
    have heq : engineAt cfg ops (n + 1) = engineAt cfg ops n :=
      (engineMachine cfg).stateAt_succ_none hop
    refine h.quiet ?_ ?_ ?_ fun action ht => ?_
    · rw [heq]
      exact .refl _
    · exact Or.inl (by rw [heq])
    · rw [heq]
      exact fun hi hr => ⟨hi, hr⟩
    · obtain ⟨_, _, hop', -⟩ := ht
      rw [hop] at hop'
      cases hop'
  | some op =>
    have hr := stateAt_rep cfg ops n
    have hnext : engineAt cfg ops (n + 1) = _ := engineAt_succ hop
    -- a call that changes no more of the core than a `tick`
    have hticked : (∀ r, op ≠ .request r) → (∀ action at_ ctsAt, op ≠ .sent action at_ ctsAt) →
        Ticked (engineAt cfg ops n) ((engineAt cfg ops n).step cfg op).1 →
        Known cfg ops (n + 1) := by
      intro hreq hsent ht
      refine h.quiet ?_ ?_ ?_ (not_transmits hop hsent)
      · rw [hnext]
        exact step_ended cfg hr hreq
      · rw [hnext]
        exact Or.inl ht.1
      · rw [hnext]
        exact ht.free
    have hsame : ∀ {e : Engine}, SameCore (engineAt cfg ops n) e → Ticked (engineAt cfg ops n) e :=
      fun hc => ⟨hc.state, Or.inl hc⟩
    cases op with
    | request r => exact h.request hop
    | observe o now => exact h.observe hop
    | cancel control now =>
      exact hticked (by simp) (by simp) (hsame (sameCore_cancel _ control now))
    | joined id now => exact hticked (by simp) (by simp) (hsame (sameCore_joined _ id now))
    | tick now => exact hticked (by simp) (by simp) (ticked_tick cfg _ now)
    | nextAction now =>
      refine hticked (by simp) (by simp) ?_
      have hcore := nextAction_core cfg (engineAt cfg ops n) now
      obtain ⟨hstate, ht | ⟨pending, ht⟩⟩ := ticked_tick cfg (engineAt cfg ops n) now
      · exact hsame (ht.trans hcore)
      · exact ⟨hcore.state.trans hstate,
          Or.inr ⟨pending, ht.of_flight (SameCore.refl _).flight hcore.flight⟩⟩
    | suspend now =>
      intro id goal o _ _ _ _ _ ho hsafe
      have hstate : (engineAt cfg ops (n + 1)).state = offline (engineAt cfg ops n).state := by
        rw [hnext]
        exact (suspend_core _ now).1
      rw [hstate] at ho
      cases hs : (engineAt cfg ops n).state with
      | none =>
        rw [hs] at ho
        cases ho
      | some o₀ =>
        rw [hs] at ho
        rw [safeFor_offline ho] at hsafe
        cases hsafe
    | sent action at_ ctsAt =>
      obtain ⟨e, herr, hcore⟩ | ⟨-, -, -, -, -, hi, -⟩ :=
        sent_core cfg (engineAt cfg ops n) action at_ ctsAt
      · refine h.quiet ?_ ?_ ?_ fun action' hact => ?_
        · rw [hnext]
          exact step_ended cfg hr (by intro r; simp)
        · rw [hnext]
          exact Or.inl hcore.state
        · rw [hnext]
          exact (hsame hcore).free
        · obtain ⟨_, _, hop', hout⟩ := hact
          rw [hop] at hop'
          cases hop'
          rw [outAt_receipt hop, herr] at hout
          cases hout
      · intro id goal o _ _ _ hnone
        rw [hnext] at hnone
        have hi : ((engineAt cfg ops n).step cfg (.sent action at_ ctsAt)).1.inflight = _ := hi
        cases hi.symm.trans hnone

theorem stateAt_known (cfg : EngineConfig) (ops : List EngineOp) (n : ℕ) : Known cfg ops n := by
  induction n with
  | zero =>
    intro id goal o hlat
    cases hlat
  | succ n ih => exact known_succ ih

/-! ## Who verifies -/

/-- What holds of a goal that call `n` verifies: it was pending, the observation shows
    it, and the call is an `observe` or a `next_action`. -/
theorem Verifies.cases {n : ℕ} {x : Intent} (hv : Verifies cfg ops n x) :
    ∃ op before, ops[n]? = some op ∧ (engineAt cfg ops n).intent x.id = some before ∧
      x.goal = before.goal ∧ before.stage.terminal = false ∧
      Shown (engineAt cfg ops n) (engineAt cfg ops (n + 1)) x ∧
      ((∃ o now, op = .observe o now) ∨ ∃ now, op = .nextAction now) := by
  obtain ⟨hi, hst, hnot⟩ := hv
  have hr := stateAt_rep cfg ops n
  cases hop : ops[n]? with
  | none =>
    rw [engineAt, (engineMachine cfg).stateAt_succ_none hop] at hi
    exact absurd hst (hnot x hi)
  | some op =>
    have hafter := hi
    rw [engineAt_succ hop] at hi
    have hwho : (∃ o now, op = .observe o now) ∨ ∃ now, op = .nextAction now := by
      by_contra hno
      push Not at hno
      obtain ⟨before, hbefore, hvb⟩ := step_verified_before cfg hr hno.1 hno.2 hi hst
      exact hnot before hbefore hvb
    rcases (step_intent cfg hr op).2.2 x.id x hi with ⟨-, hq⟩ | ⟨before, hbefore, hg, hshown⟩
    · rw [hst] at hq
      cases hq
    refine ⟨op, before, rfl, hbefore, hg, ?_, ?_, hwho⟩
    · by_contra hended
      have := stage_kept_succ hbefore hafter (by simpa using hended)
      exact hnot before hbefore (by rw [← this, hst])
    · rw [engineAt_succ hop]
      exact (hshown hst).resolve_left (hnot before hbefore)

/-- Call `n` has verified `x` on a queried filter record from after every filter write
    for it. -/
def Read (cfg : EngineConfig) (ops : List EngineOp) (n : ℕ) (x : Intent) : Prop :=
  ∃ o t, (engineAt cfg ops (n + 1)).state = some o ∧ o.filtersAt = some t ∧
    ∀ action at_, Transmitted cfg ops (n + 1) action at_ → action.intent.id = x.id → at_ < t

/-- Call `n` is an observation that the final loop takes for the confirmation of the
    pending filter goal `item`, although its record was not queried, or not after every
    write for the goal. -/
structure Echo (cfg : EngineConfig) (ops : List EngineOp) (n : ℕ) (o : SpaState) (now : ℚ)
    (item : Intent) : Prop where
  call : ops[n]? = some (.observe o now)
  accepted : (engineAt cfg ops n).stale o = false
  goal : (engineAt cfg ops n).intent item.id = some item
  pending : item.stage.terminal = false
  due : overdue now item = false
  filters : item.control = .filters
  safe : o.safeFor .filters = true
  shown : Value.shows (o.value .filters) item.desired = true
  used : ((engineAt cfg ops n).settle cfg o).1 = true
  free : ∀ pending, (engineAt cfg ops n).inflight = some pending →
    completes cfg pending o = true ∧
      now - pending.sentAt < cfg.timeoutOf pending.action.intent.control
  unqueried : ∀ t, o.filtersAt = some t →
    ∃ action at_, Transmitted cfg ops n action at_ ∧ action.intent.id = item.id ∧ t ≤ at_

/-- Whether an observation may be used depends on the barrier only. -/
theorem settle_fst_congr (h : SameFlight s s') (o : SpaState) :
    (s'.settle cfg o).1 = (s.settle cfg o).1 := by
  unfold settle
  rw [h.resyncEpoch, h.latest, h.settling]
  cases s.resyncEpoch with
  | none => rfl
  | some resync =>
    dsimp only
    split
    · rfl
    · cases s.settling with
      | none => rfl
      | some previous =>
        dsimp only
        split
        · rfl
        · split <;> rfl

/-- A `next_action` only verifies a filter goal it knows from its request. -/
theorem read_of_nextAction {n : ℕ} {x before : Intent} {now : ℚ}
    (hop : ops[n]? = some (.nextAction now)) (hc : x.control = .filters)
    (hbefore : (engineAt cfg ops n).intent x.id = some before) (hg : x.goal = before.goal)
    (hlive : before.stage.terminal = false)
    (hshown : Shown (engineAt cfg ops n) (engineAt cfg ops (n + 1)) x) : Read cfg ops n x := by
  obtain ⟨hnone, hres, o, ho, hsafe, hshow⟩ := hshown
  have hnext : engineAt cfg ops (n + 1) = ((engineAt cfg ops n).nextAction cfg now).2 :=
    engineAt_succ hop
  have hcore := nextAction_core cfg (engineAt cfg ops n) now
  rw [hnext] at hnone hres ho
  have ht := ticked_tick cfg (engineAt cfg ops n) now
  obtain ⟨hnone₀, hres₀⟩ := ht.free (hcore.inflight ▸ hnone) (hcore.resyncEpoch ▸ hres)
  have ho₀ : (engineAt cfg ops n).state = some o := by rw [← ht.1, ← hcore.state, ho]
  have hctl : before.control = .filters := (intent_control hg).symm.trans hc
  have hlat := stateAt_pending cfg ops n x.id before hbefore hlive
  rw [hctl] at hlat
  have hval : Value.shows (o.value .filters) before.desired = true := by
    rcases hshow with hshow | ⟨pending, hp, -⟩
    · rw [hc, (goal_eq hg).2.2.1] at hshow
      exact hshow
    · rw [hnone₀] at hp
      cases hp
  rw [hc] at hsafe
  obtain ⟨hdated, hnever⟩ :=
    stateAt_known cfg ops n x.id before o hlat hbefore hlive hnone₀ hres₀ ho₀ hsafe hval
  obtain ⟨t, ht'⟩ := Option.isSome_iff_exists.mp hdated
  refine ⟨o, t, by rw [hnext, ho], ht', fun action at_ hact hid => ?_⟩
  rcases hact.cases with hact | hact
  · exact absurd hid (hnever action at_ hact)
  · exact absurd hact (not_transmits hop (by simp) action)

/-- An observation that verifies a filter goal is a readback or an echo. -/
theorem read_or_echo {n : ℕ} {x before : Intent} {o : SpaState} {now : ℚ}
    (hop : ops[n]? = some (.observe o now)) (hv : Verifies cfg ops n x)
    (hc : x.control = .filters)
    (hbefore : (engineAt cfg ops n).intent x.id = some before) (hg : x.goal = before.goal)
    (hlive : before.stage.terminal = false)
    (hshown : Shown (engineAt cfg ops n) (engineAt cfg ops (n + 1)) x) :
    Read cfg ops n x ∨ Echo cfg ops n o now before := by
  have hr := stateAt_rep cfg ops n
  have hp := stateAt_pending cfg ops n
  have hid : before.id = x.id := (goal_eq hg).1.symm
  have hctl : before.control = .filters := (intent_control hg).symm.trans hc
  obtain ⟨hi, hst, hnot⟩ := hv
  have hnext : engineAt cfg ops (n + 1) = (engineAt cfg ops n).observe cfg o now :=
    engineAt_succ hop
  have hstale : (engineAt cfg ops n).stale o = false := by
    by_contra hs
    have heq : (engineAt cfg ops n).observe cfg o now = { engineAt cfg ops n with now } := by
      unfold observe
      rw [if_pos (by simpa using hs)]
    rw [hnext, heq] at hi
    exact hnot x hi hst
  have hstate := observed_state hop hstale
  obtain ⟨hnone, hres, o', ho', hsafe, hshow⟩ := hshown
  obtain rfl := Option.some.inj (hstate.symm.trans ho')
  rw [hc] at hsafe hshow
  have hval : Value.shows (o.value .filters) before.desired = true := by
    rcases hshow with hshow | ⟨pending, hpend, hpid, hack, -⟩
    · rw [← (goal_eq hg).2.2.1]
      exact hshow
    · have := inflight_control hpend (by rw [hpid]; exact hbefore)
      rw [hctl, hack] at this
      cases this
  have hdue : overdue now before = false := by
    by_contra hover
    obtain ⟨-, d, hd, hle⟩ := overdue_iff.mp (by simpa using hover)
    have hi' := hi
    rw [engineAt_succ hop] at hi'
    have hlt : now < d := step_verified_in_time cfg hr hp rfl hi' hst hnot
      ((goal_deadline hg).trans hd)
    exact absurd hle (not_le.mpr hlt)
  -- the observation was used, so nothing became ambiguous on its arrival
  obtain ⟨-, r, hwait⟩ | ⟨hused, s₁, hcase, hobs⟩ := observe_case cfg hstale now
  · rw [hnext, hwait] at hres
    cases hres
  obtain ⟨-, ⟨hf, hwindow⟩ | ⟨pending, hend⟩⟩ := arrive_core cfg (engineAt cfg ops n) o now
  · have hfree : ∀ pending, (engineAt cfg ops n).inflight = some pending →
        completes cfg pending o = true ∧
          now - pending.sentAt < cfg.timeoutOf pending.action.intent.control := by
      intro pending hpend
      refine ⟨?_, (hwindow pending hpend).2⟩
      have hs₁ : s₁.inflight = some pending := by
        rw [(settled_core hcase).2.2.1, hf.inflight, hpend]
      by_contra hcomp
      have hsame : s₁.confirm cfg o now = s₁ := by
        unfold confirm
        rw [hs₁]
        dsimp only
        rw [if_pos hcomp]
      rw [hnext, hobs, hsame, (sameCore_verifyLatest _ o).inflight, hs₁] at hnone
      cases hnone
    by_cases hun : ∀ t, o.filtersAt = some t →
        ∃ action at_, Transmitted cfg ops n action at_ ∧ action.intent.id = before.id ∧ t ≤ at_
    · exact Or.inr ⟨hop, hstale, by rw [hid]; exact hbefore, hlive, hdue, hctl, hsafe, hval,
        (settle_fst_congr hf o).symm.trans hused, hfree, hun⟩
    · push Not at hun
      obtain ⟨t, ht, hlater⟩ := hun
      refine Or.inl ⟨o, t, hstate, ht, fun action at_ hact hact' => ?_⟩
      rcases hact.cases with hact | hact
      · exact hlater action at_ hact (hact'.trans hid.symm)
      · exact absurd hact (not_transmits hop (by simp) action)
  · cases hcase with
    | clear hn => rw [hend.resyncEpoch] at hn; cases hn
    | released _ _ _ _ _ hpv => rw [hend.settling] at hpv; cases hpv

/-! ## Echoes verify -/

/-- A `tick` leaves a pending goal that is not overdue as it is, unless it closes the
    transaction in flight. -/
theorem tick_intent (hr : IntentRep s) {now : ℚ} {id : ℕ} {item : Intent}
    (hi : s.intent id = some item) (hlive : item.stage.terminal = false)
    (hdue : overdue now item = false)
    (hin : ∀ pending, s.inflight = some pending →
      now - pending.sentAt < cfg.timeoutOf pending.action.intent.control) :
    (s.tick cfg now).intent id = some item := by
  have hsame := sameGoals_now s now
  have hu := updates_overdue (hsame.rep hr) now
  have hi₀ : ({ s with now } : Engine).intent id = some item := hi
  obtain ⟨mid, hmid, hg⟩ := hu.exists_of_intent (hsame.rep hr) hi₀
  have hexp : (({ s with now }).expireDeadlines now).intent id = some item := by
    obtain ⟨x, hx, -, rfl | ⟨before, hb, hover⟩⟩ := hu.evolves (hsame.rep hr) hmid
    · rw [hmid, ← hx, hi₀]
    · -- an overdue goal would have the deadline of this one
      obtain rfl := Option.some.inj (hi₀.symm.trans hx)
      obtain ⟨-, d, hd, hle⟩ := overdue_iff.mp hover
      rw [overdue_iff.mpr ⟨hlive, d, (goal_deadline hb).symm.trans hd, hle⟩] at hdue
      cases hdue
  have hflight : (({ s with now }).expireDeadlines now).inflight = s.inflight :=
    (sameCore_expireDeadlines { s with now } now).inflight
  unfold tick
  dsimp only
  split
  · exact hexp
  · next pending hpend =>
    rw [hflight] at hpend
    rw [if_neg (not_le.mpr (hin pending hpend))]
    exact hexp

/-- The arrival of an observation leaves such a goal as it is, unless it ends the
    transaction in flight. -/
theorem arrive_intent (hr : IntentRep s) {o : SpaState} {now : ℚ} {id : ℕ} {item : Intent}
    (hi : s.intent id = some item) (hlive : item.stage.terminal = false)
    (hdue : overdue now item = false)
    (hin : ∀ pending, s.inflight = some pending → (∀ old, s.state = some old → old.epoch = o.epoch) ∧
      now - pending.sentAt < cfg.timeoutOf pending.action.intent.control) :
    (s.arrive cfg o now).intent id = some item := by
  unfold arrive
  dsimp only
  split
  · next hep =>
    have hfree : s.inflight = none := by
      cases hs : s.inflight with
      | none => rfl
      | some pending =>
        obtain ⟨old, hold, hne⟩ := Option.any_eq_true .. |>.mp hep
        exact absurd ((hin pending hs).1 old hold) (by simpa using hne)
    have hoff : s.suspend now = { s with now := now, state := offline s.state } := by
      unfold suspend
      dsimp only
      rw [hfree]
      rfl
    have hsame : SameGoals s (s.suspend now) := by
      rw [hoff]
      exact ⟨rfl, rfl, rfl, rfl⟩
    refine tick_intent (s := s.suspend now) (hsame.rep hr) (by rw [hsame.intent, hi]) hlive hdue ?_
    intro pending hpend
    rw [hoff] at hpend
    exact absurd (hpend.symm.trans hfree) (by simp)
  · exact tick_intent (s := { s with now }) ((sameGoals_now s now).rep hr) hi hlive hdue
      fun pending hpend => (hin pending hpend).2

/-- The transaction in flight survives the arrival of an observation of its epoch, as long as
    its confirmation is not overdue. -/
theorem arrive_flight {o : SpaState} {now : ℚ}
    (hin : ∀ pending, s.inflight = some pending → (∀ old, s.state = some old → old.epoch = o.epoch) ∧
      now - pending.sentAt < cfg.timeoutOf pending.action.intent.control) :
    SameFlight s (s.arrive cfg o now) := by
  obtain ⟨-, ⟨hf, -⟩ | ⟨pending, hend⟩⟩ := arrive_core cfg s o now
  · exact hf
  -- it would have ended for its epoch or its age
  obtain ⟨hep, hwindow⟩ := hin pending hend.before
  have hkeep : (s.arrive cfg o now).inflight = s.inflight := by
    unfold arrive
    dsimp only
    rw [if_neg]
    · obtain ⟨-, ⟨ht, -⟩ | ⟨q, ht, hover⟩⟩ := tick_core cfg { s with now } now
      · exact ht.inflight
      · obtain rfl := Option.some.inj (hend.before.symm.trans ht.before)
        exact absurd hover (not_le.mpr hwindow)
    · rw [Option.any_eq_true]
      rintro ⟨old, hold, hne⟩
      exact absurd (hep old hold) (by simpa using hne)
  rw [hend.after, hend.before] at hkeep
  cases hkeep

/-- The confirmation ends no filter goal. -/
theorem filters_confirm (hr : IntentRep s) (o : SpaState) (now : ℚ)
    (hwrites : ∀ pending x, s.inflight = some pending →
      s.intent pending.action.intent.id = some x → x.control = pending.action.intent.control)
    {id : ℕ} {item : Intent} (hi : s.intent id = some item) (hc : item.control = .filters) :
    (s.confirm cfg o now).intent id = some item := by
  have hconfirm : Updates (fun x _ => x.control ≠ .filters) s (s.confirm cfg o now) := by
    refine updates_confirm cfg s o now (fun pending x hpend _ hx _ hkind _ => ?_) hr
    rw [hwrites pending x hpend hx]
    rcases hkind with hlow | hack
    · simp only [pumpOffRetainedLow, Bool.decide_and, Bool.and_eq_true, decide_eq_true_eq] at hlow
      rw [hlow.1]
      decide
    · rw [hack]
      decide
  obtain ⟨y, hy, -⟩ := hconfirm.exists_of_intent hr hi
  obtain ⟨z, hz, -, rfl | ⟨before, hb, hne⟩⟩ := hconfirm.evolves hr hy
  · rw [hy, ← hz, hi]
  · obtain rfl := Option.some.inj (hi.symm.trans hz)
    exact absurd ((intent_control hb).trans hc) hne

/-- The confirmation leaves nothing in flight that the observation completes. -/
theorem confirm_free {o : SpaState} (now : ℚ)
    (h : ∀ pending, s.inflight = some pending → completes cfg pending o = true) :
    (s.confirm cfg o now).inflight = none := by
  cases hpend : s.inflight with
  | none =>
    unfold confirm
    rw [hpend]
    exact hpend
  | some pending => exact confirm_inflight hpend (h pending hpend)

/-- The final loop verifies the latest goal of a control that the observation shows. -/
theorem verifyLatest_verifies {o : SpaState} {control : Control} {item : Intent} (hr : IntentRep s)
    (hlat : s.latest.get? control = some item.id) (hi : s.intent item.id = some item)
    (hfree : s.inflight = none) (hlive : item.stage.terminal = false)
    (hsafe : o.safeFor control = true) (hshow : Value.shows (o.value control) item.desired = true) :
    ∃ x, (s.verifyLatest o).intent item.id = some x ∧ x.goal = item.goal ∧ x.stage = .verified := by
  have hlast : Updates (fun _ stage => stage = .verified) s (s.verifyLatest o) :=
    updates_verifyLatest _ o (fun _ _ _ _ _ _ _ _ _ _ => rfl) hr
  obtain ⟨x, hx, hg⟩ := hlast.exists_of_intent hr hi
  have hended := verifyLatest_ended hr hlat hi hfree hsafe hshow x hx
  refine ⟨x, hx, hg, ?_⟩
  obtain ⟨z, hz, -, rfl | ⟨_, -, hv⟩⟩ := hlast.evolves hr hx
  · rw [← Option.some.inj (hi.symm.trans hz), hlive] at hended
    cases hended
  · exact hv

/-- What an echo leaves behind is no readback of its goal. -/
theorem Echo.unread {n : ℕ} {o : SpaState} {now : ℚ} {item x : Intent}
    (h : Echo cfg ops n o now item) (hid : x.id = item.id) : ¬ Read cfg ops n x := by
  rintro ⟨o', t, ho', ht, hlater⟩
  obtain rfl := Option.some.inj ((observed_state h.call h.accepted).symm.trans ho')
  obtain ⟨action, at_, ⟨m, hm, hact⟩, hact', hle⟩ := h.unqueried t ht
  exact absurd (hlater action at_ ⟨m, hm.trans n.lt_succ_self, hact⟩ (hact'.trans hid.symm))
    (not_lt.mpr hle)

/-- **An echo verifies its goal.** -/
theorem Echo.verifies {n : ℕ} {o : SpaState} {now : ℚ} {item : Intent}
    (h : Echo cfg ops n o now item) :
    ∃ x, Verifies cfg ops n x ∧ x.control = .filters ∧ ¬ Read cfg ops n x := by
  have hr := stateAt_rep cfg ops n
  have hnext : engineAt cfg ops (n + 1) = (engineAt cfg ops n).observe cfg o now :=
    engineAt_succ h.call
  have hin : ∀ pending, (engineAt cfg ops n).inflight = some pending →
      (∀ old, (engineAt cfg ops n).state = some old → old.epoch = o.epoch) ∧
        now - pending.sentAt < cfg.timeoutOf pending.action.intent.control := by
    intro pending hpend
    obtain ⟨hcomp, hwindow⟩ := h.free pending hpend
    refine ⟨fun old hold => ?_, hwindow⟩
    obtain ⟨o', ho', hep⟩ := (stateAt_epochs cfg ops n).inflight pending hpend
    obtain rfl := Option.some.inj (hold.symm.trans ho')
    simp only [completes, Bool.decide_and, Bool.and_eq_true, decide_eq_true_eq] at hcomp
    rw [← hep, hcomp.2.1]
  have hflight : SameFlight (engineAt cfg ops n) ((engineAt cfg ops n).arrive cfg o now) :=
    arrive_flight hin
  have hused : (((engineAt cfg ops n).arrive cfg o now).settle cfg o).1 = true := by
    rw [settle_fst_congr hflight]
    exact h.used
  obtain ⟨hunused, -⟩ | ⟨-, s₁, hcase, hobs⟩ := observe_case cfg h.accepted now
  · rw [hused] at hunused
    cases hunused
  -- before the confirmation the goal is as it was
  have hsame := settled_goals hcase
  have harr := updates_arrive hr cfg o now
  have hr₁ := hsame.rep (harr.rep hr)
  have hs₁ : s₁.inflight = (engineAt cfg ops n).inflight := by
    rw [(settled_core hcase).2.2.1, hflight.inflight]
  have hi₁ : s₁.intent item.id = some item := by
    rw [hsame.intent]
    exact arrive_intent hr h.goal h.pending h.due hin
  have hlat₁ : s₁.latest.get? .filters = some item.id := by
    rw [hsame.latest, harr.latest, ← h.filters]
    exact stateAt_pending cfg ops n item.id item h.goal h.pending
  -- and after it, too, with nothing in flight
  have hic : (s₁.confirm cfg o now).intent item.id = some item := by
    refine filters_confirm hr₁ o now (fun pending x hpend hx => ?_) hi₁ h.filters
    rw [hs₁] at hpend
    rw [hsame.intent] at hx
    obtain ⟨y, hy, hg, -⟩ := harr.evolves hr hx
    rw [intent_control hg, inflight_control hpend hy]
  have hfree : (s₁.confirm cfg o now).inflight = none :=
    confirm_free now fun pending hpend => (h.free pending (hs₁ ▸ hpend)).1
  have hconfirm := updates_confirm (W := fun _ _ => True) cfg s₁ o now
    (fun _ _ _ _ _ _ _ _ => trivial) hr₁
  obtain ⟨x, hx, hg, hst⟩ := verifyLatest_verifies (hconfirm.rep hr₁)
    (by rw [hconfirm.latest]; exact hlat₁) hic hfree h.pending h.safe h.shown
  have hid : x.id = item.id := (goal_eq hg).1
  refine ⟨x, ⟨?_, hst, fun before hb hv => ?_⟩, (intent_control hg).trans h.filters, h.unread hid⟩
  · rw [hnext, hobs, hid]
    exact hx
  · rw [hid] at hb
    have hlive := h.pending
    rw [← Option.some.inj (hb.symm.trans h.goal), hv] at hlive
    cases hlive

/-! ## Runs -/

/-- **Filter goals are verified by a readback** in exactly the runs without an echo:
    whenever a call verifies a filter goal, the current filter record was queried, and
    it is from after every filter write for the goal. -/
theorem filters_read (cfg : EngineConfig) (ops : List EngineOp) :
    (∀ n x, Verifies cfg ops n x → x.control = .filters → Read cfg ops n x) ↔
      ∀ n o now item, ¬ Echo cfg ops n o now item := by
  constructor
  · intro hread n o now item hecho
    obtain ⟨x, hv, hc, hnot⟩ := hecho.verifies
    exact hnot (hread n x hv hc)
  · intro hno n x hv hc
    obtain ⟨op, before, hop, hbefore, hg, hlive, hshown, hwho⟩ := hv.cases
    rcases hwho with ⟨o, now, rfl⟩ | ⟨now, rfl⟩
    · exact (read_or_echo hop hv hc hbefore hg hlive hshown).resolve_right (hno n o now before)
    · exact read_of_nextAction hop hc hbefore hg hlive hshown

/-- A filter record: the first cycle starts at `hour`, for two hours; the second is
    off. -/
def sampleFilters (hour : ℕ) (h : hour ≤ 23) : FilterCyclesMessage where
  frame := ⟨10, 0xBF, 0x23, [UInt8.ofNat hour, 0, 2, 0, 0, 0, 0, 0], by simp⟩
  first := ⟨hour, 0, 120, true⟩
  second := ⟨0, 0, 0, false⟩
  valid := ⟨⟨⟨h, by simp, by simp⟩, ⟨by decide, by decide, by decide⟩⟩, rfl⟩

/-- The first cycle is to start at nine; before the goal is transmitted, an
    unsolicited record shows that it does. -/
def echoedRun : List EngineOp :=
  [.observe { sampleState (sampleStatus 98 0 true) 1 1 0 with
      filters := some (sampleFilters 8 (by decide)), filtersAt := some 0 } 0,
   .request
    { control := .filters, desired := .filters (sampleFilters 9 (by decide)).schedule, now := 0 },
   .observe { sampleState (sampleStatus 98 0 true) 1 2 1 with
      filters := some (sampleFilters 9 (by decide)), filtersAt := none } 1]

theorem filters_echoed :
    ∃ x, Verifies .default echoedRun 2 x ∧ x.control = .filters ∧
      ∃ o, (engineAt .default echoedRun 3).state = some o ∧ o.filtersAt = none := by
  refine ⟨{ id := 1, control := .filters,
            desired := .filters (sampleFilters 9 (by decide)).schedule, requestedAt := 0,
            stage := .verified }, ⟨by decide +kernel, rfl, fun before hb => ?_⟩, rfl, ?_⟩
  · have hbefore : (engineAt .default echoedRun 2).intent 1 = some
        { id := 1, control := .filters,
          desired := .filters (sampleFilters 9 (by decide)).schedule, requestedAt := 0 } := by
      decide +kernel
    rw [Option.some.inj (hb.symm.trans hbefore)]
    decide
  · have hstate : ((engineAt .default echoedRun 3).state.map SpaState.filtersAt) = some none := by
      decide +kernel
    obtain ⟨o, ho, hf⟩ := Option.map_eq_some_iff.mp hstate
    exact ⟨o, ho, hf⟩

end Engine

end BalboaRs485
