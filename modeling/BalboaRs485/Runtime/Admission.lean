import BalboaRs485.Runtime.Stretch

/-!
# What is handed out was admitted

The runtime keeps the predicates of its requests in a map by control, the engine keeps
the goals. A goal that can still be sent is the latest of its control, so the map holds
its predicate, through replacements, refused requests and goals that go back to the
queue; and `prepare` calls the whole map before it asks the engine.

* `Granted`: the invariant, on the history of accepted requests.
* `Granted.descend`, `Granted.request`, `Granted.prepare`: what the runtime can do to the
  engine and the map.
* `Granted.stretch`, `step_granted`: every step is made of these.
* `transmission_admitted`: the predicate of what `prepare` hands out has answered `True` in
  that very call, and commands that expire with their connection never outlive it.
-/

namespace BalboaRs485

/-- The predicate a grant has put into `guards`. -/
def Grant.guard {ρ : Type} (g : Grant ρ) : Option (Predicate ρ) := g.request.guard g.epoch

/-- The command of the grant expires with its connection. -/
def Grant.expires {ρ : Type} (g : Grant ρ) : Bool :=
  SpaRequest.expires g.request.control ∨ g.edit.isSome

/-- A predicate that is bound to an epoch answers `True` only there, and as its caller does. -/
theorem Predicate.within_true {ρ : Type} {epoch : ℕ} {valid : Option (Predicate ρ)}
    {snapshot : Snapshot} {r : ρ} (h : (Predicate.within epoch valid snapshot r).1 = true) :
    snapshot.epoch = epoch ∧ ∀ p, valid = some p → (p snapshot r).1 = true := by
  unfold Predicate.within at h
  split at h
  · next hepoch =>
    refine ⟨hepoch, ?_⟩
    rintro p rfl
    exact h
  · cases h

namespace SpaRuntime

variable {ρ : Type} {cfg : RuntimeConfig} {e : EngineConfig} {w w' : SpaRuntime ρ}

/-! ## The invariant -/

/-- What the history of accepted requests says about the engine and the guards. -/
structure Granted (w : SpaRuntime ρ) : Prop where
  rep : Engine.IntentRep w.commands.engine
  pending : Engine.Pending w.commands.engine
  unique : ∀ g ∈ w.grants, ∀ g' ∈ w.grants, g.id = g'.id → g = g'
  known : ∀ g ∈ w.grants, g.id ≤ w.commands.engine.counter
  complete : ∀ id item, w.commands.engine.intent id = some item → ∃ g ∈ w.grants, g.id = id
  asked : ∀ g ∈ w.grants, ∀ item, w.commands.engine.intent g.id = some item →
    item.control = g.request.control ∧ item.desired = g.request.desired
  guarded : ∀ g ∈ w.grants, ∀ p, g.guard = some p →
    Commands.Guarded w.commands g.request.control g.id (· = p)
  edited : ∀ g ∈ w.grants, ∀ edit, g.edit = some edit → g.request.control = .filters ∧
    g.request.valid = some (Predicate.within g.epoch edit.valid)

theorem granted_init (world : ρ) : Granted ({ world } : SpaRuntime ρ) where
  rep := Engine.intentRep_init
  pending := Engine.pending_init
  unique := by simp
  known := by simp
  complete := by
    intro id item h
    cases h
  asked := by simp
  guarded := by simp
  edited := by simp

/-! ## What keeps it -/

/-- An old goal is still the one of its grant. -/
theorem Granted.asked_after (h : Granted w) {P : EngineOp → Prop} {engine : Engine}
    (hcalls : Engine.Calls e P w.commands.engine engine) {g : Grant ρ} (hg : g ∈ w.grants)
    {item' : Intent} (hi' : engine.intent g.id = some item') :
    item'.control = g.request.control ∧ item'.desired = g.request.desired := by
  obtain ⟨item, hi, hgoal, -⟩ := (hcalls.descends h.rep h.pending).goal g.id item' (h.known g hg) hi'
  obtain ⟨-, hcontrol, hdesired, -⟩ := Engine.goal_eq hgoal
  rw [hcontrol, hdesired]
  exact h.asked g hg item hi

/-- Calls of the engine other than requests, which leave the guards alone. -/
theorem Granted.descend (h : Granted w)
    (hcalls : Engine.Calls e Engine.NoRequest w.commands.engine w'.commands.engine)
    (hguards : w'.commands.guards = w.commands.guards) (hgrants : w'.grants = w.grants) :
    Granted w' := by
  obtain ⟨hrep, hpending⟩ := hcalls.rep h.rep h.pending
  have hd := hcalls.descends h.rep h.pending
  refine ⟨hrep, hpending, ?_, ?_, ?_, ?_, ?_, ?_⟩
  · rw [hgrants]
    exact h.unique
  · intro g hg
    exact (h.known g (hgrants ▸ hg)).trans hd.counter
  · intro id item' hi
    obtain ⟨item, hi⟩ := hcalls.old h.rep h.pending hi
    rw [hgrants]
    exact h.complete id item hi
  · intro g hg item' hi
    exact h.asked_after hcalls (hgrants ▸ hg) hi
  · intro g hg p hp
    rw [hgrants] at hg
    exact (h.guarded g hg p hp).descend hd (by rw [hguards])
  · rw [hgrants]
    exact h.edited

/-- Nothing that the invariant is about has changed. -/
theorem Granted.congr (h : Granted w) (hengine : w'.commands.engine = w.commands.engine)
    (hguards : w'.commands.guards = w.commands.guards) (hgrants : w'.grants = w.grants) :
    Granted w' := by
  refine h.descend (e := .default) ?_ hguards hgrants
  rw [hengine]
  exact .refl _

/-- The world is not part of it. -/
theorem Granted.world (h : Granted w) (world : ρ) : Granted { w with world } := h.congr rfl rfl rfl

/-- One call of the engine. -/
theorem Granted.engineOp (h : Granted w) (op : EngineOp) (hop : Engine.NoRequest op) :
    Granted (w.setEngine (w.commands.engine.step e op).1) :=
  h.descend (Engine.Calls.one op hop) rfl rfl

/-- `prepare` ends goals, and keeps the guards of the others. -/
theorem Granted.prepare (h : Granted w) (now : ℚ) : Granted (w.prepare cfg now).1 := by
  have hcalls := Commands.prepare_engine cfg w.commands w.callGuard w.world now
  obtain ⟨hrep, hpending⟩ := hcalls.rep h.rep h.pending
  have hd := hcalls.descends h.rep h.pending
  refine ⟨hrep, hpending, h.unique, fun g hg => (h.known g hg).trans hd.counter, ?_, ?_, ?_, h.edited⟩
  · intro id item' hi
    obtain ⟨item, hi⟩ := (hcalls.mono fun _ hop => hop.noRequest).old h.rep h.pending hi
    exact h.complete id item hi
  · exact fun g hg item' hi => h.asked_after hcalls hg hi
  · intro g hg p hp
    exact (h.guarded g hg p hp).prepare cfg (fun _ _ hguard => hguard) h.rep h.pending w.world now

/-- The goals behind a request: those before, and the one of an accepted request. -/
theorem request_goals {s : Engine} (hr : Engine.IntentRep s) (r : Engine.Request) {id : ℕ}
    {item' : Intent} (hi : (s.request e r).2.intent id = some item') :
    (∃ item, s.intent id = some item) ∨ (s.request e r).1 = .ok item' ∧ item'.id = id := by
  obtain ⟨err, s', -, hs', hu⟩ | ⟨new, s₁, hok, hu, -, -, -, -, -, hnew, -, -, hrest, -⟩ :=
    Engine.request_intents e r hr
  · rw [hs'] at hi
    obtain ⟨item, hi₀, -⟩ := hu.evolves hr hi
    exact Or.inl ⟨item, hi₀⟩
  · by_cases hne : id = new.id
    · subst hne
      obtain rfl := Option.some.inj (hnew.symm.trans hi)
      exact Or.inr ⟨hok, rfl⟩
    · obtain ⟨item, hi₀, -⟩ := hu.evolves hr (hrest id item' hi hne)
      exact Or.inl ⟨item, hi₀⟩

/-- `request` is refused, or it is a request of the participant, and a grant if that is
    accepted. -/
theorem request_case (cfg : RuntimeConfig) (w : SpaRuntime ρ) (r : SpaRequest ρ)
    (edit : Option (FilterEdit ρ)) :
    w.request cfg r edit = (.error .notReady, w) ∨
      (∃ err, (w.commands.request cfg (r.engineRequest w.time)
          (r.guard w.snapshot.epoch)).1 = .error err ∧
        w.request cfg r edit = (.error (.engine err), { w with
          commands := (w.commands.request cfg (r.engineRequest w.time)
            (r.guard w.snapshot.epoch)).2 })) ∨
      ∃ intent, (w.commands.request cfg (r.engineRequest w.time)
          (r.guard w.snapshot.epoch)).1 = .ok intent ∧
        w.request cfg r edit = (.ok intent, { w with
          commands := (w.commands.request cfg (r.engineRequest w.time)
            (r.guard w.snapshot.epoch)).2
          grants := w.grants ++ [⟨intent.id, r, w.snapshot.epoch, edit⟩] }) := by
  unfold request
  split
  · exact Or.inl rfl
  · rcases w.commands.request cfg (r.engineRequest w.time) (r.guard w.snapshot.epoch) with
      ⟨err | intent, commands⟩
    · exact Or.inr (Or.inl ⟨err, rfl, rfl⟩)
    · exact Or.inr (Or.inr ⟨intent, rfl, rfl⟩)

/-- **A request is granted with its guard**, and leaves the others theirs. -/
theorem Granted.request (h : Granted w) (r : SpaRequest ρ) (edit : Option (FilterEdit ρ))
    (hedit : ∀ x, edit = some x → r.control = .filters ∧
      r.valid = some (Predicate.within w.snapshot.epoch x.valid)) :
    Granted (w.request cfg r edit).2 := by
  have hengine := Commands.request_engine cfg w.commands (r.engineRequest w.time)
    (r.guard w.snapshot.epoch)
  have hcalls : Engine.Calls cfg.engine (fun _ => True) w.commands.engine
      (w.commands.request cfg (r.engineRequest w.time) (r.guard w.snapshot.epoch)).2.engine := by
    rw [hengine.1]
    exact .one (.request (r.engineRequest w.time)) trivial
  obtain ⟨hrep, hpending⟩ := hcalls.rep h.rep h.pending
  have hd := hcalls.descends h.rep h.pending
  have hasked : ∀ g ∈ w.grants, ∀ item, (w.commands.request cfg (r.engineRequest w.time)
      (r.guard w.snapshot.epoch)).2.engine.intent g.id = some item →
      item.control = g.request.control ∧ item.desired = g.request.desired :=
    fun g hg item hi => h.asked_after hcalls hg hi
  have hguarded : ∀ g ∈ w.grants, ∀ p, g.guard = some p → Commands.Guarded
      (w.commands.request cfg (r.engineRequest w.time) (r.guard w.snapshot.epoch)).2
      g.request.control g.id (· = p) :=
    fun g hg p hp => (h.guarded g hg p hp).request h.rep h.pending _ _
  obtain heq | ⟨err, herr, heq⟩ | ⟨intent, hok, heq⟩ := request_case cfg w r edit
  · rw [heq]
    exact h
  · rw [heq]
    refine ⟨hrep, hpending, h.unique, fun g hg => (h.known g hg).trans hd.counter, ?_, hasked,
      hguarded, h.edited⟩
    intro id item' hi
    rw [hengine.1] at hi
    rcases request_goals h.rep _ hi with ⟨item, hi₀⟩ | ⟨hok, -⟩
    · exact h.complete id item hi₀
    · rw [← hengine.2, herr] at hok
      cases hok
  · obtain ⟨err, s', herr, -⟩ | ⟨new, s₁, hok', -, hid, hc, hdes, -, -, hnew, -, hcounter, -⟩ :=
      Engine.request_intents cfg.engine (r.engineRequest w.time) h.rep
    · rw [hengine.2, herr] at hok
      cases hok
    rw [heq]
    obtain rfl := Except.ok.inj (hok'.symm.trans (hengine.2.symm.trans hok))
    have hlt : ∀ g ∈ w.grants, g.id < new.id := by
      intro g hg
      have := h.known g hg
      omega
    refine ⟨hrep, hpending, ?_, ?_, ?_, ?_, ?_, ?_⟩
    · intro g hg g' hg' hsame
      rcases List.mem_append.mp hg with hg | hg <;> rcases List.mem_append.mp hg' with hg' | hg'
      · exact h.unique g hg g' hg' hsame
      · rw [List.mem_singleton.mp hg'] at hsame
        exact absurd hsame (hlt g hg).ne
      · rw [List.mem_singleton.mp hg] at hsame
        exact absurd hsame.symm (hlt g' hg').ne
      · rw [List.mem_singleton.mp hg, List.mem_singleton.mp hg']
    · refine List.forall_mem_append.mpr ⟨fun g hg => (h.known g hg).trans hd.counter, ?_⟩
      rw [List.forall_mem_singleton]
      show new.id ≤ _
      rw [hengine.1, hcounter, hid]
    · intro id item' hi
      rw [hengine.1] at hi
      rcases request_goals h.rep _ hi with ⟨item, hi₀⟩ | ⟨hok, hitem⟩
      · obtain ⟨g, hg, hgid⟩ := h.complete id item hi₀
        exact ⟨g, List.mem_append_left _ hg, hgid⟩
      · obtain rfl := Except.ok.inj (hok'.symm.trans hok)
        exact ⟨_, List.mem_append_right _ (List.mem_singleton_self _), hitem⟩
    · refine List.forall_mem_append.mpr ⟨hasked, List.forall_mem_singleton.mpr fun item hi => ?_⟩
      rw [hengine.1] at hi
      obtain rfl := Option.some.inj (hnew.symm.trans hi)
      exact ⟨hc, hdes⟩
    · refine List.forall_mem_append.mpr ⟨hguarded, List.forall_mem_singleton.mpr fun p hp => ?_⟩
      have hguard : r.guard w.snapshot.epoch = some p := hp
      rw [hguard] at hok ⊢
      exact Commands.guarded_new h.rep hok
    · exact List.forall_mem_append.mpr ⟨h.edited, List.forall_mem_singleton.mpr hedit⟩

/-! ## The filter edit -/

theorem Granted.stretch (h : Granted w) {P : FilterEdit ρ → FilterSchedule → Prop}
    (hs : Stretch cfg P w w') : Granted w' := by
  induction hs with
  | begins => exact h
  | moves _ world task ih => exact ih.congr rfl rfl rfl
  | @asks w' _ ih =>
    obtain ⟨hengine, hguards⟩ := Commands.refreshFilters_engine w'.commands
    exact ih.congr hengine hguards rfl
  | writes _ _ ih =>
    -- the request is bound to the epoch of its fresh read
    refine ih.request _ _ ?_
    rintro x ⟨⟩
    exact ⟨rfl, rfl⟩
  | ticks _ now ih => exact ih.engineOp (e := cfg.engine) (.tick now) (by intro r; simp)
  | cancels _ ih => exact ih.engineOp (e := cfg.engine) (.cancel .filters none) (by intro r; simp)

/-! ## Steps -/

theorem step_granted (h : Granted w) (op : Op ρ) : Granted (w.step cfg op).1 := by
  cases op with
  | clock time => exact h.congr rfl rfl rfl
  | world world => exact h.congr rfl rfl rfl
  | publish snapshot =>
    show Granted (w.publish snapshot)
    unfold publish
    split
    · exact h
    · exact h.congr rfl rfl rfl
  | update now =>
    have hguards := Commands.update_guards cfg w.commands w.snapshot now
    obtain ⟨o, -, heq⟩ | ⟨-, heq⟩ := Commands.update_engine cfg w.commands w.snapshot now
    · refine h.descend (e := cfg.engine) ?_ hguards rfl
      show Engine.Calls _ _ _ (w.commands.update cfg w.snapshot now).engine
      rw [heq]
      exact Engine.Calls.one (.observe o now) (by intro r; simp)
    · refine h.descend (e := cfg.engine) ?_ hguards rfl
      show Engine.Calls _ _ _ (w.commands.update cfg w.snapshot now).engine
      rw [heq]
      exact (Engine.Calls.one (.tick now) (by intro r; simp)).trans
        (Engine.Calls.one (.suspend now) (by intro r; simp))
  | prepare now => exact h.prepare now
  | sent message at_ ctsAt =>
    obtain ⟨heq | ⟨action, heq⟩, hguards⟩ := Commands.sent_engine cfg w.commands message at_ ctsAt
    · exact h.congr heq hguards rfl
    · refine h.descend (e := cfg.engine) ?_ hguards rfl
      show Engine.Calls _ _ _ (w.commands.sent cfg message at_ ctsAt).2.engine
      rw [heq]
      exact Engine.Calls.one (.sent action at_ ctsAt) (by intro r; simp)
  | received message epoch at_ =>
    obtain ⟨hengine, hguards⟩ := Commands.received_engine cfg w.commands message epoch at_
    exact h.congr hengine hguards rfl
  | disconnected now =>
    exact h.descend (e := cfg.engine) (Engine.Calls.one (.suspend now) (by intro r; simp)) rfl rfl
  | request r => exact h.request r none (by simp)
  | cancel control now => exact h.engineOp (e := cfg.engine) (.cancel control now) (by intro r; simp)
  | joined id now => exact h.engineOp (e := cfg.engine) (.joined id now) (by intro r; simp)
  | waited now => exact h.engineOp (e := cfg.engine) (.tick now) (by intro r; simp)
  | asyncUpdateFilter edit => exact h.stretch (stretch_asyncUpdateFilter cfg w edit)
  | wake => exact h.stretch (stretch_wake cfg w)
  | timeout now => exact h.stretch (stretch_timeout cfg w now)
  | stop => exact h.stretch (stretch_stop cfg w)

theorem spaAt_granted (cfg : RuntimeConfig) (world : ρ) (run : List (Op ρ)) (n : ℕ) :
    Granted (spaAt cfg world run n) :=
  (machine cfg world).stateAt_invariant (granted_init world) (fun _ op h => step_granted h op) run n

/-! ## Transmission -/

/-- The predicates have admitted the command of a grant: the one it was requested with was
    called and has answered `True`, and if the command expires with its connection, this is
    still the connection it was requested in. -/
structure Admits (w : SpaRuntime ρ) (g : Grant ρ)
    (calls : List (Commands.GuardCall (Predicate ρ) ρ)) : Prop where
  valid : ∀ p, g.request.valid = some p → ∃ call ∈ calls, call.control = g.request.control ∧
    call.answer = true ∧ (p w.snapshot call.owner).1 = true
  epoch : g.expires = true → w.snapshot.epoch = g.epoch

/-- Whenever `prepare` hands out an action, it was requested once, and the predicates that
    this very call has called have admitted it. -/
def AdmitsTransmission (cfg : RuntimeConfig) (w : SpaRuntime ρ) : Prop :=
  ∀ now t action calls, (w.prepare cfg now).2 = .handed (some t) calls → t.token = .action action →
    (∃ g ∈ w.grants, g.id = action.intent.id) ∧
      ∀ g ∈ w.grants, g.id = action.intent.id →
        g.request.control = action.intent.control ∧ g.request.desired = action.intent.desired ∧
          Admits w g calls

/-- The guard of a grant has answered `True`. -/
theorem Granted.admits (h : Granted w) {g : Grant ρ} (hg : g ∈ w.grants) {now : ℚ} {item : Intent}
    (hi : (w.commands.prepare cfg w.callGuard w.world now).2.1.engine.intent g.id = some item)
    (hlive : item.stage.terminal = false) :
    Admits w g (w.commands.guardCalls w.callGuard w.world) := by
  have hcalled : ∀ p, g.guard = some p →
      ∃ call ∈ w.commands.guardCalls w.callGuard w.world, call.control = g.request.control ∧
        call.answer = true ∧ (p w.snapshot call.owner).1 = true := by
    intro p hp
    obtain ⟨call, hcall, hcontrol, hguard, hanswer⟩ := Commands.prepare_guardCalls cfg
      (h.guarded g hg p hp) h.rep h.pending w.world now hi hlive
    refine ⟨call, hcall, hcontrol, hanswer, ?_⟩
    rw [← hguard, ← hanswer]
    exact (Commands.guardCalls_answer w.callGuard w.commands w.world call hcall).symm
  have hguard : g.guard = if SpaRequest.expires g.request.control then
      some (Predicate.within g.epoch g.request.valid) else g.request.valid := rfl
  constructor
  · intro p hp
    by_cases hexpires : SpaRequest.expires g.request.control = true
    · rw [if_pos hexpires] at hguard
      obtain ⟨call, hcall, hcontrol, hanswer, hyes⟩ := hcalled _ hguard
      exact ⟨call, hcall, hcontrol, hanswer, (Predicate.within_true hyes).2 p hp⟩
    · rw [if_neg hexpires, hp] at hguard
      exact hcalled p hguard
  · intro hexpires
    by_cases hcontrol : SpaRequest.expires g.request.control = true
    · rw [if_pos hcontrol] at hguard
      obtain ⟨call, -, -, -, hyes⟩ := hcalled _ hguard
      exact (Predicate.within_true hyes).1
    · -- the write of a filter edit
      obtain ⟨edit, hedit⟩ : ∃ edit, g.edit = some edit := by
        unfold Grant.expires at hexpires
        simpa [hcontrol, Option.isSome_iff_exists] using hexpires
      rw [if_neg hcontrol, (h.edited g hg edit hedit).2] at hguard
      obtain ⟨call, -, -, -, hyes⟩ := hcalled _ hguard
      exact (Predicate.within_true hyes).1

theorem Granted.transmission (h : Granted w) : AdmitsTransmission cfg w := by
  intro now t action calls hhanded htoken
  obtain ⟨hmessage, rfl⟩ := Out.handed.inj hhanded
  obtain ⟨item, hi, hlive, hgoal⟩ := Commands.prepare_live cfg h.rep h.pending hmessage htoken
  obtain ⟨-, hcontrol, hdesired, -⟩ := Engine.goal_eq hgoal
  have h' : Granted (w.prepare cfg now).1 := h.prepare now
  refine ⟨h'.complete _ item hi, fun g hg hid => ?_⟩
  rw [← hid] at hi
  obtain ⟨hc, hd⟩ := h'.asked g hg item hi
  exact ⟨hc.symm.trans hcontrol, hd.symm.trans hdesired, h.admits hg hi hlive⟩

/-- **Transmission admission guard**: in every state of every run, an action is only handed
    out if the predicate it was requested with has answered `True` in the same `prepare`, and
    a command that expires with its connection only in the epoch it was requested in. -/
theorem transmission_admitted (cfg : RuntimeConfig) (world : ρ) (run : List (Op ρ)) (n : ℕ) :
    AdmitsTransmission cfg (spaAt cfg world run n) :=
  (spaAt_granted cfg world run n).transmission

end SpaRuntime

end BalboaRs485
