import BalboaRs485.Command.Chain
import BalboaRs485.Runtime.Coordinator

/-!
# Commands that wait for one goal

Two commands for one pump and one value share a goal; the tables of the coordinator count
who waits for which. The runtime goes on underneath, at every await.

* `SpaRuntime.step_evolves`: the runtime only changes its engine by calls of it, and keeps
  its grants.
* `Shared`: the tables are those of the calls at their await.
* `Owned`: where only `async_command` makes requests, the pending goal is the latest one.
* `step_shared`, `step_owned`: every step keeps both.
* `shared_waiters`: only the last call that waits for a goal takes it along.
-/

namespace BalboaRs485

/-! ## The latest goal of a control -/

namespace Engine

variable {cfg : EngineConfig} {s s' : Engine}

theorem Calls.latest {P : EngineOp → Prop} (h : Calls cfg P s s') (hr : IntentRep s)
    (hp : Pending s) (control : Control) :
    s'.latest.get? control = s.latest.get? control ∨
      ∃ id, s'.latest.get? control = some id ∧ s.counter < id := by
  refine (h.induct (R := fun s' => (IntentRep s' ∧ Pending s') ∧ s.counter ≤ s'.counter ∧
    (s'.latest.get? control = s.latest.get? control ∨
      ∃ id, s'.latest.get? control = some id ∧ s.counter < id)) ?_
    ⟨⟨hr, hp⟩, le_rfl, Or.inl rfl⟩).2.2
  rintro e op - ⟨⟨hr', hp'⟩, hle, hlatest⟩
  have hone : Calls cfg (fun _ => True) e (e.step cfg op).1 := .one op trivial
  refine ⟨hone.rep hr' hp', hle.trans (hone.descends hr' hp').counter, ?_⟩
  rcases step_latest cfg hr' op control with heq | ⟨id, hid, hlt⟩
  · rw [heq]
    exact hlatest
  · exact Or.inr ⟨id, hid, hle.trans_lt hlt⟩

end Engine

namespace SpaRuntime

variable {ρ : Type} {cfg : RuntimeConfig} {w w' w'' : SpaRuntime ρ}

/-- From `w` to `w'` the engine changes by calls of it, and no grant is forgotten. -/
structure Evolves (cfg : RuntimeConfig) (w w' : SpaRuntime ρ) : Prop where
  calls : Engine.Calls cfg.engine (fun _ => True) w.commands.engine w'.commands.engine
  grants : ∀ g ∈ w.grants, g ∈ w'.grants

theorem Evolves.trans (h : Evolves cfg w w') (h' : Evolves cfg w' w'') : Evolves cfg w w'' :=
  ⟨h.calls.trans h'.calls, fun g hg => h'.grants g (h.grants g hg)⟩

theorem evolves_of_eq (hengine : w'.commands.engine = w.commands.engine)
    (hgrants : w'.grants = w.grants) : Evolves cfg w w' :=
  ⟨hengine ▸ .refl _, fun _ hg => hgrants ▸ hg⟩

theorem evolves_engineOp (w : SpaRuntime ρ) (op : EngineOp) :
    Evolves cfg w (w.setEngine (w.commands.engine.step cfg.engine op).1) :=
  ⟨.one op trivial, fun _ hg => hg⟩

theorem evolves_request (w : SpaRuntime ρ) (r : SpaRequest ρ) (edit : Option (FilterEdit ρ)) :
    Evolves cfg w (w.request cfg r edit).2 := by
  have hengine := (Commands.request_engine cfg w.commands (r.engineRequest w.time)
    (r.guard w.snapshot.epoch)).1
  have hcalls : Engine.Calls cfg.engine (fun _ => True) w.commands.engine
      (w.commands.request cfg (r.engineRequest w.time) (r.guard w.snapshot.epoch)).2.engine := by
    rw [hengine]
    exact .one (.request (r.engineRequest w.time)) trivial
  obtain heq | ⟨err, -, heq⟩ | ⟨intent, -, heq⟩ := request_case cfg w r edit
  · rw [heq]
    exact evolves_of_eq rfl rfl
  · rw [heq]
    exact ⟨hcalls, fun _ hg => hg⟩
  · rw [heq]
    exact ⟨hcalls, fun _ hg => List.mem_append_left _ hg⟩

/-- A filter edit. -/
theorem evolves_stretch {P : FilterEdit ρ → FilterSchedule → Prop} (hs : Stretch cfg P w w') :
    Evolves cfg w w' := by
  induction hs with
  | begins => exact evolves_of_eq rfl rfl
  | moves _ world task ih => exact ih.trans (evolves_of_eq rfl rfl)
  | @asks w' _ ih =>
    exact ih.trans (evolves_of_eq (Commands.refreshFilters_engine w'.commands).1 rfl)
  | writes _ _ ih => exact ih.trans (evolves_request _ _ _)
  | ticks _ now ih => exact ih.trans (evolves_engineOp _ (.tick now))
  | cancels _ ih => exact ih.trans (evolves_engineOp _ (.cancel .filters none))

/-- **What a step does to the engine**: it makes calls, and each request is a grant. -/
theorem step_evolves (cfg : RuntimeConfig) (w : SpaRuntime ρ) (op : Op ρ) :
    Evolves cfg w (w.step cfg op).1 := by
  cases op with
  | clock time => exact evolves_of_eq rfl rfl
  | world world => exact evolves_of_eq rfl rfl
  | publish snapshot =>
    show Evolves cfg w (w.publish snapshot)
    unfold publish
    split <;> exact evolves_of_eq rfl rfl
  | update now =>
    refine ⟨?_, fun _ hg => hg⟩
    show Engine.Calls _ _ _ (w.commands.update cfg w.snapshot now).engine
    obtain ⟨o, -, heq⟩ | ⟨-, heq⟩ := Commands.update_engine cfg w.commands w.snapshot now
    · rw [heq]
      exact Engine.Calls.one (.observe o now) trivial
    · rw [heq]
      exact (Engine.Calls.one (.tick now) trivial).trans (Engine.Calls.one (.suspend now) trivial)
  | prepare now =>
    exact ⟨(Commands.prepare_engine cfg w.commands w.callGuard w.world now).mono fun _ _ => trivial,
      fun _ hg => hg⟩
  | sent message at_ ctsAt =>
    refine ⟨?_, fun _ hg => hg⟩
    show Engine.Calls _ _ _ (w.commands.sent cfg message at_ ctsAt).2.engine
    obtain ⟨heq | ⟨action, heq⟩, -⟩ := Commands.sent_engine cfg w.commands message at_ ctsAt
    · rw [heq]
      exact .refl _
    · rw [heq]
      exact Engine.Calls.one (.sent action at_ ctsAt) trivial
  | received message epoch at_ =>
    exact evolves_of_eq (Commands.received_engine cfg w.commands message epoch at_).1 rfl
  | disconnected now => exact ⟨Engine.Calls.one (.suspend now) trivial, fun _ hg => hg⟩
  | request r => exact evolves_request w r none
  | cancel control now => exact evolves_engineOp w (.cancel control now)
  | joined id now => exact evolves_engineOp w (.joined id now)
  | waited now => exact evolves_engineOp w (.tick now)
  | asyncUpdateFilter edit => exact evolves_stretch (stretch_asyncUpdateFilter cfg w edit)
  | wake => exact evolves_stretch (stretch_wake cfg w)
  | timeout now => exact evolves_stretch (stretch_timeout cfg w now)
  | stop => exact evolves_stretch (stretch_stop cfg w)

theorem request_refused {r : SpaRequest ρ} {err : System.RequestError}
    (h : (w.request cfg r none).1 = .error err) : (w.request cfg r none).2.grants = w.grants := by
  obtain heq | ⟨err, -, heq⟩ | ⟨intent, -, heq⟩ := request_case cfg w r none
  · rw [heq]
  · rw [heq]
  · rw [heq] at h
    cases h

/-- An accepted request: its goal, and the grant it leaves. -/
theorem request_granted {r : SpaRequest ρ} {intent : Intent} (hg : Granted w)
    (h : (w.request cfg r none).1 = .ok intent) :
    (w.request cfg r none).2.commands.engine.intent intent.id = some intent ∧
      intent.control = r.control ∧ intent.stage = .queued ∧
      (w.request cfg r none).2.grants = w.grants ++ [⟨intent.id, r, w.snapshot.epoch, none⟩] ∧
      (w.commands.engine.request cfg.engine (r.engineRequest w.time)).1 = .ok intent := by
  have hengine := Commands.request_engine cfg w.commands (r.engineRequest w.time)
    (r.guard w.snapshot.epoch)
  obtain heq | ⟨err, -, heq⟩ | ⟨item, hok, heq⟩ := request_case cfg w r none
  · rw [heq] at h
    cases h
  · rw [heq] at h
    cases h
  · rw [heq] at h ⊢
    cases h
    rw [hengine.2] at hok
    obtain ⟨err, s', herr, -⟩ | ⟨new, s₁, hok', -, -, hcontrol, -, hstage, -, hnew, -⟩ :=
      Engine.request_intents cfg.engine (r.engineRequest w.time) hg.rep
    · rw [hok] at herr
      cases herr
    · obtain rfl := Except.ok.inj (hok'.symm.trans hok)
      exact ⟨hengine.1.symm ▸ hnew, hcontrol, hstage, rfl, hok⟩

/-- A goal that is requested with a deadline has one, if all older ones of its control do. -/
theorem request_deadline {r : SpaRequest ρ} {intent : Intent} (hg : Granted w)
    (h : (w.request cfg r none).1 = .ok intent) (hr : r.deadline ≠ none)
    (hold : ∀ id item, w.commands.engine.intent id = some item → item.control = r.control →
      item.deadline ≠ none) : intent.deadline ≠ none := by
  obtain ⟨-, -, -, -, hok⟩ := request_granted hg h
  obtain ⟨-, -, hdeadline, -⟩ := Engine.request_ok hok
  rw [hdeadline]
  split
  · next hreplacing =>
    -- the deadline of the goal it replaces
    have htick : Engine.Calls cfg.engine (fun _ => True) w.commands.engine
        (w.commands.engine.tick cfg.engine w.time) := .one (.tick w.time) trivial
    obtain ⟨hrep, -⟩ := htick.rep hg.rep hg.pending
    obtain ⟨-, -, hany⟩ := of_decide_eq_true hreplacing
    obtain ⟨existing, hexisting, -⟩ := Option.any_eq_true _ _ |>.mp hany
    obtain ⟨id, hlatest, hi⟩ := Option.bind_eq_some_iff.mp hexisting
    obtain ⟨item, hi', hcontrol, -⟩ := Engine.intent_of_latest hrep hlatest
    obtain rfl := Option.some.inj (hi.symm.trans hi')
    have hle : id ≤ w.commands.engine.counter :=
      (Engine.intent_le hrep hi).trans_eq (Engine.updates_tick hg.rep cfg.engine w.time).counter
    obtain ⟨before, hbefore, hgoal, -⟩ :=
      (htick.descends hg.rep hg.pending).goal id existing hle hi
    have hdue := hold id before hbefore (Engine.intent_control hgoal ▸ hcontrol)
    rw [← Engine.goal_deadline hgoal] at hdue
    rw [hexisting]
    exact hdue
  · exact hr

/-- **Without a new grant the latest goal of a control stays.** -/
theorem Evolves.latest (h : Evolves cfg w w') (hg : Granted w) (hg' : Granted w')
    {control : Control}
    (hold : ∀ g ∈ w'.grants, g.request.control = control → g ∈ w.grants) :
    w'.commands.engine.latest.get? control = w.commands.engine.latest.get? control := by
  rcases h.calls.latest hg.rep hg.pending control with heq | ⟨id, hid, hlt⟩
  · exact heq
  · obtain ⟨item, hi, hc, -⟩ := Engine.intent_of_latest hg'.rep hid
    obtain ⟨g, hgrant, rfl⟩ := hg'.complete id item hi
    have hcontrol : g.request.control = control := by
      rw [← (hg'.asked g hgrant item hi).1, hc]
    exact absurd (hg.known g (hold g hgrant hcontrol)) (not_le.mpr hlt)

end SpaRuntime

namespace SpaCoordinator

variable {ρ : Type} {cfg : RuntimeConfig} {s s' : SpaCoordinator ρ} {control : Control}
  {task : ℕ} {call : CommandCall}

/-! ## The tables -/

/-- How many calls wait for a goal. -/
def inside (s : SpaCoordinator ρ) (id : ℕ) : ℕ :=
  s.callers.values.countP fun call => call.id = id

/-- The tables are those of the calls at their await. -/
structure Shared (s : SpaCoordinator ρ) : Prop where
  granted : s.runtime.Granted
  asked : ∀ task call, s.callers.get? task = some call →
    ∃ g ∈ s.runtime.grants, g.id = call.id ∧ g.request.control = call.control
  waiters : ∀ id, s.waiters.get? id = if s.inside id = 0 then none else some (s.inside id)
  deadlines : ∀ id, s.deadlines.contains id = true ↔ s.inside id ≠ 0
  due : ∀ id d item, s.deadlines.get? id = some d → s.engine.intent id = some item →
    item.deadline = some d
  pending : ∀ control id, s.pending.get? control = some id →
    ∃ task, s.callers.get? task = some ⟨control, id⟩

/-- On this control the pending goal is the latest one, and every call waits for it as long as
    its own goal has not ended. -/
structure Owned (s : SpaCoordinator ρ) (control : Control) : Prop where
  latest : ∀ id, s.pending.get? control = some id → s.engine.latest.get? control = some id
  live : ∀ task call item, s.callers.get? task = some call → call.control = control →
    s.engine.intent call.id = some item → item.stage.terminal = false →
    s.pending.get? control = some call.id
  deadline : ∀ id item, s.engine.intent id = some item → item.control = control →
    item.deadline ≠ none

theorem shared_init (world : ρ) : Shared ({ runtime := { world } } : SpaCoordinator ρ) where
  granted := SpaRuntime.granted_init world
  asked _ _ h := by cases h
  waiters _ := rfl
  deadlines _ := by simp [inside, Dict.contains, Dict.get?, Dict.empty, Dict.lookup, Dict.values]
  due _ _ _ h := by cases h
  pending _ _ h := by cases h

theorem owned_init (world : ρ) (control : Control) :
    Owned ({ runtime := { world } } : SpaCoordinator ρ) control where
  latest _ h := by cases h
  live _ _ _ h := by cases h
  deadline _ _ h := by cases h

theorem inside_ne_zero {id : ℕ} :
    s.inside id ≠ 0 ↔ ∃ task call, s.callers.get? task = some call ∧ call.id = id := by
  rw [← Nat.pos_iff_ne_zero, inside, Dict.countP_pos]
  simp only [decide_eq_true_eq]

theorem inside_of_get? (h : s.callers.get? task = some call) : s.inside call.id ≠ 0 :=
  inside_ne_zero.mpr ⟨task, call, h, rfl⟩

/-- The one call that waits for a goal. -/
theorem inside_eq_one (h : s.callers.get? task = some call) :
    s.inside call.id = 1 ↔
      ∀ task' call', s.callers.get? task' = some call' → call'.id = call.id → task' = task := by
  rw [inside, Dict.countP_eq_one _ _ h (by simp)]
  simp only [decide_eq_true_eq]

/-- The goal of a call is on its control. -/
theorem Shared.on_control (h : Shared s) (hcall : s.callers.get? task = some call) {item : Intent}
    (hi : s.engine.intent call.id = some item) : item.control = call.control := by
  obtain ⟨g, hg, hid, hcontrol⟩ := h.asked task call hcall
  rw [← hcontrol]
  exact (h.granted.asked g hg item (hid ▸ hi)).1

theorem Shared.known (h : Shared s) (hcall : s.callers.get? task = some call) :
    call.id ≤ s.engine.counter := by
  obtain ⟨g, hg, hid, -⟩ := h.asked task call hcall
  exact hid ▸ h.granted.known g hg

/-- Calls that wait for one goal are on one control. -/
theorem Shared.agree (h : Shared s) {task' : ℕ} {call' : CommandCall}
    (hcall : s.callers.get? task = some call) (hcall' : s.callers.get? task' = some call')
    (hid : call.id = call'.id) : call.control = call'.control := by
  obtain ⟨g, hg, hgid, hcontrol⟩ := h.asked task call hcall
  obtain ⟨g', hg', hgid', hcontrol'⟩ := h.asked task' call' hcall'
  obtain rfl := h.granted.unique g hg g' hg' (hgid.trans (hid.trans hgid'.symm))
  exact hcontrol.symm.trans hcontrol'

/-! ## The runtime goes on -/

/-- A step of the runtime leaves the tables. -/
theorem Shared.evolve (h : Shared s) {runtime : SpaRuntime ρ}
    (hev : SpaRuntime.Evolves cfg s.runtime runtime) (hg : runtime.Granted) :
    Shared { s with runtime } where
  granted := hg
  asked task call hcall := by
    obtain ⟨g, hgrant, hid, hcontrol⟩ := h.asked task call hcall
    exact ⟨g, hev.grants g hgrant, hid, hcontrol⟩
  waiters := h.waiters
  deadlines := h.deadlines
  due id d item' hd hi' := by
    have hcontains : s.deadlines.contains id = true := (Dict.contains_iff _).mpr ⟨d, hd⟩
    obtain ⟨task, call, hcall, rfl⟩ := inside_ne_zero.mp ((h.deadlines id).mp hcontains)
    obtain ⟨item, hi, hgoal, -⟩ :=
      (hev.calls.descends h.granted.rep h.granted.pending).goal _ item' (h.known hcall) hi'
    rw [Engine.goal_deadline hgoal]
    exact h.due _ d item hd hi
  pending := h.pending

/-- A step of the runtime that makes no request of the control leaves it owned. -/
theorem Owned.evolve (ho : Owned s control) (h : Shared s) {runtime : SpaRuntime ρ}
    (hev : SpaRuntime.Evolves cfg s.runtime runtime) (hg : runtime.Granted)
    (hold : ∀ g ∈ runtime.grants, g.request.control = control → g ∈ s.runtime.grants) :
    Owned { s with runtime } control where
  latest id hid := (hev.latest h.granted hg hold).trans (ho.latest id hid)
  live task call item' hcall hcontrol hi' hlive := by
    obtain ⟨item, hi, -, hlive₀⟩ :=
      (hev.calls.descends h.granted.rep h.granted.pending).goal _ item' (h.known hcall) hi'
    exact ho.live task call item hcall hcontrol hi (hlive₀ hlive)
  deadline id item' hi' hcontrol := by
    obtain ⟨g, hgrant, rfl⟩ := hg.complete id item' hi'
    have hknown := h.granted.known g (hold g hgrant ((hg.asked g hgrant item' hi').1 ▸ hcontrol))
    obtain ⟨item, hi, hgoal, -⟩ :=
      (hev.calls.descends h.granted.rep h.granted.pending).goal _ item' hknown hi'
    rw [Engine.goal_deadline hgoal]
    exact ho.deadline _ item hi (Engine.intent_control hgoal ▸ hcontrol)

/-! ## A call begins -/

/-- What a call that begins to wait for a goal leaves behind. -/
structure Registered (s : SpaCoordinator ρ) (task : ℕ) (call : CommandCall) (deadline : ℚ)
    (s' : SpaCoordinator ρ) : Prop where
  runtime : s'.runtime = s.runtime
  callers : s'.callers = s.callers.set task call
  waiters : ∀ id, s'.waiters.get? id =
    if id = call.id then some ((s.waiters.get? id).getD 0 + 1) else s.waiters.get? id
  deadlines : ∀ id, s'.deadlines.get? id =
    if id = call.id ∧ s.deadlines.get? id = none then some deadline else s.deadlines.get? id
  pending : s'.pending = s.pending.set call.control call.id

/-- A goal without a deadline is an assertion that fails before the tables are touched. -/
theorem register_case (s : SpaCoordinator ρ) (task : ℕ) (control : Control) (intent : Intent) :
    intent.deadline = none ∧ (s.register task control intent).1 = s ∨
      ∃ deadline, intent.deadline = some deadline ∧
        Registered s task ⟨control, intent.id⟩ deadline (s.register task control intent).1 := by
  unfold SpaCoordinator.register
  cases hdeadline : intent.deadline with
  | none => exact Or.inl ⟨rfl, rfl⟩
  | some deadline =>
    refine Or.inr ⟨deadline, rfl, rfl, rfl, fun id => ?_, fun id => ?_, rfl⟩
    · show (s.waiters.set intent.id _).get? id = _
      rw [Dict.get?_set]
      split
      · next hid => rw [hid]
      · rfl
    · show (if s.deadlines.contains intent.id then s.deadlines
        else s.deadlines.set intent.id deadline).get? id = _
      cases hget : s.deadlines.get? intent.id with
      | none =>
        rw [if_neg (by simp [Dict.contains, hget]), Dict.get?_set]
        by_cases hid : id = intent.id
        · rw [if_pos hid, if_pos ⟨hid, hid ▸ hget⟩]
        · rw [if_neg hid, if_neg fun hboth => hid hboth.1]
      | some d =>
        rw [if_pos (by simp [Dict.contains, hget]), if_neg]
        rintro ⟨rfl, hnone⟩
        rw [hget] at hnone
        cases hnone

variable {deadline : ℚ}

theorem Registered.inside (h : Registered s task call deadline s')
    (htask : s.callers.get? task = none) (id : ℕ) :
    s'.inside id = s.inside id + if call.id = id then 1 else 0 := by
  have hcount := Dict.countP_set (fun call : CommandCall => decide (call.id = id)) s.callers
    call htask
  simp only [decide_eq_true_eq] at hcount
  rw [SpaCoordinator.inside, h.callers]
  exact hcount

theorem Registered.callers_of (h : Registered s task call deadline s') {task' : ℕ}
    {call' : CommandCall} (hcall' : s'.callers.get? task' = some call') :
    call' = call ∨ s.callers.get? task' = some call' := by
  rw [h.callers, Dict.get?_set] at hcall'
  split at hcall'
  · exact Or.inl (Option.some.inj hcall').symm
  · exact Or.inr hcall'

theorem Registered.shared (hr : Registered s task call deadline s') (h : Shared s)
    (htask : s.callers.get? task = none) {intent : Intent}
    (hintent : s.engine.intent call.id = some intent) (hcontrol : intent.control = call.control)
    (hdeadline : intent.deadline = some deadline) : Shared s' := by
  have hinside := hr.inside htask
  have hengine : s'.engine = s.engine := congrArg (fun w => w.commands.engine) hr.runtime
  refine ⟨hr.runtime.symm ▸ h.granted, fun task' call' hcall' => ?_, fun id => ?_, fun id => ?_,
    fun id d item hd hi => ?_, fun control id hid => ?_⟩
  · rw [hr.runtime]
    rcases hr.callers_of hcall' with rfl | hold
    · obtain ⟨g, hgrant, hid⟩ := h.granted.complete call'.id intent hintent
      exact ⟨g, hgrant, hid,
        (h.granted.asked g hgrant intent (hid ▸ hintent)).1.symm.trans hcontrol⟩
    · exact h.asked task' call' hold
  · rw [hr.waiters, hinside id, h.waiters id]
    by_cases hsame : id = call.id
    · rw [if_pos hsame, if_pos hsame.symm, if_neg (Nat.succ_ne_zero _)]
      split
      · next hzero => rw [hzero, Option.getD_none]
      · rw [Option.getD_some]
    · have hne : ¬ call.id = id := fun heq => hsame heq.symm
      rw [if_neg hsame, if_neg hne, Nat.add_zero]
  · have hbefore := h.deadlines id
    rw [Dict.contains] at hbefore ⊢
    rw [hinside id, hr.deadlines]
    by_cases hsame : id = call.id
    · rw [if_pos hsame.symm]
      refine iff_of_true ?_ (Nat.succ_ne_zero _)
      split
      · rfl
      · next hkeep =>
        rw [Option.isSome_iff_ne_none]
        exact fun hnone => hkeep ⟨hsame, hnone⟩
    · rw [if_neg fun hboth => hsame hboth.1, if_neg fun heq => hsame heq.symm, Nat.add_zero]
      exact hbefore
  · rw [hengine] at hi
    rw [hr.deadlines] at hd
    split at hd
    · next hboth =>
      obtain rfl := Option.some.inj (hintent.symm.trans (hboth.1 ▸ hi))
      exact hdeadline.trans hd
    · exact h.due id d item hd hi
  · rw [hr.pending, Dict.get?_set] at hid
    split at hid
    · next hsame =>
      cases hid
      exact ⟨task, hr.callers ▸ hsame ▸ Dict.get?_set_self _ _ _⟩
    · obtain ⟨task', hcall'⟩ := h.pending control id hid
      refine ⟨task', ?_⟩
      rw [hr.callers, Dict.get?_set_of_ne _ _ ?_, hcall']
      rintro rfl
      rw [htask] at hcall'
      cases hcall'

/-- A call that waits for the latest goal of its control makes that the pending one. -/
theorem Registered.owned {c : Control} (hr : Registered s task call deadline s') (h : Shared s)
    (ho : c ≠ call.control → Owned s c)
    (hlatest : s.engine.latest.get? call.control = some call.id)
    (hdue : c = call.control → ∀ id item, s.engine.intent id = some item →
      item.control = call.control → item.deadline ≠ none) : Owned s' c := by
  have hengine : s'.engine = s.engine := congrArg (fun w => w.commands.engine) hr.runtime
  have hpending : s'.pending.get? c = if c = call.control then some call.id
      else s.pending.get? c := by
    rw [hr.pending, Dict.get?_set]
  rw [← hengine] at hlatest hdue
  by_cases hsame : c = call.control
  · subst hsame
    rw [if_pos rfl] at hpending
    refine ⟨fun id hid => ?_, fun task' call' item hcall' hc hi hlive => ?_, hdue rfl⟩
    · rw [← hpending.symm.trans hid]
      exact hlatest
    · rw [hpending]
      rcases hr.callers_of hcall' with rfl | hold
      · rfl
      · rw [hengine] at hi hlatest
        have hgoal := h.granted.pending call'.id item hi hlive
        rw [h.on_control hold hi, hc] at hgoal
        exact hlatest.symm.trans hgoal
  · rw [if_neg hsame] at hpending
    obtain ⟨hlatest', hlive', hdeadline'⟩ := ho hsame
    refine ⟨fun id hid => ?_, fun task' call' item hcall' hc hi hlive => ?_, hengine ▸ hdeadline'⟩
    · rw [hengine]
      exact hlatest' id (hpending ▸ hid)
    · rcases hr.callers_of hcall' with rfl | hold
      · exact absurd hc.symm hsame
      · rw [hpending]
        exact hlive' task' call' item hold hc (hengine ▸ hi) hlive

/-! ## A call ends -/

/-- What the `finally` of a call leaves behind. -/
structure Left (s : SpaCoordinator ρ) (task : ℕ) (call : CommandCall) (s' : SpaCoordinator ρ) :
    Prop where
  runtime : s'.runtime = s.runtime
  callers : s'.callers = s.callers.pop task
  waiters : ∀ id, s'.waiters.get? id =
    if id = call.id then if s.inside id = 1 then none else some (s.inside id - 1)
    else s.waiters.get? id
  deadlines : ∀ id, s'.deadlines.get? id =
    if id = call.id ∧ s.inside id = 1 then none else s.deadlines.get? id
  pending : ∀ control, s'.pending.get? control =
    if s.inside call.id = 1 ∧ control = call.control ∧ s.pending.get? control = some call.id then
      none
    else s.pending.get? control

/-- A call that ends returns or raises what it should: the entries it deletes are there. -/
theorem Shared.exit (h : Shared s) (hcall : s.callers.get? task = some call)
    (result : Except CommandError Unit) :
    (s.exit task call result).2 = .ended result ∧ Left s task call (s.exit task call result).1 := by
  have hinside := inside_of_get? hcall
  have hwaiters : s.waiters.get? call.id = some (s.inside call.id) :=
    (h.waiters call.id).trans (if_neg hinside)
  unfold SpaCoordinator.exit leave
  rw [hwaiters]
  by_cases hone : s.inside call.id = 1
  · have hcontains := (h.deadlines call.id).mpr hinside
    simp only [hone, ne_eq, not_true_eq_false, if_false, hcontains]
    refine ⟨trivial, rfl, rfl, fun id => ?_, fun id => ?_, fun control => ?_⟩
    · rw [Dict.get?_pop]
      split
      · next hid => rw [hid, if_pos hone]
      · rfl
    · rw [Dict.get?_pop]
      by_cases hid : id = call.id
      · rw [if_pos hid, if_pos ⟨hid, hid ▸ hone⟩]
      · rw [if_neg hid, if_neg fun hboth => hid hboth.1]
    · by_cases hsame : s.pending.get? call.control = some call.id
      · rw [if_pos hsame, Dict.get?_pop]
        by_cases hc : control = call.control
        · rw [if_pos hc, if_pos ⟨hone, hc, hc ▸ hsame⟩]
        · rw [if_neg hc, if_neg fun hall => hc hall.2.1]
      · rw [if_neg hsame, if_neg]
        rintro ⟨-, rfl, hall⟩
        exact hsame hall
  · simp only [ne_eq, hone, not_false_eq_true, if_true]
    refine ⟨trivial, rfl, rfl, fun id => ?_, fun id => ?_, fun control => ?_⟩
    · rw [Dict.get?_set]
      split
      · next hid => rw [hid, if_neg hone]
      · rfl
    · rw [if_neg]
      rintro ⟨rfl, hone'⟩
      exact hone hone'
    · rw [if_neg fun hall => hone hall.1]

theorem Left.inside (h : Left s task call s') (hcall : s.callers.get? task = some call) (id : ℕ) :
    s.inside id = s'.inside id + if call.id = id then 1 else 0 := by
  have hcount := Dict.countP_pop (fun call : CommandCall => decide (call.id = id)) s.callers hcall
  simp only [decide_eq_true_eq] at hcount
  rw [SpaCoordinator.inside, SpaCoordinator.inside, h.callers]
  exact hcount

theorem Left.callers_of (h : Left s task call s') {task' : ℕ} {call' : CommandCall}
    (hcall' : s'.callers.get? task' = some call') :
    task' ≠ task ∧ s.callers.get? task' = some call' := by
  rw [h.callers, Dict.get?_pop] at hcall'
  split at hcall'
  · cases hcall'
  · next hne => exact ⟨hne, hcall'⟩

theorem Left.shared (hleft : Left s task call s') (h : Shared s)
    (hcall : s.callers.get? task = some call) : Shared s' := by
  have hinside := hleft.inside hcall
  have hengine : s'.engine = s.engine := congrArg (fun w => w.commands.engine) hleft.runtime
  refine ⟨hleft.runtime.symm ▸ h.granted, fun task' call' hcall' => ?_, fun id => ?_, fun id => ?_,
    fun id d item hd hi => ?_, fun control id hid => ?_⟩
  · rw [hleft.runtime]
    exact h.asked task' call' (hleft.callers_of hcall').2
  · have hid := hinside id
    rw [hleft.waiters]
    by_cases hsame : id = call.id
    · rw [if_pos hsame.symm] at hid
      rw [if_pos hsame]
      by_cases hone : s.inside id = 1
      · rw [if_pos hone, if_pos (by omega)]
      · rw [if_neg hone, if_neg (by omega)]
        exact congrArg some (by omega)
    · rw [if_neg fun heq => hsame heq.symm, Nat.add_zero] at hid
      rw [if_neg hsame, h.waiters, hid]
  · have hid := hinside id
    rw [Dict.contains, hleft.deadlines]
    have hbefore := h.deadlines id
    rw [Dict.contains] at hbefore
    by_cases hboth : id = call.id ∧ s.inside id = 1
    · rw [if_pos hboth.1.symm] at hid
      rw [if_pos hboth]
      exact iff_of_false (by simp) (by omega)
    · rw [if_neg hboth, hbefore]
      split at hid
      · next heq => exact iff_of_true (by omega) (fun hzero => hboth ⟨heq.symm, by omega⟩)
      · rw [hid, Nat.add_zero]
  · rw [hleft.deadlines] at hd
    split at hd
    · cases hd
    · exact h.due id d item hd (hengine ▸ hi)
  · rw [hleft.pending] at hid
    split at hid
    · cases hid
    · next hkeep =>
      obtain ⟨task', hcall'⟩ := h.pending control id hid
      -- if it was this call, then another one waits for the same goal
      by_cases hsame : task' = task
      · subst hsame
        rw [hcall] at hcall'
        cases hcall'
        have hother : ¬ s.inside id = 1 := fun hone => hkeep ⟨hone, rfl, hid⟩
        rw [inside_eq_one hcall] at hother
        push Not at hother
        obtain ⟨other, call', hget, hid', hne⟩ := hother
        refine ⟨other, ?_⟩
        rw [hleft.callers, Dict.get?_pop, if_neg hne, hget]
        obtain ⟨control', id'⟩ := call'
        cases hid'
        have hc : control' = control := h.agree hget hcall rfl
        rw [hc]
      · refine ⟨task', ?_⟩
        rw [hleft.callers, Dict.get?_pop, if_neg hsame, hcall']

theorem Left.owned (hleft : Left s task call s') (ho : Owned s control)
    (hcall : s.callers.get? task = some call) : Owned s' control := by
  have hengine : s'.engine = s.engine := congrArg (fun w => w.commands.engine) hleft.runtime
  refine ⟨fun id hid => ?_, fun task' call' item hcall' hc hi hlive => ?_, fun id item hi hc => ?_⟩
  · rw [hleft.pending] at hid
    split at hid
    · cases hid
    · rw [hengine]
      exact ho.latest id hid
  · obtain ⟨hne, hget⟩ := hleft.callers_of hcall'
    have hpending := ho.live task' call' item hget hc (hengine ▸ hi) hlive
    rw [hleft.pending, if_neg, hpending]
    rintro ⟨hone, -, hsame⟩
    have hid : call'.id = call.id := Option.some.inj (hpending.symm.trans hsame)
    exact hne ((inside_eq_one hcall).mp hone task' call' hget hid)
  · exact ho.deadline id item (hengine ▸ hi) hc

/-! ## Steps -/

/-- Both invariants, the second one on the controls of `P`. -/
structure Kept (P : Control → Prop) (s : SpaCoordinator ρ) : Prop where
  shared : Shared s
  owned : ∀ control, P control → Owned s control

variable {P : Control → Prop}

theorem Kept.evolve (h : Kept P s) {runtime : SpaRuntime ρ}
    (hev : SpaRuntime.Evolves cfg s.runtime runtime) (hg : runtime.Granted)
    (hold : ∀ control, P control → ∀ g ∈ runtime.grants, g.request.control = control →
      g ∈ s.runtime.grants) : Kept P { s with runtime } :=
  ⟨h.shared.evolve hev hg,
    fun control hP => (h.owned control hP).evolve h.shared hev hg (hold control hP)⟩

theorem Kept.engineOp (cfg : RuntimeConfig) (h : Kept P s) (op : EngineOp)
    (hop : Engine.NoRequest op) :
    Kept P (s.setEngine (s.engine.step cfg.engine op).1) :=
  h.evolve (SpaRuntime.evolves_engineOp s.runtime op) (h.shared.granted.engineOp op hop)
    fun _ _ _ hg _ => hg

theorem Kept.tick (cfg : RuntimeConfig) (h : Kept P s) :
    Kept P (s.setEngine (s.engine.tick cfg.engine s.runtime.time)) :=
  h.engineOp cfg (.tick s.runtime.time) (by intro r; simp)

theorem Kept.cancel (cfg : RuntimeConfig) (h : Kept P s) (control : Control) (now : Option ℚ) :
    Kept P (s.setEngine (s.engine.cancel control now)) := by
  have hcall : s.engine.cancel control now =
      (s.engine.step cfg.engine (.cancel control now)).1 := rfl
  rw [hcall]
  exact h.engineOp cfg (.cancel control now) (by intro r; simp)

theorem Kept.abandon (cfg : RuntimeConfig) (h : Kept P s) (call : CommandCall) :
    Kept P (s.abandon call) := by
  unfold SpaCoordinator.abandon
  split
  · exact h.cancel cfg _ _
  · exact h

theorem Kept.exit (h : Kept P s) (hcall : s.callers.get? task = some call)
    (result : Except CommandError Unit) : Kept P (s.exit task call result).1 := by
  obtain ⟨-, hleft⟩ := h.shared.exit hcall result
  exact ⟨hleft.shared h.shared hcall, fun control hP => hleft.owned (h.owned control hP) hcall⟩

/-- `_cancel_pending` is made of cancellations. -/
theorem Kept.cancelPending (cfg : RuntimeConfig) (h : Kept P s) : Kept P s.cancelPending := by
  unfold SpaCoordinator.cancelPending
  generalize s.pending.entries = entries
  induction entries generalizing s with
  | nil => exact h
  | cons entry entries ih =>
    refine ih ?_
    unfold cancelEntry
    split
    · exact h.cancel cfg _ _
    · exact h

/-- A command joins the pending goal of its pump while that is live. -/
theorem Shared.joinable (h : Shared s) {desired : Value} {intent : Intent}
    (hjoin : s.joinable control desired = some intent) :
    s.pending.get? control = some intent.id ∧ s.engine.intent intent.id = some intent ∧
      intent.control = control ∧ intent.stage.terminal = false := by
  unfold SpaCoordinator.joinable at hjoin
  obtain ⟨hbind, hlive⟩ := Option.filter_eq_some_iff.mp hjoin
  obtain ⟨id, hpending, hi⟩ := Option.bind_eq_some_iff.mp hbind
  obtain ⟨-, -, hlive⟩ := of_decide_eq_true hlive
  obtain rfl : intent.id = id := (Engine.intent_some h.granted.rep hi).1
  obtain ⟨task, hcall⟩ := h.pending control intent.id hpending
  exact ⟨hpending, hi, h.on_control hcall hi, by simpa using hlive⟩

/-- To join a goal leaves all goals as they are, and their action counts. -/
theorem joined_goals (e : Engine) (id : ℕ) (now : ℚ) :
    (∀ id', (e.joined id now).intent id' = e.intent id') ∧
      (e.joined id now).actions = e.actions := by
  refine ⟨fun id' => ?_, (Engine.sameCore_joined e id now).actions⟩
  unfold Engine.joined
  split
  · rfl
  · split
    · rfl
    · exact (Engine.sameGoals_record _ _ _).intent id'

/-- A call registers for a live goal of its control. -/
theorem Kept.register (h : Shared s) (ho : ∀ c, P c → c ≠ control → Owned s c)
    (htask : s.callers.get? task = none) {intent : Intent}
    (hintent : s.engine.intent intent.id = some intent) (hcontrol : intent.control = control)
    (hlive : intent.stage.terminal = false)
    (hdue : P control → ∀ id item, s.engine.intent id = some item → item.control = control →
      item.deadline ≠ none) : Kept P (s.register task control intent).1 := by
  have hlatest : s.engine.latest.get? control = some intent.id :=
    hcontrol ▸ h.granted.pending intent.id intent hintent hlive
  rcases register_case s task control intent with ⟨hnone, heq⟩ | ⟨deadline, hdeadline, hr⟩
  · rw [heq]
    refine ⟨h, fun c hP => ho c hP ?_⟩
    rintro rfl
    exact hdue hP intent.id intent hintent hcontrol hnone
  · exact ⟨hr.shared h htask hintent hcontrol hdeadline,
      fun c hP => hr.owned h (ho c hP) hlatest fun (hsame : c = control) => hdue (hsame ▸ hP)⟩

/-- A command requests a goal, and registers for it. -/
theorem Kept.request (h : Kept P s) (htask : s.callers.get? task = none) {desired : Value}
    {intent : Intent} {runtime : SpaRuntime ρ}
    (hok : (s.runtime.request cfg (s.commandRequest control desired) none).1 = .ok intent)
    (hruntime : (s.runtime.request cfg (s.commandRequest control desired) none).2 = runtime) :
    Kept P (({ s with runtime } : SpaCoordinator ρ).register task control intent).1 := by
  have hev : SpaRuntime.Evolves cfg s.runtime runtime :=
    hruntime ▸ SpaRuntime.evolves_request s.runtime (s.commandRequest control desired) none
  have hgranted : runtime.Granted :=
    hruntime ▸ h.shared.granted.request (s.commandRequest control desired) none (by simp)
  obtain ⟨hintent, hcontrol, hstage, hgrants, -⟩ :=
    SpaRuntime.request_granted h.shared.granted hok
  rw [hruntime] at hintent hgrants
  have hshared : Shared { s with runtime } := h.shared.evolve hev hgranted
  refine Kept.register hshared (fun c hP hne => ?_) htask hintent hcontrol (by rw [hstage]; rfl)
    fun hP id item hi hitem => ?_
  · refine (h.owned c hP).evolve h.shared hev hgranted fun g hg hc => ?_
    rw [hgrants] at hg
    rcases List.mem_append.mp hg with hg | hg
    · exact hg
    · rw [List.mem_singleton.mp hg] at hc
      exact absurd hc.symm hne
  · obtain ⟨g, hg, rfl⟩ := hgranted.complete id item hi
    rw [hgrants] at hg
    rcases List.mem_append.mp hg with hg | hg
    · obtain ⟨before, hbefore, hgoal, -⟩ :=
        (hev.calls.descends h.shared.granted.rep h.shared.granted.pending).goal g.id item
          (h.shared.granted.known g hg) hi
      rw [Engine.goal_deadline hgoal]
      exact (h.owned control hP).deadline g.id before hbefore
        (Engine.intent_control hgoal ▸ hitem)
    · rw [List.mem_singleton.mp hg] at hi
      obtain rfl := Option.some.inj (hintent.symm.trans hi)
      exact SpaRuntime.request_deadline h.shared.granted hok (by simp [commandRequest])
        (h.owned control hP).deadline

theorem Kept.asyncCommand (h : Kept P s) (htask : s.callers.get? task = none) (control : Control)
    (desired : Value) : Kept P (s.asyncCommand cfg task control desired).1 := by
  unfold SpaCoordinator.asyncCommand
  split
  · exact h
  split
  · exact h
  split
  · next intent hjoin =>
    obtain ⟨-, hi, hcontrol, hlive⟩ := h.shared.joinable hjoin
    have hjoined : Kept P (s.setEngine (s.engine.joined intent.id s.runtime.time)) :=
      h.engineOp cfg (.joined intent.id s.runtime.time) (by intro r; simp)
    have hintent := (joined_goals s.engine intent.id s.runtime.time).1 intent.id
    exact Kept.register hjoined.shared (fun c hP _ => hjoined.owned c hP) htask
      (hintent.trans hi) hcontrol hlive fun hP => (hjoined.owned control hP).deadline
  · split
    · next e runtime hrequest =>
      have hev : SpaRuntime.Evolves cfg s.runtime
          (s.runtime.request cfg (s.commandRequest control desired) none).2 :=
        SpaRuntime.evolves_request s.runtime _ none
      have hgranted : (s.runtime.request cfg (s.commandRequest control desired) none).2.Granted :=
        h.shared.granted.request _ none (by simp)
      have hgrants := SpaRuntime.request_refused (congrArg Prod.fst hrequest)
      rw [hrequest] at hev hgranted hgrants
      exact h.evolve hev hgranted fun _ _ g hg _ => hgrants ▸ hg
    · next intent runtime hrequest =>
      exact h.request htask (congrArg Prod.fst hrequest) (congrArg Prod.snd hrequest)

theorem Kept.wakeCall (h : Kept P s) (hcall : s.callers.get? task = some call) :
    Kept P (s.wakeCall task call).1 := by
  unfold SpaCoordinator.wakeCall
  split
  · exact h.exit hcall _
  · split
    · exact h.exit hcall _
    · exact h

/-- Neither invariant is about what the options allow. -/
theorem Kept.flags (h : Kept P s) (opened enabled : Bool) :
    Kept P { s with opened, enabled } where
  shared := ⟨h.shared.granted, h.shared.asked, h.shared.waiters, h.shared.deadlines, h.shared.due,
    h.shared.pending⟩
  owned control hP :=
    ⟨(h.owned control hP).latest, (h.owned control hP).live, (h.owned control hP).deadline⟩

theorem abandon_callers (s : SpaCoordinator ρ) (call : CommandCall) :
    (s.abandon call).callers = s.callers := by
  unfold abandon
  split <;> rfl

/-- **One step keeps both**, if it makes no request of its own on the controls of `P`. -/
theorem Kept.step (h : Kept P s) (op : Op ρ)
    (hop : ∀ rop, op = .runtime rop → ∀ control, P control →
      ∀ g ∈ (s.runtime.step cfg rop).1.grants, g.request.control = control →
        g ∈ s.runtime.grants) : Kept P (s.step cfg op).1 := by
  cases op with
  | asyncOpen => exact h.flags true s.enabled
  | asyncClose => exact (h.flags false s.enabled).cancelPending cfg
  | enable enabled => exact h.flags s.opened enabled
  | asyncOptionsUpdated =>
    show Kept P (if s.enabled then s else s.cancelPending)
    split
    · exact h
    · exact h.cancelPending cfg
  | asyncCommand task control desired =>
    show Kept P (if s.callers.contains task then (s, .done)
      else s.asyncCommand cfg task control desired).1
    split
    · exact h
    · next hfree =>
      refine h.asyncCommand ?_ control desired
      simpa [Dict.contains] using hfree
  | wake task =>
    simp only [SpaCoordinator.step]
    split
    · exact h
    · next call hcall => exact h.wakeCall hcall
  | timeout task =>
    simp only [SpaCoordinator.step]
    split
    · exact h
    · next call hcall =>
      have htick := h.tick cfg
      unfold timeoutCall
      dsimp only
      split
      · exact htick.exit hcall _
      · split
        · exact htick.exit hcall _
        · refine (htick.abandon cfg call).exit ?_ _
          rw [abandon_callers]
          exact hcall
  | cancel task =>
    simp only [SpaCoordinator.step]
    split
    · exact h
    · next call hcall =>
      unfold cancelCall
      split
      · refine (h.abandon cfg call).exit ?_ _
        rw [abandon_callers]
        exact hcall
      · exact h.exit hcall _
  | stop task =>
    simp only [SpaCoordinator.step]
    split
    · exact h
    · next call hcall => exact h.exit hcall _
  | runtime rop =>
    exact h.evolve (SpaRuntime.step_evolves cfg s.runtime rop)
      (SpaRuntime.step_granted h.shared.granted rop) (hop rop rfl)

/-! ## Runs -/

/-- Only `async_command` makes requests of the control: no other step of the run adds a grant. -/
def OnlyCommands (cfg : RuntimeConfig) (world : ρ) (run : List (Op ρ)) (control : Control) : Prop :=
  ∀ n op, run[n]? = some (.runtime op) →
    ∀ g ∈ (coordinatorAt cfg world run (n + 1)).runtime.grants, g.request.control = control →
      g ∈ (coordinatorAt cfg world run n).runtime.grants

theorem coordinatorAt_kept (cfg : RuntimeConfig) (world : ρ) (run : List (Op ρ)) (n : ℕ) :
    Kept (OnlyCommands cfg world run) (coordinatorAt cfg world run n) := by
  refine (machine cfg world).stateAt_invariant_of run (fun _ _ => True) (fun _ _ _ => trivial)
    ⟨shared_init world, fun control _ => owned_init world control⟩ ?_ n
  intro n op hop _ h
  refine h.step op ?_
  rintro rop rfl control hcontrol g hg hgc
  refine hcontrol n rop hop g ?_ hgc
  rw [coordinatorAt, Machine.stateAt_succ _ hop]
  exact hg

/-- The state after step `n`. -/
theorem coordinatorAt_succ (cfg : RuntimeConfig) (world : ρ) {run : List (Op ρ)} {n : ℕ}
    {op : Op ρ} (h : run[n]? = some op) :
    coordinatorAt cfg world run (n + 1) = ((coordinatorAt cfg world run n).step cfg op).1 :=
  Machine.stateAt_succ _ h

/-! ## Cancellation -/

/-- A cancelled control: its latest goal has ended, the others are as they were. -/
theorem cancel_goals {e : Engine} (hr : Engine.IntentRep e) {id : ℕ}
    (hlatest : e.latest.get? control = some id) (now : Option ℚ) :
    (∀ id', id' ≠ id → (e.cancel control now).intent id' = e.intent id') ∧
      ∀ item, e.intent id = some item → item.stage.terminal = false →
        (e.cancel control now).intent id =
          some { item with stage := .cancelled, reason := some .cancelledByCaller } := by
  have hsame := Engine.sameGoals_now e (now.getD e.now)
  unfold Engine.cancel
  dsimp only
  rw [hlatest]
  dsimp only
  rw [hsame.intent]
  constructor
  · intro id' hne
    split
    · rw [Engine.intent_update (hsame.rep hr), if_neg hne, hsame.intent]
    · exact hsame.intent id'
  · intro item hi hlive
    rw [if_pos (by simp [hi, hlive]), Engine.intent_update (hsame.rep hr), if_pos rfl, hsame.intent,
      hi, Option.map_some]

/-- A goal that is live is not cancelled. -/
theorem not_cancelled {item item' : Intent} (hlive : item.stage.terminal = false)
    (heq : some item = some item') : item'.stage ≠ .cancelled := by
  cases heq
  intro hstage
  rw [hstage] at hlive
  cases hlive

/-- **A cancelled task** ends its own goal, and only as the last that waits for it. -/
theorem cancel_spec (h : Shared s) (ho : Owned s call.control)
    (hcall : s.callers.get? task = some call) :
    (∀ id item item', s.engine.intent id = some item → item.stage.terminal = false →
      (s.step cfg (.cancel task)).1.engine.intent id = some item' → item'.stage = .cancelled →
      id = call.id ∧ ∀ task' call', s.callers.get? task' = some call' → call'.id = call.id →
        task' = task) ∧
    ((∀ task' call', s.callers.get? task' = some call' → call'.id = call.id → task' = task) →
      ∀ item, s.engine.intent call.id = some item → item.stage.terminal = false →
        ∃ item', (s.step cfg (.cancel task)).1.engine.intent call.id = some item' ∧
          item'.stage = .cancelled) := by
  have hstep : s.step cfg (.cancel task) = s.cancelCall task call := by
    simp only [SpaCoordinator.step, hcall]
  have hwaiters : s.waiters.get? call.id = some (s.inside call.id) :=
    (h.waiters call.id).trans (if_neg (inside_of_get? hcall))
  rw [hstep, ← inside_eq_one hcall]
  unfold cancelCall
  rw [hwaiters]
  by_cases hone : s.inside call.id = 1
  · have habandon : Kept (fun _ => False) (s.abandon call) :=
      Kept.abandon cfg ⟨h, fun _ hfalse => hfalse.elim⟩ call
    have hcall' : (s.abandon call).callers.get? task = some call := by
      rw [abandon_callers, hcall]
    obtain ⟨-, hleft⟩ := habandon.shared.exit hcall' (.error .cancelled)
    have hengine : ((s.abandon call).exit task call (.error .cancelled)).1.engine =
        (s.abandon call).engine := congrArg (fun w => w.commands.engine) hleft.runtime
    rw [if_pos (congrArg some hone), hengine]
    by_cases hpending : s.pending.get? call.control = some call.id
    · have hrep : Engine.IntentRep s.engine := h.granted.rep
      obtain ⟨hothers, hown⟩ :=
        cancel_goals hrep (ho.latest call.id hpending) (some s.runtime.time)
      have habandoned : (s.abandon call).engine =
          s.engine.cancel call.control (some s.runtime.time) := by
        unfold abandon
        rw [if_pos hpending]
        rfl
      rw [habandoned]
      refine ⟨fun id item item' hi hlive hi' hstage => ⟨?_, hone⟩, fun _ item hi hlive => ?_⟩
      · by_contra hne
        rw [hothers id hne] at hi'
        exact not_cancelled hlive (hi.symm.trans hi') hstage
      · exact ⟨_, hown item hi hlive, rfl⟩
    · have habandoned : s.abandon call = s := if_neg hpending
      rw [habandoned]
      refine ⟨fun id item item' hi hlive hi' hstage => ?_, fun _ item hi hlive => ?_⟩
      · exact absurd hstage (not_cancelled hlive (hi.symm.trans hi'))
      · exact absurd (ho.live task call item hcall rfl hi hlive) hpending
  · have hone' : ¬ some (s.inside call.id) = some 1 := fun heq => hone (Option.some.inj heq)
    obtain ⟨-, hleft⟩ := h.exit hcall (.error .cancelled)
    have hengine : (s.exit task call (.error .cancelled)).1.engine = s.engine :=
      congrArg (fun w => w.commands.engine) hleft.runtime
    rw [if_neg hone', hengine]
    refine ⟨fun id item item' hi hlive hi' hstage => ?_, fun hlast => absurd hlast hone⟩
    exact absurd hstage (not_cancelled hlive (hi.symm.trans hi'))

/-! ## Joining and returning -/

/-- **A command that joins** changes no goal, no action count and no deadline. -/
theorem join_spec (h : Shared s) (hopened : s.opened = true) (henabled : s.enabled = true)
    (htask : s.callers.get? task = none) {desired : Value} {intent : Intent}
    (hjoin : s.joinable control desired = some intent) :
    (∀ id, (s.step cfg (.asyncCommand task control desired)).1.engine.intent id =
        s.engine.intent id) ∧
      (s.step cfg (.asyncCommand task control desired)).1.engine.actions = s.engine.actions ∧
      (s.step cfg (.asyncCommand task control desired)).1.deadlines = s.deadlines ∧
      s.deadlines.get? intent.id = intent.deadline := by
  obtain ⟨hpending, hi, -, -⟩ := h.joinable hjoin
  obtain ⟨task', hcall⟩ := h.pending control intent.id hpending
  have hcontains : s.deadlines.contains intent.id = true :=
    (h.deadlines intent.id).mpr (inside_of_get? hcall)
  obtain ⟨d, hd⟩ := (Dict.contains_iff _).mp hcontains
  have hdeadline : intent.deadline = some d := h.due intent.id d intent hd hi
  have hfree : ¬ s.callers.contains task = true := by simp [Dict.contains, htask]
  obtain ⟨hgoals, hactions⟩ := joined_goals s.engine intent.id s.runtime.time
  have hstep : (s.step cfg (.asyncCommand task control desired)).1 =
      ((s.setEngine (s.engine.joined intent.id s.runtime.time)).register
        task control intent).1 := by
    simp only [SpaCoordinator.step, if_neg hfree, SpaCoordinator.asyncCommand, hopened, henabled,
      not_true_eq_false, if_false, hjoin]
  rw [hstep]
  unfold SpaCoordinator.register
  rw [hdeadline]
  exact ⟨hgoals, hactions, if_pos hcontains, hd⟩

theorem conclude_ok {item : Intent} (h : conclude item = .ok ()) : item.stage = .verified := by
  unfold conclude at h
  split at h
  · cases h
  · split at h
    · cases h
    · next hstage => exact not_not.mp hstage

theorem register_out (s : SpaCoordinator ρ) (task : ℕ) (control : Control) (intent : Intent) :
    (s.register task control intent).2 ≠ .ended (.ok ()) := by
  unfold SpaCoordinator.register
  split <;> simp

/-- No command returns before its await. -/
theorem asyncCommand_out (s : SpaCoordinator ρ) (task : ℕ) (control : Control) (desired : Value) :
    (s.asyncCommand cfg task control desired).2 ≠ .ended (.ok ()) := by
  unfold SpaCoordinator.asyncCommand
  split
  · simp
  split
  · simp
  split
  · exact register_out _ _ _ _
  · split
    · simp
    · exact register_out _ _ _ _

/-- What the end of `wait_for_intent` returns. -/
theorem Shared.returned (h : Shared s) (hcall : s.callers.get? task = some call)
    {result : Except CommandError Unit}
    (hout : (s.exit task call result).2 = .ended (.ok ())) :
    result = .ok () ∧ (s.exit task call result).1.engine = s.engine := by
  obtain ⟨hended, hleft⟩ := h.exit hcall result
  rw [hended] at hout
  cases hout
  exact ⟨rfl, congrArg (fun w => w.commands.engine) hleft.runtime⟩

/-- The end of `wait_for_intent`, when the command returns. -/
theorem Shared.wake_returns (h : Shared s) (hcall : s.callers.get? task = some call)
    (hout : (s.wakeCall task call).2 = .ended (.ok ())) :
    ∃ item, (s.wakeCall task call).1.engine.intent call.id = some item ∧
      item.stage = .verified := by
  unfold SpaCoordinator.wakeCall at hout ⊢
  cases hi : s.engine.intent call.id with
  | none =>
    rw [hi] at hout
    cases (h.returned hcall hout).1
  | some item =>
    rw [hi] at hout
    dsimp only at hout ⊢
    split at hout
    · next hended =>
      obtain ⟨hok, hengine⟩ := h.returned hcall hout
      rw [if_pos hended, hengine]
      exact ⟨item, hi, conclude_ok hok⟩
    · cases hout

theorem Kept.timeout_returns (h : Kept P s) (hcall : s.callers.get? task = some call)
    (hout : (s.timeoutCall cfg task call).2 = .ended (.ok ())) :
    ∃ item, (s.timeoutCall cfg task call).1.engine.intent call.id = some item ∧
      item.stage = .verified := by
  have htick := h.tick cfg
  have hcall' : (s.setEngine (s.engine.tick cfg.engine s.runtime.time)).callers.get? task =
      some call := hcall
  unfold timeoutCall at hout ⊢
  generalize s.setEngine (s.engine.tick cfg.engine s.runtime.time) = ticked at *
  dsimp only at hout ⊢
  cases hi : ticked.engine.intent call.id with
  | none =>
    rw [hi] at hout
    cases (htick.shared.returned hcall' hout).1
  | some item =>
    rw [hi] at hout
    dsimp only at hout ⊢
    split at hout
    · next hended =>
      obtain ⟨hok, hengine⟩ := htick.shared.returned hcall' hout
      rw [if_pos hended, hengine]
      exact ⟨item, hi, conclude_ok hok⟩
    · have habandon := (htick.abandon cfg call).shared
      cases (habandon.returned ((abandon_callers ticked call).symm ▸ hcall') hout).1

/-- **A command returns** only if its own goal is verified. -/
theorem return_spec (h : Kept P s) {op : Op ρ} (hout : (s.step cfg op).2 = .ended (.ok ())) :
    ∃ task call item, (op = .wake task ∨ op = .timeout task) ∧
      s.callers.get? task = some call ∧
      (s.step cfg op).1.engine.intent call.id = some item ∧ item.stage = .verified := by
  cases op with
  | asyncOpen => cases hout
  | asyncClose => cases hout
  | enable enabled => cases hout
  | asyncOptionsUpdated => cases hout
  | asyncCommand task control desired =>
    change (if s.callers.contains task then (s, .done)
      else s.asyncCommand cfg task control desired).2 = _ at hout
    split at hout
    · cases hout
    · exact absurd hout (asyncCommand_out s task control desired)
  | wake task =>
    cases hcall : s.callers.get? task with
    | none => simp [SpaCoordinator.step, hcall] at hout
    | some call =>
      have hstep : s.step cfg (.wake task) = s.wakeCall task call := by
        simp only [SpaCoordinator.step, hcall]
      rw [hstep] at hout ⊢
      obtain ⟨item, hi, hstage⟩ := h.shared.wake_returns hcall hout
      exact ⟨task, call, item, Or.inl rfl, hcall, hi, hstage⟩
  | timeout task =>
    cases hcall : s.callers.get? task with
    | none => simp [SpaCoordinator.step, hcall] at hout
    | some call =>
      have hstep : s.step cfg (.timeout task) = s.timeoutCall cfg task call := by
        simp only [SpaCoordinator.step, hcall]
      rw [hstep] at hout ⊢
      obtain ⟨item, hi, hstage⟩ := h.timeout_returns hcall hout
      exact ⟨task, call, item, Or.inr rfl, hcall, hi, hstage⟩
  | cancel task =>
    cases hcall : s.callers.get? task with
    | none => simp [SpaCoordinator.step, hcall] at hout
    | some call =>
      simp only [SpaCoordinator.step, hcall, cancelCall] at hout
      split at hout
      · have habandon := (h.abandon cfg call).shared
        cases (habandon.returned ((abandon_callers s call).symm ▸ hcall) hout).1
      · cases (h.shared.returned hcall hout).1
  | stop task =>
    cases hcall : s.callers.get? task with
    | none => simp [SpaCoordinator.step, hcall] at hout
    | some call =>
      simp only [SpaCoordinator.step, hcall] at hout
      cases (h.shared.returned hcall hout).1
  | runtime rop => cases hout

/-- Nothing is left in a dictionary in which nothing is found. -/
theorem entries_nil {α β : Type} [DecidableEq α] {d : Dict α β} (h : ∀ k, d.get? k = none) :
    d.entries = [] := by
  rw [List.eq_nil_iff_forall_not_mem]
  rintro ⟨k, v⟩ hmem
  have hget := d.mem_entries.mp hmem
  rw [h] at hget
  cases hget

/-- **Without calls at their await the tables are empty.** -/
theorem Shared.tables_empty (h : Shared s) (hnone : s.callers.entries = []) :
    s.waiters.entries = [] ∧ s.deadlines.entries = [] ∧ s.pending.entries = [] := by
  have hinside : ∀ id, s.inside id = 0 := by
    intro id
    rw [inside, Dict.values, hnone]
    rfl
  refine ⟨entries_nil fun id => ?_, entries_nil fun id => ?_, entries_nil fun control => ?_⟩
  · rw [h.waiters, if_pos (hinside id)]
  · have hcontains := (h.deadlines id).not.mpr (not_not.mpr (hinside id))
    simpa [Dict.contains] using hcontains
  · cases hpending : s.pending.get? control with
    | none => rfl
    | some id =>
      obtain ⟨task, hcall⟩ := h.pending control id hpending
      exact absurd (hinside id) (inside_of_get? hcall)

/-- **Shared commands**: a cancelled task cancels its own goal at most, as the last that waits
    for it, and then it does; to join a goal changes no deadline and no action count; a command
    returns only if its own goal is verified; and the tables are empty when no command is at
    its await. -/
theorem shared_waiters (cfg : RuntimeConfig) (world : ρ) (run : List (Op ρ)) (n : ℕ) :
    (∀ task call, run[n]? = some (.cancel task) →
      (coordinatorAt cfg world run n).callers.get? task = some call →
      OnlyCommands cfg world run call.control →
      (∀ id item item', (coordinatorAt cfg world run n).engine.intent id = some item →
        item.stage.terminal = false →
        (coordinatorAt cfg world run (n + 1)).engine.intent id = some item' →
        item'.stage = .cancelled →
        id = call.id ∧ ∀ task' call', (coordinatorAt cfg world run n).callers.get? task' =
          some call' → call'.id = call.id → task' = task) ∧
      ((∀ task' call', (coordinatorAt cfg world run n).callers.get? task' = some call' →
          call'.id = call.id → task' = task) →
        ∀ item, (coordinatorAt cfg world run n).engine.intent call.id = some item →
          item.stage.terminal = false →
          ∃ item', (coordinatorAt cfg world run (n + 1)).engine.intent call.id = some item' ∧
            item'.stage = .cancelled)) ∧
    (∀ task control desired intent, run[n]? = some (.asyncCommand task control desired) →
      (coordinatorAt cfg world run n).opened = true →
      (coordinatorAt cfg world run n).enabled = true →
      (coordinatorAt cfg world run n).callers.get? task = none →
      (coordinatorAt cfg world run n).joinable control desired = some intent →
      (∀ id, (coordinatorAt cfg world run (n + 1)).engine.intent id =
        (coordinatorAt cfg world run n).engine.intent id) ∧
      (coordinatorAt cfg world run (n + 1)).engine.actions =
        (coordinatorAt cfg world run n).engine.actions ∧
      (coordinatorAt cfg world run (n + 1)).deadlines =
        (coordinatorAt cfg world run n).deadlines ∧
      (coordinatorAt cfg world run n).deadlines.get? intent.id = intent.deadline) ∧
    ((machine cfg world).outAt run n = some (.ended (.ok ())) →
      ∃ task call item, (run[n]? = some (.wake task) ∨ run[n]? = some (.timeout task)) ∧
        (coordinatorAt cfg world run n).callers.get? task = some call ∧
        (coordinatorAt cfg world run (n + 1)).engine.intent call.id = some item ∧
        item.stage = .verified) ∧
    ((coordinatorAt cfg world run n).callers.entries = [] →
      (coordinatorAt cfg world run n).waiters.entries = [] ∧
      (coordinatorAt cfg world run n).deadlines.entries = [] ∧
      (coordinatorAt cfg world run n).pending.entries = []) := by
  have h := coordinatorAt_kept cfg world run n
  refine ⟨?_, ?_, ?_, h.shared.tables_empty⟩
  · intro task call hop hcall hcontrol
    rw [coordinatorAt_succ cfg world hop]
    exact cancel_spec h.shared (h.owned call.control hcontrol) hcall
  · intro task control desired intent hop hopened henabled htask hjoin
    rw [coordinatorAt_succ cfg world hop]
    exact join_spec h.shared hopened henabled htask hjoin
  · intro hout
    obtain ⟨op, hop, hout⟩ := (Machine.outAt_eq_some _).mp hout
    rw [coordinatorAt_succ cfg world hop]
    obtain ⟨task, call, item, hcase, hrest⟩ := return_spec h hout
    refine ⟨task, call, item, ?_, hrest⟩
    rw [hop]
    exact hcase.imp (congrArg some) (congrArg some)

/-- Two commands for one pump and one value, cancelled one after the other. -/
def sharedRun : List (Op Unit) :=
  [.runtime (.publish (sampleSnapshot .ready (sampleStatus 98 0 true) 1 0)), .runtime (.update 0),
    .asyncOpen, .enable true, .asyncCommand 0 .pump1 (.pump .high),
    .asyncCommand 1 .pump1 (.pump .high), .cancel 0, .cancel 1]

/-- The goal outlives the first cancellation, and ends with the second one. -/
theorem shared_waiters_sample :
    (coordinatorAt sampleRuntime () sharedRun 7).waiters.get? 1 = some 1 ∧
      ((coordinatorAt sampleRuntime () sharedRun 7).engine.intent 1).map Intent.stage =
        some .queued ∧
      ∃ item, (coordinatorAt sampleRuntime () sharedRun 8).engine.intent 1 = some item ∧
        item.stage = .cancelled := by
  have hcalls : (coordinatorAt sampleRuntime () sharedRun 7).callers.entries =
      [(1, ⟨.pump1, 1⟩)] := by
    decide +kernel
  have hcall : (coordinatorAt sampleRuntime () sharedRun 7).callers.get? 1 = some ⟨.pump1, 1⟩ :=
    (Dict.mem_entries _).mp (hcalls ▸ List.mem_singleton_self _)
  have hstage : ((coordinatorAt sampleRuntime () sharedRun 7).engine.intent 1).map Intent.stage =
      some .queued := by
    decide +kernel
  have honly : OnlyCommands sampleRuntime () sharedRun .pump1 := by
    intro n op hop g hg _
    have hnone : ∀ n < 8, (sharedRun[n]?.any fun op => op matches .runtime _) = true →
        (coordinatorAt sampleRuntime () sharedRun (n + 1)).runtime.grants.isEmpty = true := by
      decide +kernel
    have hempty := hnone n (List.getElem?_eq_some_iff.mp hop).1 (by rw [hop]; rfl)
    rw [List.isEmpty_iff.mp hempty] at hg
    cases hg
  obtain ⟨item, hi, hqueued⟩ := Option.map_eq_some_iff.mp hstage
  refine ⟨by decide +kernel, hstage, ?_⟩
  refine ((shared_waiters sampleRuntime () sharedRun 7).1 1 ⟨.pump1, 1⟩ rfl hcall honly).2 ?_
    item hi (by rw [hqueued]; rfl)
  intro task call htask _
  have hmem := (Dict.mem_entries _).mpr htask
  rw [hcalls] at hmem
  exact congrArg Prod.fst (List.mem_singleton.mp hmem)

end SpaCoordinator

end BalboaRs485
