import BalboaRs485.Runtime.Guards
import BalboaRs485.Runtime.WriteAhead

/-!
# The guards of the session runner

An accepted request of the runner brings a closure of `_guard`, which keeps the record it
was made for and a flag of its own. The runner does not hold on to it: the participant has
it in `guards`, and `prepare` calls it there.

* `step_guards`: what a step does to the guards, the requests and `_expired`.
* `Attached`: a request of the runner that can still be sent has its closure in `guards`,
  and a closure there belongs to the request it is stored with.
* `guardCall_held`: so a closure is only called for an intent the runner holds.
-/

namespace BalboaRs485

namespace System

variable {cfg : RuntimeConfig} {w w' : System}

/-! ## What a step does to the guards -/

/-- The guards and the requests are left alone, and `_expired` is if the session lasts. -/
structure Calm (w w' : System) : Prop where
  guards : w'.commands.guards = w.commands.guards
  requests : w'.requests = w.requests
  expired : w'.runner.expired = w.runner.expired ∨ w'.runner.session = none

theorem Calm.refl (w : System) : Calm w w := ⟨rfl, rfl, Or.inl rfl⟩

theorem calm_commands {c : Commands Guard} (h : c.guards = w.commands.guards) :
    Calm w { w with commands := c } := ⟨h, rfl, Or.inl rfl⟩

theorem pause_guards (w : System) : w.pause.commands.guards = w.commands.guards := by
  rw [pause_eq]
  rfl

theorem Calm.pause (h : Calm w w') : Calm w w'.pause := by
  refine ⟨(pause_guards w').trans h.guards, (pause_requests w').trans h.requests, ?_⟩
  rw [pause_runner]
  exact h.expired

/-- What a step does to the guards, the requests and `_expired`. -/
inductive GuardCase (cfg : RuntimeConfig) (w : System) (op : Op) : System → Prop
  | calm {w' : System} (h : Calm w w') : GuardCase cfg w op w'
  | prepared (answers : Control → Bool) (now : ℚ) (hop : op = .prepare answers now) :
      GuardCase cfg w op (w.prepare cfg answers now).2
  | foreign (r : Request) (h : r.caller = none ∨ r.caller = some .other) :
      GuardCase cfg w op (w.request cfg r).2
  | submitted (w₀ : System) (attempt : Attempt) (h : Calm w w₀)
      (hcommands : w₀.commands = w.commands)
      (hgoal : attempt.record.goal w₀.state = .ok (attempt.control, attempt.goal)) :
      GuardCase cfg w op (w₀.submit cfg attempt)

theorem pursueSession_guards {op : Op} {w₀ : System} (h : Calm w w₀)
    (hcommands : w₀.commands = w.commands) (session : SessionIntent) :
    GuardCase cfg w op (w₀.pursueSession cfg session) := by
  have hcase := pursue_case cfg w₀ session
  generalize w₀.pursueSession cfg session = w' at hcase
  cases hcase with
  | paused reason => exact .calm ⟨h.pause.guards, h.pause.requests, h.pause.expired⟩
  | awaited => exact .calm ⟨h.guards, h.requests, h.expired⟩
  | observed goal => exact .calm ⟨h.guards, h.requests, h.expired⟩
  | remembered goal => exact .calm ⟨h.guards, h.requests, h.expired⟩
  | requested goal hgoal => exact .submitted w₀ (w₀.attemptAt session goal) h hcommands hgoal

theorem enter_calm (body : Except RunnerError System) (h : ∀ w', body = .ok w' → Entered w w') :
    Calm w (w.enter body).1 := by
  unfold enter
  split
  · exact .refl w
  split
  · exact .refl w
  · next w' =>
    cases h w' rfl with
    | same => exact .refl w
    | saving next task =>
      have hpause := (Calm.refl w).pause
      exact ⟨hpause.guards, hpause.requests, hpause.expired⟩
    | applying control desired => exact ⟨rfl, rfl, Or.inl rfl⟩

theorem asyncTick_guards : GuardCase cfg w .asyncTick (w.enter (w.asyncTick cfg)).1 := by
  unfold enter
  split
  · exact .calm (.refl w)
  split
  · exact .calm (.refl w)
  next w' hbody =>
  unfold asyncTick at hbody
  split at hbody
  · cases hbody
    exact .calm (.refl w)
  next session hsession =>
  split at hbody
  · cases hbody
    exact .calm (.refl w)
  split at hbody
  · cases hbody
  split at hbody
  · obtain ⟨-, rfl⟩ := replace_ok hbody
    have hpause := (Calm.refl w).pause
    exact .calm ⟨hpause.guards, hpause.requests, hpause.expired⟩
  · cases hbody
    unfold pursue
    rw [hsession]
    exact pursueSession_guards (.refl w) rfl session

/-- A stored record is what the session is from there. -/
theorem stores_calm (w : System) (next : Option SessionIntent) (lock : Lock) :
    Calm w (w.stores next lock) := by
  refine ⟨rfl, rfl, ?_⟩
  unfold stores
  split
  · exact Or.inr rfl
  · exact Or.inl rfl

theorem saved_guards (outcome : SaveOutcome) :
    GuardCase cfg w (.saved outcome) (w.saved cfg outcome).1 := by
  unfold saved
  split
  · next next task hlock =>
    cases task with
    | finish => exact .calm (stores_calm w next .free)
    | apply control desired => exact .calm (stores_calm w next (.applying control desired))
    | tick =>
      show GuardCase cfg w _ ((w.stores next .free).pursue cfg)
      unfold pursue
      split
      · exact .calm (stores_calm w next .free)
      · exact pursueSession_guards (stores_calm w next .free) rfl _
  · exact .calm ⟨rfl, rfl, Or.inl rfl⟩
  · exact .calm ⟨rfl, rfl, Or.inl rfl⟩
  · exact .calm (.refl w)

theorem step_guards (cfg : RuntimeConfig) (w : System) (op : Op) :
    GuardCase cfg w op (w.step cfg op).1 := by
  cases op with
  | clock wall time => exact .calm ⟨rfl, rfl, Or.inl rfl⟩
  | enable enabled => exact .calm ⟨rfl, rfl, Or.inl rfl⟩
  | publish snapshot =>
    show GuardCase cfg w _ (w.publish snapshot)
    unfold publish
    split
    · exact .calm (.refl w)
    · exact .calm ⟨rfl, rfl, Or.inl rfl⟩
  | update now => exact .calm (calm_commands (Commands.update_guards cfg w.commands w.snapshot now))
  | prepare answers now => exact .prepared answers now rfl
  | sent message at_ ctsAt =>
    exact .calm (calm_commands (Commands.sent_engine cfg w.commands message at_ ctsAt).2)
  | received message epoch at_ =>
    exact .calm (calm_commands (Commands.received_engine cfg w.commands message epoch at_).2)
  | disconnected now => exact .calm ⟨rfl, rfl, Or.inl rfl⟩
  | request r guarded =>
    refine .foreign _ ?_
    cases guarded
    · exact Or.inl rfl
    · exact Or.inr rfl
  | cancel control now => exact .calm ⟨rfl, rfl, Or.inl rfl⟩
  | joined id now => exact .calm ⟨rfl, rfl, Or.inl rfl⟩
  | waited now => exact .calm ⟨rfl, rfl, Or.inl rfl⟩
  | refreshFilters =>
    exact .calm (calm_commands (Commands.refreshFilters_engine w.commands).2)
  | asyncStart endTime target maintenance unit =>
    exact .calm (enter_calm _ fun _ => startWith_entered)
  | asyncStartBathing endTime minimumC operationId =>
    exact .calm (enter_calm _ fun _ => startWith_entered)
  | asyncCancel => exact .calm (enter_calm _ fun _ => asyncCancel_entered)
  | asyncAdjust seconds => exact .calm (enter_calm _ fun _ => asyncAdjust_entered)
  | asyncAbandon => exact .calm (enter_calm _ fun _ => asyncAbandon_entered)
  | asyncManualChange control desired =>
    exact .calm (enter_calm _ fun _ => asyncManualChange_entered)
  | asyncTick => exact asyncTick_guards
  | saved outcome => exact saved_guards outcome
  | applied =>
    show GuardCase cfg w _ w.applied
    unfold applied
    split
    · exact .calm ⟨rfl, rfl, Or.inl rfl⟩
    · exact .calm (.refl w)
  | pause => exact .calm (Calm.refl w).pause
  | close =>
    have hclosed : Calm w { w with runner := { w.runner with closed := true } } :=
      ⟨rfl, rfl, Or.inl rfl⟩
    exact .calm hclosed.pause

/-! ## Closures and requests -/

end System

/-- The closure of a request: `_guard(session, epoch)`, which the runtime binds to no epoch
    of its own. -/
def SessionRequest.closure (q : SessionRequest) (guard : Guard) : Prop :=
  ∃ expired, guard = ⟨none, some (.session q.record q.epoch expired)⟩

/-- The guard is a closure of the runner. -/
def Guard.ofSession (guard : Guard) : Bool :=
  match guard.caller with
  | some (.session _ _ _) => true
  | _ => false

namespace System

variable {cfg : RuntimeConfig} {w w' : System}

/-- A closure of the runner belongs to the request it is stored with. -/
def OfRequest (w : System) (id : ℕ) (guard : Guard) : Prop :=
  guard.ofSession = true → ∃ q ∈ w.requests, q.intent = some id ∧ q.closure guard

/-- Requests of the runner and closures in `guards` belong together. -/
structure Attached (w : System) : Prop where
  guarded : ∀ q ∈ w.requests, ∀ id, q.intent = some id →
    Commands.Guarded w.commands q.control id q.closure
  requested : ∀ control id guard, w.commands.guards.get? control = some (id, guard) →
    OfRequest w id guard

theorem Attached.calm (h : Attached w) (hknows : Knows w) (hcalm : Calm w w')
    (hcalls : Engine.Calls cfg.engine (fun _ => True) w.commands.engine w'.commands.engine) :
    Attached w' where
  guarded := by
    intro q hq id hid
    rw [hcalm.requests] at hq
    exact (h.guarded q hq id hid).descend (hcalls.descends hknows.rep hknows.pending)
      (by rw [hcalm.guards])
  requested := by
    intro control id guard hget
    rw [hcalm.guards] at hget
    unfold OfRequest
    rw [hcalm.requests]
    exact h.requested control id guard hget

/-- A call of a guard keeps it what it is. -/
theorem callGuard_closure (q : SessionRequest) (answers : Control → Bool) (control : Control)
    {guard : Guard} (runner : Runner) (h : q.closure guard) :
    q.closure (w.callGuard answers control guard runner).2.1 := by
  obtain ⟨expired, rfl⟩ := h
  exact ⟨_, rfl⟩

theorem callGuard_ofSession (answers : Control → Bool) (control : Control) (guard : Guard)
    (runner : Runner) :
    (w.callGuard answers control guard runner).2.1.ofSession = guard.ofSession := by
  unfold callGuard
  split
  · rfl
  split
  · rfl
  · rfl
  · next hcaller =>
    unfold Guard.ofSession
    rw [hcaller]

theorem Attached.prepare (h : Attached w) (hknows : Knows w) (answers : Control → Bool) (now : ℚ) :
    Attached (w.prepare cfg answers now).2 where
  guarded := fun q hq id hid => (h.guarded q hq id hid).prepare cfg
    (fun _ r hguard => callGuard_closure q answers q.control r hguard) hknows.rep hknows.pending
    w.runner now
  requested := by
    intro control id guard hget
    have hget : (Commands.offer cfg (Commands.admitGuards (w.callGuard answers)
        w.commands.guards.entries w.commands w.runner).1 now).2.guards.get? control =
        some (id, guard) := hget
    rw [Commands.offer_guards] at hget
    have hcall : ∀ (control : Control) (id : ℕ) (guard : Guard) (r : Runner), OfRequest w id guard →
        OfRequest w id (w.callGuard answers control guard r).2.1 := by
      intro control id guard r hof hsession
      rw [callGuard_ofSession] at hsession
      obtain ⟨q, hq, hid, hclosure⟩ := hof hsession
      exact ⟨q, hq, hid, callGuard_closure q answers control r hclosure⟩
    exact Commands.admitGuards_entries hcall w.commands.guards.entries
      (fun control id guard hmem => h.requested control id guard
        (w.commands.guards.mem_entries.mp hmem)) w.commands w.runner h.requested
      control id guard hget

/-- `runtime.request` is refused at once, or is the request of the participant. -/
theorem request_commands (cfg : RuntimeConfig) (w : System) (r : Request) :
    w.request cfg r = (.error .notReady, w) ∨
      (w.request cfg r).2.commands =
          (w.commands.request cfg (w.engineRequest r) (w.guardOf r)).2 ∧
        (w.request cfg r).1 = (w.commands.request cfg (w.engineRequest r)
          (w.guardOf r)).1.mapError RequestError.engine := by
  unfold request Commands.request
  split
  · exact Or.inl rfl
  · right
    rcases w.commands.engine.request cfg.engine (w.engineRequest r) with ⟨e | intent, engine⟩
    · exact ⟨rfl, rfl⟩
    · refine ⟨?_, rfl⟩
      show ({ w.commands with engine, guards := w.attachGuard r intent.id } : Commands Guard) = _
      unfold attachGuard
      cases w.guardOf r <;> rfl

/-- The requests known so far keep their closures when another one is made. -/
theorem Attached.guarded_request (h : Attached w) (hknows : Knows w) (r : Request)
    {q : SessionRequest} (hq : q ∈ w.requests) {id : ℕ} (hid : q.intent = some id) :
    Commands.Guarded (w.request cfg r).2.commands q.control id q.closure := by
  rcases request_commands cfg w r with heq | ⟨heq, -⟩
  · rw [heq]
    exact h.guarded q hq id hid
  · rw [heq]
    exact (h.guarded q hq id hid).request hknows.rep hknows.pending _ _

/-- The guards behind a request: those before, or the new one. -/
theorem request_get? (cfg : RuntimeConfig) (w : System) (r : Request) {control : Control} {id : ℕ}
    {guard : Guard}
    (hget : (w.request cfg r).2.commands.guards.get? control = some (id, guard)) :
    w.commands.guards.get? control = some (id, guard) ∨
      w.guardOf r = some guard ∧ ∃ intent, (w.request cfg r).1 = .ok intent ∧ id = intent.id := by
  rcases request_commands cfg w r with heq | ⟨heq, hresult⟩
  · rw [heq] at hget
    exact Or.inl hget
  rw [heq] at hget
  rw [hresult]
  obtain ⟨e, hcase, -⟩ | ⟨intent, hok, hcase⟩ :=
    Commands.request_case cfg w.commands (w.engineRequest r) (w.guardOf r)
  · rw [hcase] at hget
    exact Or.inl hget
  · rw [hcase] at hget ⊢
    cases hguard : w.guardOf r with
    | none =>
      rw [hguard] at hget
      have hget : (w.commands.guards.pop _).get? control = some (id, guard) := hget
      rw [Dict.get?_pop] at hget
      split at hget
      · cases hget
      · exact Or.inl hget
    | some new =>
      rw [hguard] at hget
      have hget : (w.commands.guards.set _ (intent.id, new)).get? control = some (id, guard) := hget
      rw [Dict.get?_set] at hget
      split at hget
      · cases hget
        exact Or.inr ⟨rfl, intent, rfl, rfl⟩
      · exact Or.inl hget

theorem Attached.foreign (h : Attached w) (hknows : Knows w) (r : Request)
    (hcaller : r.caller = none ∨ r.caller = some .other) : Attached (w.request cfg r).2 := by
  have hrest := request_rest cfg w r
  refine ⟨fun q hq id hid => h.guarded_request hknows r (hrest.requests ▸ hq) hid, ?_⟩
  intro control id guard hget hsession
  rcases request_get? cfg w r hget with hget | ⟨hguard, -⟩
  · rw [hrest.requests]
    exact h.requested control id guard hget hsession
  · unfold guardOf at hguard
    unfold Guard.ofSession at hsession
    split at hguard
    · cases hguard
      rcases hcaller with hc | hc <;> rw [hc] at hsession <;> cases hsession
    · obtain ⟨caller, hc, rfl⟩ := Option.map_eq_some_iff.mp hguard
      rcases hcaller with hc' | hc' <;> rw [hc'] at hc <;> cases hc
      cases hsession

/-- The runtime binds no goal of a session to an epoch. -/
theorem guardOf_goal {o : Option SpaState} {attempt : Attempt}
    (hgoal : attempt.record.goal o = .ok (attempt.control, attempt.goal)) :
    w.guardOf (goalRequest attempt) =
      some ⟨none, some (.session attempt.record attempt.epoch false)⟩ := by
  have hcontrol : attempt.control = .target ∨ attempt.control = .highRange ∨
      attempt.control = .heatMode := by
    cases hrecord : attempt.record with
    | session s =>
      rw [hrecord] at hgoal
      exact Or.inl (congrArg Prod.fst (Session.goal_ok hgoal).1)
    | range s =>
      rw [hrecord] at hgoal
      have hof : attempt.control = s.goalOf.1 := congrArg Prod.fst (RangeSession.goal_ok hgoal).1
      rw [hof]
      unfold RangeSession.goalOf
      cases s.step <;> simp
  unfold guardOf
  rw [if_neg]
  · rfl
  · show ¬ (attempt.control = .clockTime ∨ attempt.control = .soak ∨
      attempt.control = .normalOperation ∨ attempt.control = .ackReminder)
    rcases hcontrol with hc | hc | hc <;> rw [hc] <;> decide

theorem Attached.submit (h : Attached w) (hknows : Knows w) {attempt : Attempt}
    (hgoal : attempt.record.goal w.state = .ok (attempt.control, attempt.goal)) :
    Attached (w.submit cfg attempt) := by
  have hrest := request_rest cfg w (goalRequest attempt)
  have hold : ∀ q ∈ w.requests, ∀ id, q.intent = some id → Commands.Guarded
      (w.request cfg (goalRequest attempt)).2.commands q.control id q.closure :=
    fun q hq id hid => h.guarded_request hknows _ hq hid
  have hget : ∀ control id guard,
      (w.request cfg (goalRequest attempt)).2.commands.guards.get? control = some (id, guard) →
      w.commands.guards.get? control = some (id, guard) ∨
        w.guardOf (goalRequest attempt) = some guard ∧
          ∃ intent, (w.request cfg (goalRequest attempt)).1 = .ok intent ∧ id = intent.id :=
    fun _ _ _ hguard => request_get? cfg w (goalRequest attempt) hguard
  obtain ⟨hrep, hpending⟩ :=
    (request_engine cfg w (goalRequest attempt)).rep hknows.rep hknows.pending
  have hcase := submit_case cfg w attempt
  generalize w.submit cfg attempt = w' at hcase
  cases hcase with
  | rejected e w' hreq =>
    rw [hreq] at hrest hold hget hrep hpending
    constructor
    · intro q hq id hid
      rcases List.mem_append.mp hq with hq | hq
      · refine (hold q (hrest.requests ▸ hq) id hid).descend ?_ ?_
        · exact (pause_engine .default w').descends hrep hpending
        · exact congrArg (Dict.get? · q.control) (pause_guards w')
      · rw [List.mem_singleton.mp hq] at hid
        cases hid
    · intro control id guard hguard hsession
      have hguard : w'.pause.commands.guards.get? control = some (id, guard) := hguard
      rw [pause_guards] at hguard
      rcases hget control id guard hguard with hguard | ⟨-, intent, hok, -⟩
      · obtain ⟨q, hq, hrest'⟩ := h.requested control id guard hguard hsession
        exact ⟨q, List.mem_append_left _ (hrest.requests ▸ hq), hrest'⟩
      · cases hok
  | accepted intent w' hreq =>
    have hcommands := request_commands cfg w (goalRequest attempt)
    rw [hreq] at hrest hold hget hcommands
    constructor
    · intro q hq id hid
      rcases List.mem_append.mp hq with hq | hq
      · exact hold q (hrest.requests ▸ hq) id hid
      · rw [List.mem_singleton.mp hq] at hid ⊢
        obtain rfl := Option.some.inj hid
        obtain hbad | ⟨heq, hresult⟩ := hcommands
        · cases hbad
        have hok : (w.commands.request cfg (w.engineRequest (goalRequest attempt))
            (w.guardOf (goalRequest attempt))).1 = .ok intent := mapError_eq_ok_iff.mp hresult.symm
        have heq : w'.commands = _ := heq
        show Commands.Guarded w'.commands attempt.control intent.id _
        rw [heq]
        rw [guardOf_goal hgoal] at hok ⊢
        refine (Commands.guarded_new hknows.rep hok).mono ?_
        rintro guard rfl
        exact ⟨false, rfl⟩
    · intro control id guard hguard hsession
      rcases hget control id guard hguard with hguard | ⟨hnew, intent', hok, rfl⟩
      · obtain ⟨q, hq, hrest'⟩ := h.requested control id guard hguard hsession
        exact ⟨q, List.mem_append_left _ (hrest.requests ▸ hq), hrest'⟩
      · cases hok
        rw [guardOf_goal hgoal] at hnew
        obtain rfl := Option.some.inj hnew
        exact ⟨_, List.mem_append_right _ (List.mem_singleton_self _), rfl, false, rfl⟩

theorem step_attached (h : Attached w) (hknows : Knows w) (op : Op) :
    Attached (w.step cfg op).1 := by
  have hcalls : Engine.Calls cfg.engine (fun _ => True) w.commands.engine
      (w.step cfg op).1.commands.engine := step_engine w op
  have hcase := step_guards cfg w op
  generalize (w.step cfg op).1 = w' at hcase hcalls
  cases hcase with
  | calm hcalm => exact h.calm hknows hcalm hcalls
  | prepared answers now => exact h.prepare hknows answers now
  | foreign r hcaller => exact h.foreign hknows r hcaller
  | submitted w₀ attempt hcalm hcommands hgoal =>
    have hsame : Engine.Calls cfg.engine (fun _ => True) w.commands.engine w₀.commands.engine := by
      rw [hcommands]
      exact .refl _
    exact (h.calm hknows hcalm hsame).submit (hknows.descend hsame hcalm.requests) hgoal

theorem attached_init (start : Start) : Attached (make start.session start.wall start.time) where
  guarded := by
    intro q hq
    cases hq
  requested := by
    intro control id guard hget
    cases hget

theorem systemAt_attached (cfg : RuntimeConfig) (start : Start) (run : List Op) (n : ℕ) :
    Attached (systemAt cfg start run n) := by
  have hboth := (machine cfg start).stateAt_invariant (P := fun w => Owns w ∧ Attached w)
    ⟨systemAt_owns cfg start [] 0, attached_init start⟩
    (fun w op h => ⟨step_owns h.1 op, step_attached h.2 h.1.toKnows op⟩) run n
  exact hboth.2

/-- **A closure of the runner is only called for an intent that the runner holds.** -/
theorem guardCall_held (h : Attached w) (hknows : Knows w) (answers : Control → Bool)
    {call : Commands.GuardCall Guard Runner}
    (hcall : call ∈ w.commands.guardCalls (w.callGuard answers) w.runner)
    (hsession : call.guard.ofSession = true) :
    ∃ q id item, Held w q id item ∧ q.closure call.guard := by
  obtain ⟨id, e, item', hget, hcalls, hi', hlive'⟩ :=
    Commands.guardCalls_live { engine := .default, sha256 := id } (w.callGuard answers) w.commands
      w.runner call hcall
  obtain ⟨q, hq, hid, hclosure⟩ := h.requested call.control id call.guard hget hsession
  obtain ⟨item, hheld, -⟩ := hknows.held hcalls hq hid hi' hlive'
  exact ⟨q, id, item, hheld, hclosure⟩

end System

end BalboaRs485
