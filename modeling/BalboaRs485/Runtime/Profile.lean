import BalboaRs485.Runtime.WriteAhead
import BalboaRs485.Session.Restoration

/-!
# The temperature of the Low range

A bathing session only computes a temperature as its goal in the High range, but the
write leaves later, when `prepare` asks the engine. Neither the guard of the intent nor
the planner looks at the range again, so an observation of the Low range in between is
written over if the Low range admits the temperature.

* `step_highOnly`: without such an observation no temperature of a bathing session can
  be written to the Low range.
* `low_kept`: the same over whole runs.
* `low_overwritten`: a run with such an observation in which `prepare` hands the write
  out.
-/

namespace BalboaRs485

/-- The Low range is observed, it admits the temperature, and shows another one. -/
def SpaState.admitsLow (o : SpaState) (desired : Value) : Bool :=
  ¬ o.status.highRange ∧ (o.validate .target desired).toBool ∧
    ¬ Value.shows (o.value .target) desired

theorem SpaState.admitsLow_iff {o : SpaState} {desired : Value} :
    o.admitsLow desired = true ↔ o.status.highRange = false ∧
      o.validate .target desired = .ok () ∧ Value.shows (o.value .target) desired = false := by
  unfold admitsLow
  cases o.validate .target desired <;> simp [Except.toBool]

/-- A temperature that was requested for a bathing session. -/
def SessionRequest.rangeTarget (q : SessionRequest) : Bool :=
  match q.record with
  | .range _ => q.control = .target
  | .session _ => false

/-- A bathing session only requests a temperature in the High range. -/
theorem SessionRequest.rangeTarget_high {q : SessionRequest} (hq : q.rangeTarget = true)
    {o : Option SpaState} (hgoal : q.record.goal o = .ok (q.control, q.goal)) :
    ∃ state, o = some state ∧ state.status.highRange = true := by
  unfold rangeTarget at hq
  split at hq
  · next s hs =>
    rw [hs] at hgoal
    obtain ⟨-, state, ho, -, hhigh⟩ := RangeSession.goal_ok hgoal
    exact ⟨state, ho, hhigh (by simpa using hq)⟩
  · cases hq

namespace System

variable {cfg : RuntimeConfig} {w : System}

/-! ## The condition -/

/-- On this observation a temperature of a bathing session that can still be sent would
    be written to the Low range. -/
def overwritesLow (w : System) (o : SpaState) : Bool :=
  w.requests.any fun q => q.rangeTarget ∧
    (q.intent.bind w.commands.engine.intent).any fun item =>
      ¬ item.stage.terminal ∧ o.admitsLow item.desired

theorem overwritesLow_iff {o : SpaState} : w.overwritesLow o = true ↔
    ∃ q id item, Held w q id item ∧ q.rangeTarget = true ∧ o.admitsLow item.desired = true := by
  unfold overwritesLow
  simp only [List.any_eq_true, decide_eq_true_eq, Option.any_eq_true, Option.bind_eq_some_iff,
    Bool.not_eq_true]
  constructor
  · rintro ⟨q, hq, hrange, item, ⟨id, hid, hitem⟩, hlive, hadmits⟩
    exact ⟨q, id, item, ⟨hq, hid, hitem, hlive⟩, hrange, hadmits⟩
  · rintro ⟨q, id, item, hheld, hrange, hadmits⟩
    exact ⟨q, hheld.mem, hrange, item, ⟨id, hheld.accepted, hheld.intent⟩, hheld.pending, hadmits⟩

/-- The step shows the engine such an observation. -/
def lowAtStake (cfg : RuntimeConfig) (w : System) : Op → Bool
  | .update now => (w.observed cfg now).any w.overwritesLow
  | _ => false

/-! ## Steps -/

/-- The observation after a step: the same one, the same one no longer available, or
    the one `update` has shown. -/
theorem step_state (cfg : RuntimeConfig) (w : System) (op : Op) :
    (w.step cfg op).1.state = w.state ∨ (w.step cfg op).1.state = Engine.offline w.state ∨
      ∃ now o, op = .update now ∧ w.observed cfg now = some o ∧
        (w.step cfg op).1.state = some o := by
  have hcase := step_case cfg w op
  generalize (w.step cfg op).1 = w' at hcase ⊢
  cases hcase with
  | env he => exact he.state
  | foreign r r' => exact Or.inl (request_state cfg w r')
  | entered _ _ hent =>
    cases hent with
    | same => exact Or.inl rfl
    | saving => exact Or.inl (pause_state w)
    | applying => exact Or.inl rfl
  | ticked => exact Or.inl (pause_state w)
  | pursued session => exact Or.inl (pursueSession_spec cfg w session).2.2.2
  | resumed next task =>
    left
    cases task with
    | finish => rfl
    | apply => rfl
    | tick =>
      show ((w.stores next .free).pursue cfg).state = w.state
      unfold pursue
      split
      · rfl
      · exact (pursueSession_spec cfg (w.stores next .free) _).2.2.2
  | failed => exact Or.inl rfl
  | released => exact Or.inl rfl
  | paused => exact Or.inl (pause_state w)
  | closed => exact Or.inl (pause_state _)

/-- Nothing is admissible while the connection is lost. -/
theorem admitsLow_offline {state : Option SpaState} {o : SpaState}
    (h : Engine.offline state = some o) (desired : Value) : o.admitsLow desired = false := by
  obtain ⟨o', -, rfl⟩ := Option.map_eq_some_iff.mp h
  have hsafe : ({ o' with available := false } : SpaState).safeFor .target = false := by
    simp [SpaState.safeFor, SpaState.controlsSafe]
  by_contra hadmits
  obtain ⟨-, hvalid, -⟩ := SpaState.admitsLow_iff.mp (by simpa using hadmits)
  unfold SpaState.validate at hvalid
  rw [if_pos (by rw [hsafe]; decide)] at hvalid
  cases hvalid

/-- No temperature of a bathing session can be written to the Low range. -/
def HighOnly (w : System) : Prop := ∀ o, w.state = some o → w.overwritesLow o = false

theorem step_highOnly (howns : Owns w) (h : HighOnly w) {op : Op}
    (hop : w.lowAtStake cfg op = false) : HighOnly (w.step cfg op).1 := by
  intro o ho
  by_contra hover
  obtain ⟨q, id, item', hheld, hrange, hadmits⟩ := overwritesLow_iff.mp (by simpa using hover)
  obtain ⟨new, hrequests, hnew⟩ := (step_requests cfg w op).2
  have hmem := hheld.mem
  rw [hrequests] at hmem
  rcases List.mem_append.mp hmem with hq | hq
  · -- an older request could have been written before, on the same observation
    obtain ⟨item, hi, hg, hlive⟩ := ((step_engine w op).descends howns.rep howns.pending).goal id
      item' (howns.known q hq id hheld.accepted) hheld.intent
    have hbefore : Held w q id item := ⟨hq, hheld.accepted, hi, hlive hheld.pending⟩
    have hdesired : item'.desired = item.desired := (Engine.goal_eq hg).2.2.1
    rw [hdesired] at hadmits
    have hw : w.overwritesLow o = true :=
      overwritesLow_iff.mpr ⟨q, id, item, hbefore, hrange, hadmits⟩
    rcases step_state cfg w op with hs | hs | ⟨now, o', rfl, hobs, hs⟩
    · rw [h o (hs ▸ ho)] at hw
      cases hw
    · rw [admitsLow_offline (hs ▸ ho)] at hadmits
      cases hadmits
    · obtain rfl := Option.some.inj (hs.symm.trans ho)
      simp only [lowAtStake, hobs, Option.any_some, hw] at hop
      cases hop
  · -- a new one was computed on this observation
    obtain ⟨-, hgoal⟩ := hnew q hq
    obtain ⟨state, hstate, hhigh⟩ := SessionRequest.rangeTarget_high hrange hgoal
    obtain rfl := Option.some.inj (hstate.symm.trans ho)
    rw [(SpaState.admitsLow_iff.mp hadmits).1] at hhigh
    cases hhigh

/-! ## Transmission -/

/-- `prepare` only hands out a temperature of a bathing session in the High range,
    whenever and however it is called. -/
def LowKept (cfg : RuntimeConfig) (w : System) : Prop :=
  ∀ answers now t action, (w.prepare cfg answers now).1 = some t → t.token = .action action →
    action.intent.control = .target →
    ∀ q ∈ w.requests, ∀ s, q.record = .range s → q.intent = some action.intent.id →
      ∃ o, w.state = some o ∧ o.status.highRange = true

/-- The engine checks its observation again when it hands out an action. -/
theorem HighOnly.prepare (howns : Owns w) (h : HighOnly w) : LowKept cfg w := by
  intro answers now t action ht htoken hcontrol q hq s hs hid
  obtain ⟨e, hcalls, hnext⟩ := Commands.prepare_action cfg w.commands (w.callGuard answers)
    (r := w.runner) ht htoken
  have hrep := (hcalls.rep howns.rep howns.pending).1
  obtain ⟨item', hi', hlive', hg'⟩ := Engine.nextAction_pending hrep hnext
  obtain ⟨item, hi, hg, hlive⟩ := (hcalls.descends howns.rep howns.pending).goal _ item'
    (howns.known q hq _ hid) hi'
  have hheld : Held w q action.intent.id item := ⟨hq, hid, hi, hlive hlive'⟩
  have hsame : action.intent.goal = item.goal := hg'.trans hg
  have hdesired : action.intent.desired = item.desired := (Engine.goal_eq hsame).2.2.1
  have hrange : q.rangeTarget = true := by
    have hqc : q.control = .target := by
      rw [← (howns.goal q hq _ item hid hi).1, ← Engine.intent_control hsame, hcontrol]
    unfold SessionRequest.rangeTarget
    rw [hs]
    simpa using hqc
  obtain ⟨o, spent, ho, havailable, hproposed, -⟩ := Engine.nextAction_intent hrep hnext
  rw [hcontrol] at hproposed
  have hstate : w.state = some o := by
    rcases (hcalls.mono fun _ hop => hop.noObserve).state with heq | heq
    · exact heq.symm.trans ho
    · obtain ⟨o', -, rfl⟩ := Option.map_eq_some_iff.mp (heq.symm.trans ho)
      cases havailable
  refine ⟨o, hstate, ?_⟩
  by_contra hlow
  have hvalid : o.validate .target item.desired = .ok () := by
    rw [← hdesired]
    exact plan_validated hproposed.planned
  have hunseen : Value.shows (o.value .target) item.desired = false := by
    rw [hproposed.starting, ← hdesired]
    exact hproposed.undone
  have hover := h o hstate
  rw [overwritesLow_iff.mpr ⟨q, _, item, hheld, hrange,
    SpaState.admitsLow_iff.mpr ⟨by simpa using hlow, hvalid, hunseen⟩⟩] at hover
  cases hover

/-! ## Runs -/

/-- **The Low range keeps its temperature** in every run without an observation of the
    Low range on which a temperature of a bathing session would be written to it. -/
theorem low_kept (cfg : RuntimeConfig) (start : Start) (run : List Op)
    (h : ∀ n op, run[n]? = some op → (systemAt cfg start run n).lowAtStake cfg op = false) (n : ℕ) :
    LowKept cfg (systemAt cfg start run n) := by
  refine HighOnly.prepare (systemAt_owns cfg start run n)
    ((machine cfg start).stateAt_invariant_of run
      (fun n op => (systemAt cfg start run n).lowAtStake cfg op = false) h ?_ ?_ n)
  · intro o ho
    cases ho
  · intro n op _ hop hhigh
    exact step_highOnly (systemAt_owns cfg start run n) hhigh hop

/-- A bathing session that raises the High range from 90 °F to 98 °F. -/
def profileSession : RangeSession :=
  ⟨RangeSession.startRecord 0 3600 98 7 (sampleSeen 90 1 true) 90, by decide +kernel⟩

/-- The runner is constructed with it. -/
def profileStart : Start where
  session := some (.range profileSession)
  wall := 1

/-- It requests its target, and then a status is observed before the bus is free. -/
def profileRun (status : StatusMessage) : List Op :=
  sampleOpening (sampleStatus 90 1 true) ++
    [.asyncTick, .publish (sampleSnapshot .ready status 2 1), .update 1]

theorem low_kept_sample :
    ((systemAt sampleRuntime profileStart (profileRun (sampleStatus 91 1 true)) 12).prepare
        sampleRuntime (fun _ => true) 1).1.isSome = true ∧
      LowKept sampleRuntime
        (systemAt sampleRuntime profileStart (profileRun (sampleStatus 91 1 true)) 12) := by
  refine ⟨by decide +kernel, low_kept sampleRuntime profileStart _ (fun n op hop => ?_) 12⟩
  have hsteps : ∀ n < 12, ((profileRun (sampleStatus 91 1 true))[n]?.all
      ((systemAt sampleRuntime profileStart (profileRun (sampleStatus 91 1 true)) n).lowAtStake
        sampleRuntime · = false)) = true := by
    decide +kernel
  obtain ⟨hlt, -⟩ := List.getElem?_eq_some_iff.mp hop
  simpa [hop] using hsteps n hlt

/-- The panel selects the Low range, at 80 °F, before the target is sent: `prepare`
    hands the target out, and the controller stores it for the Low range. -/
theorem low_overwritten :
    ¬ LowKept sampleRuntime
      (systemAt sampleRuntime profileStart (profileRun (sampleStatus 80 1 false)) 12) := by
  intro hkept
  generalize hw : systemAt sampleRuntime profileStart (profileRun (sampleStatus 80 1 false)) 12 = w
    at hkept
  have hhanded : ((w.prepare sampleRuntime (fun _ => true) 1).1.any fun t =>
      match t.token with
      | .action action => action.intent.control = .target ∧ action.intent.id = 1
      | .query _ => false) = true := by
    rw [← hw]
    decide +kernel
  have hrequest : (w.requests.any fun q =>
      q.record = .range profileSession ∧ q.intent = some 1) = true := by
    rw [← hw]
    decide +kernel
  have hlow : (w.state.all fun o => ¬ o.status.highRange) = true := by
    rw [← hw]
    decide +kernel
  obtain ⟨t, ht, hmatch⟩ := (Option.any_eq_true _ _).mp hhanded
  split at hmatch
  · next action htoken =>
    obtain ⟨hcontrol, hid⟩ : action.intent.control = .target ∧ action.intent.id = 1 := by
      simpa using hmatch
    obtain ⟨q, hq, hqs⟩ := List.any_eq_true.mp hrequest
    obtain ⟨hrecord, hqid⟩ : q.record = .range profileSession ∧ q.intent = some 1 := by
      simpa using hqs
    obtain ⟨o, ho, hhigh⟩ := hkept _ 1 t action ht htoken hcontrol q hq _ hrecord (hid ▸ hqid)
    simp [ho, hhigh] at hlow
  · cases hmatch

end System

end BalboaRs485
