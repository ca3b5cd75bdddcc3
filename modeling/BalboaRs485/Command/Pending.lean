import BalboaRs485.Command.Verification

/-!
# Goals that have not ended

A goal that is not `TERMINAL` is the latest of its control, so cancelling the
control or requesting a new value ends it, and `next_action` only hands out such
goals. The session runner relies on this when it pauses.

* `step_ended`: a call other than `request` never revives a goal.
* `request_pending`: a request leaves no other goal of its control pending.
* `cancel_ends`: a cancelled control has no pending goal.
* `nextAction_pending`: an action is handed out for a pending goal.
* `step_state`: the only call that shows the engine something new is `observe`.
* `Calls.rep`, `Calls.descends`, `Calls.state`: the same for sequences of calls, which
  is what the runtime makes of the engine.
-/

namespace BalboaRs485

namespace Engine

variable {cfg : EngineConfig}

/-- An ended goal is only moved to another end. -/
def Ends (item : Intent) (stage : Stage) : Prop :=
  item.stage.terminal = true → stage.terminal = true

theorem Quiet.ends {item : Intent} {stage : Stage} (h : Quiet item stage) : Ends item stage := by
  intro ht
  rw [(h.2 ht).2]
  rfl

/-- Every pending goal is the latest of its control. -/
def Pending (s : Engine) : Prop :=
  ∀ id item, s.intent id = some item → item.stage.terminal = false →
    s.latest.get? item.control = some id

theorem pending_init : Pending {} := by
  intro id item h
  cases h

theorem intent_control {item item' : Intent} (h : item'.goal = item.goal) :
    item'.control = item.control := (goal_eq h).2.1

/-! ## Updates -/

/-- A goal that has ended stays ended. -/
theorem Updates.ended {s s' : Engine} (h : Updates Ends s s') (hr : IntentRep s) {id : ℕ}
    {item item' : Intent} (hi : s.intent id = some item) (hi' : s'.intent id = some item')
    (ht : item.stage.terminal = true) : item'.stage.terminal = true := by
  induction h generalizing item item' with
  | same h =>
    rw [h.intent, hi] at hi'
    exact Option.some.inj hi' ▸ ht
  | @update s id₀ stage reason h =>
    rw [intent_update hr] at hi'
    split at hi'
    · next heq =>
      subst heq
      rw [hi] at hi'
      cases hi'
      exact h item hi ht
    · rw [hi] at hi'
      exact Option.some.inj hi' ▸ ht
  | trans h h' ih ih' =>
    obtain ⟨item₂, hi₂, -⟩ := h'.evolves (h.rep hr) hi'
    exact ih' (h.rep hr) hi₂ hi' (ih hr hi hi₂ ht)

/-- A pending goal was pending before, with the same control and desired value. -/
theorem Updates.was_pending {s s' : Engine} (h : Updates Ends s s') (hr : IntentRep s) {id : ℕ}
    {item' : Intent} (hi' : s'.intent id = some item') (hp : item'.stage.terminal = false) :
    ∃ item, s.intent id = some item ∧ item'.goal = item.goal ∧ item.stage.terminal = false := by
  obtain ⟨item, hi, hg, -⟩ := h.evolves hr hi'
  refine ⟨item, hi, hg, ?_⟩
  by_contra hne
  have := h.ended hr hi hi' (by simpa using hne)
  rw [hp] at this
  cases this

theorem Updates.pending {s s' : Engine} (h : Updates Ends s s') (hr : IntentRep s)
    (hp : Pending s) : Pending s' := by
  intro id item' hi' hlive
  obtain ⟨item, hi, hg, hlive₀⟩ := h.was_pending hr hi' hlive
  rw [h.latest, intent_control hg]
  exact hp id item hi hlive₀

/-- A call other than `request` never revives a goal. -/
theorem step_ended (cfg : EngineConfig) {s : Engine} (hr : IntentRep s) {op : EngineOp}
    (hop : ∀ r, op ≠ .request r) :
    Updates Ends s (s.step cfg op).1 :=
  (step_moves cfg hr hop).mono fun _ _ hm ht => by rw [(hm.1 ht).2]; rfl

/-! ## Requests and cancellation -/

/-- **What a request does to the other goals**: they were there before and are not
    revived; those of the same control have ended. -/
theorem request_pending (cfg : EngineConfig) {s : Engine} (hr : IntentRep s) (hp : Pending s)
    (r : Request) :
    Pending (s.request cfg r).2 ∧
      ∀ id item', (s.request cfg r).2.intent id = some item' → item'.stage.terminal = false →
        (∃ item, s.intent id = some item ∧ item'.goal = item.goal ∧ item.stage.terminal = false ∧
          ∀ new, (s.request cfg r).1 = .ok new → item'.control ≠ r.control) ∨
        (s.request cfg r).1 = .ok item' ∧ id = s.counter + 1 := by
  obtain ⟨e, s', herr, hs', hu⟩ | ⟨new, s₁, hok, hu, hid, hc, -, -, -, hnew, -, -, hrest, hold⟩ :=
    request_intents cfg r hr
  · have hu : Updates Ends s s' := hu.mono fun _ _ hq => hq.ends
    rw [hs', herr]
    refine ⟨hu.pending hr hp, fun id item' hi hlive => Or.inl ?_⟩
    obtain ⟨item, hi₀, hg, hlive₀⟩ := hu.was_pending hr hi hlive
    exact ⟨item, hi₀, hg, hlive₀, by simp⟩
  · have hu : Updates Ends s s₁ := hu.mono fun _ _ hq => hq.ends
    have hp₁ := hu.pending hr hp
    -- a pending goal of the control would be the previous one, which was superseded
    have hother : ∀ id item', s₁.intent id = some item' → item'.stage.terminal = false →
        item'.control ≠ r.control := by
      intro id item' hi hlive heq
      have hlat := hp₁ id item' hi hlive
      rw [hu.latest, heq] at hlat
      have := hold id item' hlat hi
      rw [hlive] at this
      cases this
    have hlatest : (s.request cfg r).2.latest = s.latest.set r.control new.id := by
      rw [(request_new hok).2.2, (updates_tick hr cfg r.now).latest]
    constructor
    · intro id item' hi hlive
      rw [hlatest]
      by_cases hne : id = new.id
      · subst hne
        obtain rfl := Option.some.inj (hnew.symm.trans hi)
        rw [hc, Dict.get?_set_self]
      · have hi₁ := hrest id item' hi hne
        rw [Dict.get?_set_of_ne _ _ (hother id item' hi₁ hlive), ← hu.latest]
        exact hp₁ id item' hi₁ hlive
    · intro id item' hi hlive
      by_cases hne : id = new.id
      · subst hne
        obtain rfl := Option.some.inj (hnew.symm.trans hi)
        exact Or.inr ⟨hok, hid⟩
      · have hi₁ := hrest id item' hi hne
        obtain ⟨item, hi₀, hg, hlive₀⟩ := hu.was_pending hr hi₁ hlive
        exact Or.inl ⟨item, hi₀, hg, hlive₀, fun _ _ => hother id item' hi₁ hlive⟩

/-- A cancelled control has no pending goal. -/
theorem cancel_ends {s : Engine} (hr : IntentRep s) (hp : Pending s) (control : Control)
    (now : Option ℚ) {id : ℕ} {item : Intent} (hi : (s.cancel control now).intent id = some item)
    (hc : item.control = control) : item.stage.terminal = true := by
  have hu : Updates Ends s (s.cancel control now) :=
    (updates_cancel s control now).mono fun _ _ hq => hq.ends
  by_contra hlive
  have hlive : item.stage.terminal = false := by simpa using hlive
  obtain ⟨item₀, hi₀, hg, hlive₀⟩ := hu.was_pending hr hi hlive
  have hlat := hp id item₀ hi₀ hlive₀
  rw [← intent_control hg, hc] at hlat
  have hnow : ∀ t id', ({ s with now := t } : Engine).intent id' = s.intent id' := fun _ _ => rfl
  unfold cancel at hi
  simp only [hlat, hnow, hi₀, Option.any_some, hlive₀] at hi
  rw [if_pos (by decide), intent_update ((sameGoals_now s _).rep hr), if_pos rfl, hnow, hi₀] at hi
  cases hi
  cases hlive

/-! ## Transmission -/

/-- An action is handed out for a pending goal. -/
theorem nextAction_pending {s : Engine} (hr : IntentRep s) {now : ℚ} {action : Action}
    (h : (s.nextAction cfg now).1 = some action) :
    ∃ item, s.intent action.intent.id = some item ∧ item.stage.terminal = false ∧
      action.intent.goal = item.goal := by
  obtain ⟨-, -, -, -, -, -, hfinal⟩ := nextAction_intent hr h
  have hended : Updates Ends s (s.step cfg (.nextAction now)).1 :=
    step_ended cfg hr (by intro r; simp)
  obtain ⟨item, hi, hg, hlive⟩ := hended.was_pending hr hfinal rfl
  exact ⟨item, hi, hlive, hg⟩

/-! ## Observations -/

/-- The observation after a call: the same one, the same one no longer available,
    or the one `observe` was called with. -/
theorem step_state (cfg : EngineConfig) (s : Engine) (op : EngineOp) :
    (s.step cfg op).1.state = s.state ∨ (s.step cfg op).1.state = offline s.state ∨
      ∃ o now, op = .observe o now ∧ s.stale o = false ∧ (s.step cfg op).1.state = some o := by
  cases ha : s.accepted op with
  | none => exact (step_not_accepted cfg ha).imp_right Or.inl
  | some o =>
    obtain ⟨hstate, hst, -⟩ := step_accepted cfg ha
    unfold accepted at ha
    split at ha
    · next o' now =>
      rw [if_neg] at ha
      · cases ha
        exact Or.inr (Or.inr ⟨o, now, rfl, hst, hstate⟩)
      · intro h
        rw [if_pos h] at ha
        cases ha
    · cases ha

/-! ## Old goals -/

/-- From `s` to `s'` no goal of `s` has changed what it asks for, and none that had
    ended is pending. -/
structure Descends (s s' : Engine) : Prop where
  counter : s.counter ≤ s'.counter
  goal : ∀ id item', id ≤ s.counter → s'.intent id = some item' →
    ∃ item, s.intent id = some item ∧ item'.goal = item.goal ∧
      (item'.stage.terminal = false → item.stage.terminal = false)

theorem Descends.refl (s : Engine) : Descends s s :=
  ⟨le_rfl, fun _ item' _ hi => ⟨item', hi, rfl, id⟩⟩

theorem Descends.trans {s s₁ s₂ : Engine} (h : Descends s s₁) (h' : Descends s₁ s₂) :
    Descends s s₂ where
  counter := h.counter.trans h'.counter
  goal := by
    intro id item₂ hid hi₂
    obtain ⟨item₁, hi₁, hg₁, hp₁⟩ := h'.goal id item₂ (hid.trans h.counter) hi₂
    obtain ⟨item, hi, hg, hp⟩ := h.goal id item₁ hid hi₁
    exact ⟨item, hi, hg₁.trans hg, fun ht => hp (hp₁ ht)⟩

theorem step_descends {s : Engine} (hr : IntentRep s) (hp : Pending s) (op : EngineOp) :
    Descends s (s.step cfg op).1 := by
  obtain ⟨-, hcount, hall⟩ := step_intent cfg hr op
  refine ⟨hcount, fun id item' hid hi => ?_⟩
  rcases hall id item' hi with ⟨hlt, -⟩ | ⟨item, hi₀, hg, -⟩
  · omega
  refine ⟨item, hi₀, hg, fun hlive => ?_⟩
  by_cases hop : ∃ r, op = .request r
  · obtain ⟨r, rfl⟩ := hop
    rcases (request_pending cfg hr hp r).2 id item' hi hlive with ⟨old, hold, -, hlive₀, -⟩ | ⟨-, hnew⟩
    · exact Option.some.inj (hi₀.symm.trans hold) ▸ hlive₀
    · omega
  · obtain ⟨old, hold, -, hlive₀⟩ :=
      (step_ended cfg hr fun r h => hop ⟨r, h⟩).was_pending hr hi hlive
    exact Option.some.inj (hi₀.symm.trans hold) ▸ hlive₀

/-! ## Sequences of calls -/

/-- `s'` results from `s` by calls that satisfy `P`. -/
def Calls (cfg : EngineConfig) (P : EngineOp → Prop) (s s' : Engine) : Prop :=
  ∃ ops, (∀ op ∈ ops, P op) ∧ (engineMachine cfg).runFrom s ops = s'

/-- A call other than `request`. -/
def NoRequest (op : EngineOp) : Prop := ∀ r, op ≠ .request r

/-- A call other than `observe`. -/
def NoObserve (op : EngineOp) : Prop := ∀ o now, op ≠ .observe o now

namespace Calls

variable {P Q : EngineOp → Prop} {s s₁ s₂ : Engine}

theorem refl (s : Engine) : Calls cfg P s s := ⟨[], by simp, rfl⟩

theorem one (op : EngineOp) (h : P op) : Calls cfg P s (s.step cfg op).1 :=
  ⟨[op], by simpa using h, rfl⟩

theorem trans (h : Calls cfg P s s₁) (h' : Calls cfg P s₁ s₂) : Calls cfg P s s₂ := by
  obtain ⟨ops, hops, rfl⟩ := h
  obtain ⟨ops', hops', rfl⟩ := h'
  refine ⟨ops ++ ops', fun op hop => ?_, Machine.runFrom_append _ _ _ _⟩
  rcases List.mem_append.mp hop with hop | hop
  · exact hops op hop
  · exact hops' op hop

theorem mono (hPQ : ∀ op, P op → Q op) (h : Calls cfg P s s₁) : Calls cfg Q s s₁ := by
  obtain ⟨ops, hops, hrun⟩ := h
  exact ⟨ops, fun op hop => hPQ op (hops op hop), hrun⟩

/-- What every allowed call keeps is kept. -/
theorem induct {R : Engine → Prop} (h : Calls cfg P s s₁)
    (hstep : ∀ s op, P op → R s → R (s.step cfg op).1) (h0 : R s) : R s₁ := by
  obtain ⟨ops, hops, rfl⟩ := h
  induction ops generalizing s with
  | nil => exact h0
  | cons op ops ih =>
    exact ih (hstep s op (hops op List.mem_cons_self) h0)
      fun op' h => hops op' (List.mem_cons_of_mem _ h)

/-- Calls keep the representation of the goals, and pending goals the latest ones. -/
theorem rep (h : Calls cfg P s s₁) (hr : IntentRep s) (hp : Pending s) :
    IntentRep s₁ ∧ Pending s₁ := by
  refine h.induct (R := fun s => IntentRep s ∧ Pending s) (fun s op _ ⟨hr, hp⟩ => ?_) ⟨hr, hp⟩
  refine ⟨(step_intent cfg hr op).1, ?_⟩
  by_cases hop : ∃ r, op = .request r
  · obtain ⟨r, rfl⟩ := hop
    exact (request_pending cfg hr hp r).1
  · exact (step_ended cfg hr fun r h => hop ⟨r, h⟩).pending hr hp

/-- No call changes what an old goal asks for, or revives it. -/
theorem descends (h : Calls cfg P s s₁) (hr : IntentRep s) (hp : Pending s) : Descends s s₁ := by
  refine (h.induct (R := fun s' => IntentRep s' ∧ Pending s' ∧ Descends s s')
    (fun s' op _ ⟨hr', hp', hd⟩ => ?_) ⟨hr, hp, .refl s⟩).2.2
  have hone : Calls cfg (fun _ => True) s' (s'.step cfg op).1 := .one op trivial
  obtain ⟨hr'', hp''⟩ := hone.rep hr' hp'
  exact ⟨hr'', hp'', hd.trans (step_descends hr' hp' op)⟩

/-- Without a request there are no new goals. -/
theorem old (h : Calls cfg NoRequest s s₁) (hr : IntentRep s) (hp : Pending s) {id : ℕ}
    {item' : Intent} (hi : s₁.intent id = some item') : ∃ item, s.intent id = some item := by
  refine (h.induct (R := fun s' => (IntentRep s' ∧ Pending s') ∧
    ∀ id item', s'.intent id = some item' → ∃ item, s.intent id = some item)
    (fun s' op hop ⟨⟨hr', hp'⟩, hold⟩ => ⟨?_, ?_⟩) ⟨⟨hr, hp⟩, fun _ item hi => ⟨item, hi⟩⟩).2
    id item' hi
  · exact (Calls.one (P := NoRequest) op hop).rep hr' hp'
  · intro id item' hi
    obtain ⟨item, hi', -⟩ := (step_ended cfg hr' hop).evolves hr' hi
    exact hold id item hi'

/-- Without an observation the current one stays, up to availability. -/
theorem state (h : Calls cfg NoObserve s s₁) : s₁.state = s.state ∨ s₁.state = offline s.state := by
  refine h.induct (R := fun s' => s'.state = s.state ∨ s'.state = offline s.state)
    (fun s' op hop hs => ?_) (Or.inl rfl)
  rcases step_state cfg s' op with h | h | ⟨o, now, rfl, -⟩
  · rwa [h]
  · rw [h]
    rcases hs with hs | hs <;> rw [hs]
    · exact Or.inr rfl
    · exact Or.inr (by cases s.state <;> rfl)
  · exact absurd rfl (hop o now)

end Calls

end Engine

end BalboaRs485
