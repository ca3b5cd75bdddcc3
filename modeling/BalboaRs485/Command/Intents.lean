import BalboaRs485.Command.Core

/-!
# The goals and their representation

The engine stores a goal in up to two places: `_active` holds the latest goal of
each control, `_intents` the last hundred of them. `IntentRep` is the
representation invariant; under it `_update` is a plain assignment
(`intent_update`).

Apart from `request`, the engine changes its goals by `_update` only. `Updates W`
relates two engines by such changes, `W` being a condition on each of them, and
`Updates.evolves` reads off what became of one goal. Each method has one lemma
that gives its `W`:

* `Quiet`: nothing becomes `VERIFIED` and a goal that has ended stays as it is.
* `Retires`, `Adds`: a request retires the goal of its control and adds a new one,
  `request_retires`.
* `request_intents`: the same without naming the engine in between.
-/

namespace BalboaRs485

/-- A goal without what `_update` changes. -/
def Intent.goal (item : Intent) : Intent := { item with stage := .queued, reason := none }

namespace Engine

/-! ## Representation -/

/-- The representation invariant of the goals. -/
structure IntentRep (s : Engine) : Prop where
  own : ∀ id item, s.active.get? id = some item → item.id = id
  agree : ∀ item ∈ s.intents.items, ∀ item', s.active.get? item.id = some item' → item = item'
  ids : (s.intents.items.map Intent.id).Nodup
  active_le : ∀ id item, s.active.get? id = some item → id ≤ s.counter
  items_le : ∀ item ∈ s.intents.items, item.id ≤ s.counter
  latest : ∀ control id, s.latest.get? control = some id →
    ∃ item, s.active.get? id = some item ∧ item.control = control
  active : ∀ id item, s.active.get? id = some item → s.latest.get? item.control = some id

theorem intentRep_init : IntentRep {} where
  own _ _ h := by cases h
  agree _ h := by cases h
  ids := List.nodup_nil
  active_le _ _ h := by cases h
  items_le _ h := by cases h
  latest _ _ h := by cases h
  active _ _ h := by cases h

/-- The attributes the goals live in are unchanged. -/
structure SameGoals (s s' : Engine) : Prop where
  active : s'.active = s.active
  intents : s'.intents = s.intents
  latest : s'.latest = s.latest
  counter : s'.counter = s.counter

theorem SameGoals.refl (s : Engine) : SameGoals s s := ⟨rfl, rfl, rfl, rfl⟩

theorem SameGoals.intent {s s' : Engine} (h : SameGoals s s') (id : ℕ) :
    s'.intent id = s.intent id := by
  simp only [Engine.intent, h.active, h.intents]

theorem SameGoals.rep {s s' : Engine} (h : SameGoals s s') (hr : IntentRep s) : IntentRep s' where
  own := h.active ▸ hr.own
  agree := by rw [h.active, h.intents]; exact hr.agree
  ids := h.intents ▸ hr.ids
  active_le := by rw [h.active, h.counter]; exact hr.active_le
  items_le := by rw [h.intents, h.counter]; exact hr.items_le
  latest := by rw [h.active, h.latest]; exact hr.latest
  active := by rw [h.active, h.latest]; exact hr.active

theorem sameGoals_record (s : Engine) (item : Intent) (kind : EventKind) :
    SameGoals s (s.record item kind) := by
  unfold record
  exact ⟨rfl, rfl, rfl, rfl⟩

/-! ## Look-ups -/

theorem intent_of_active {s : Engine} {id : ℕ} {item : Intent} (h : s.active.get? id = some item) :
    s.intent id = some item := by
  simp [intent, h]

theorem intent_of_mem {s : Engine} (hr : IntentRep s) {item : Intent}
    (h : item ∈ s.intents.items) : s.intent item.id = some item := by
  unfold intent
  cases ha : s.active.get? item.id with
  | none => simpa using Deque.find?_eq_some_of_nodup hr.ids h
  | some item' => simpa using (hr.agree item h item' ha).symm

/-- A goal is found in one of the two places, under its own number. -/
theorem intent_some {s : Engine} (hr : IntentRep s) {id : ℕ} {item : Intent}
    (h : s.intent id = some item) :
    item.id = id ∧ (s.active.get? id = some item ∨ item ∈ s.intents.items) := by
  unfold intent at h
  cases ha : s.active.get? id with
  | some item' =>
    simp only [ha, Option.some_or, Option.some.injEq] at h
    subst h
    exact ⟨hr.own id _ ha, Or.inl rfl⟩
  | none =>
    simp only [ha, Option.none_or] at h
    exact ⟨by simpa using List.find?_some h, Or.inr (List.mem_of_find?_eq_some h)⟩

theorem intent_le {s : Engine} (hr : IntentRep s) {id : ℕ} {item : Intent}
    (h : s.intent id = some item) : id ≤ s.counter := by
  obtain ⟨rfl, ha | hm⟩ := intent_some hr h
  · exact hr.active_le _ _ ha
  · exact hr.items_le _ hm

/-- The latest goal of a control is one of its goals. -/
theorem intent_of_latest {s : Engine} (hr : IntentRep s) {control : Control} {id : ℕ}
    (h : s.latest.get? control = some id) :
    ∃ item, s.intent id = some item ∧ item.control = control ∧ item.id = id := by
  obtain ⟨item, ha, hc⟩ := hr.latest control id h
  exact ⟨item, intent_of_active ha, hc, hr.own id item ha⟩

/-! ## `_update` -/

theorem get?_store_active (s : Engine) (id : ℕ) (item : Intent) (id' : ℕ) :
    (s.store id item).active.get? id' =
      if id' = id then (s.active.get? id).map fun _ => item else s.active.get? id' := by
  simp only [store]
  by_cases hc : s.active.contains id
  · obtain ⟨v, hv⟩ := (Dict.contains_iff _).mp hc
    rw [if_pos hc, Dict.get?_set, hv]
    rfl
  · rw [if_neg hc]
    split
    · next h =>
      subst h
      have : s.active.get? id' = none := by simpa [Dict.contains] using hc
      simp [this]
    · rfl

theorem intent_store {s : Engine} {id : ℕ} (item : Intent) (hid : item.id = id) (id' : ℕ) :
    (s.store id item).intent id' =
      if id' = id then (s.intent id).map fun _ => item else s.intent id' := by
  unfold intent
  rw [get?_store_active]
  have hitems : (s.store id item).intents.items =
      Deque.replaceFirst (fun x : Intent => x.id = id) item s.intents.items := rfl
  rw [hitems]
  by_cases h : id' = id
  · subst h
    simp only [if_true]
    rw [Deque.find?_replaceFirst_self (by simpa using hid)]
    cases s.active.get? id' <;> simp
  · simp only [if_neg h]
    rw [Deque.find?_replaceFirst_of_disjoint]
    · simpa [hid] using fun hc : id = id' => h hc.symm
    · intro x hx
      simp only [decide_eq_true_eq] at hx
      simpa [hx] using fun hc : id = id' => h hc.symm

/-- Storing a goal under its own number keeps the representation. -/
theorem IntentRep.store {s : Engine} (hr : IntentRep s) {id : ℕ} (previous : Intent)
    {item : Intent}
    (hprev : s.intent id = some previous) (hid : item.id = id)
    (hcontrol : item.control = previous.control) : IntentRep (s.store id item) := by
  have hitems : (s.store id item).intents.items =
      Deque.replaceFirst (fun x : Intent => x.id = id) item s.intents.items := rfl
  have hids : (Deque.replaceFirst (fun x : Intent => x.id = id) item s.intents.items).map Intent.id =
      s.intents.items.map Intent.id :=
    Deque.map_replaceFirst (fun x hx => by
      simp only [decide_eq_true_eq] at hx; rw [hid, hx]) _
  have hactive : ∀ id' item', (s.store id item).active.get? id' = some item' →
      (id' = id ∧ item' = item ∧ s.active.get? id = some previous) ∨
        (id' ≠ id ∧ s.active.get? id' = some item') := by
    intro id' item' h
    rw [get?_store_active] at h
    split at h
    · next heq =>
      obtain ⟨old, hold, rfl⟩ := Option.map_eq_some_iff.mp h
      refine Or.inl ⟨heq, rfl, ?_⟩
      rw [hold, ← Option.some.inj ((intent_of_active hold).symm.trans hprev)]
    · next hne => exact Or.inr ⟨hne, h⟩
  constructor
  · intro id' item' h
    rcases hactive id' item' h with ⟨rfl, rfl, -⟩ | ⟨-, h⟩
    · exact hid
    · exact hr.own id' item' h
  · intro x hx item' h
    rw [hitems] at hx
    rcases hactive x.id item' h with ⟨heq, rfl, -⟩ | ⟨hne, h⟩
    · -- the one item with this number is the stored one
      have hfind := Deque.find?_eq_some_of_nodup (hids ▸ hr.ids) hx
      rw [heq, Deque.find?_replaceFirst_self (by simpa using hid)] at hfind
      obtain ⟨-, -, heq'⟩ := Option.map_eq_some_iff.mp hfind
      exact heq'.symm
    · rcases Deque.mem_of_mem_replaceFirst hx with hx | rfl
      · exact hr.agree x hx item' h
      · exact absurd hid hne
  · rw [hitems, hids]; exact hr.ids
  · intro id' item' h
    rcases hactive id' item' h with ⟨rfl, -, h⟩ | ⟨-, h⟩
    · exact hr.active_le _ _ h
    · exact hr.active_le _ _ h
  · intro x hx
    rw [hitems] at hx
    rcases Deque.mem_of_mem_replaceFirst hx with hx | rfl
    · exact hr.items_le x hx
    · rw [hid]; exact intent_le hr hprev
  · intro control id' h
    obtain ⟨old, hold, hc⟩ := hr.latest control id' h
    rw [get?_store_active]
    split
    · next heq =>
      subst heq
      refine ⟨item, by simp [hold], ?_⟩
      rw [hcontrol, ← Option.some.inj ((intent_of_active hold).symm.trans hprev), hc]
    · exact ⟨old, hold, hc⟩
  · intro id' item' h
    show s.latest.get? item'.control = some id'
    rcases hactive id' item' h with ⟨rfl, rfl, hold⟩ | ⟨-, hold⟩
    · rw [hcontrol]; exact hr.active _ _ hold
    · exact hr.active _ _ hold

/-- **`_update` is an assignment** to the stage and the reason of one goal. -/
theorem intent_update {s : Engine} (hr : IntentRep s) (id : ℕ) (stage : Stage)
    (reason : Option Reason) (id' : ℕ) :
    (s.update id stage reason).intent id' =
      if id' = id then (s.intent id).map fun item => { item with stage, reason }
      else s.intent id' := by
  unfold update
  split
  · next hnone => split <;> simp_all
  · next previous hprev =>
    split
    · next hsame =>
      split
      · next heq => rw [heq, hprev, ← hsame.1, ← hsame.2]; rfl
      · rfl
    · dsimp only
      rw [intent_store { previous with stage, reason } (intent_some hr hprev).1]
      have hrec := sameGoals_record s { previous with stage, reason } .transition
      rw [hrec.intent, hrec.intent, hprev]
      rfl

theorem IntentRep.update {s : Engine} (hr : IntentRep s) (id : ℕ) (stage : Stage)
    (reason : Option Reason) : IntentRep (s.update id stage reason) := by
  unfold Engine.update
  split
  · exact hr
  · next previous hprev =>
    split
    · exact hr
    · dsimp only
      have hrec := sameGoals_record s { previous with stage, reason } .transition
      exact (hrec.rep hr).store previous (by rw [hrec.intent, hprev])
        (intent_some hr hprev).1 rfl

theorem latest_update (s : Engine) (id : ℕ) (stage : Stage) (reason : Option Reason) :
    (s.update id stage reason).latest = s.latest := (sameCore_update s id stage reason).latest

/-! ## Sequences of updates -/

/-- From `s` to `s'` the goals change by `_update` only, and `W` holds of every
    goal and the stage it is moved to. -/
inductive Updates (W : Intent → Stage → Prop) : Engine → Engine → Prop where
  | same {s s' : Engine} (h : SameGoals s s') : Updates W s s'
  | update {s : Engine} {id : ℕ} {stage : Stage} {reason : Option Reason}
      (h : ∀ item, s.intent id = some item → W item stage) :
      Updates W s (s.update id stage reason)
  | trans {s₁ s₂ s₃ : Engine} (h : Updates W s₁ s₂) (h' : Updates W s₂ s₃) : Updates W s₁ s₃

namespace Updates

variable {W W' : Intent → Stage → Prop} {s s' : Engine}

theorem refl (s : Engine) : Updates W s s := .same (.refl s)

theorem mono (hW : ∀ item stage, W item stage → W' item stage) (h : Updates W s s') :
    Updates W' s s' := by
  induction h with
  | same h => exact .same h
  | update h => exact .update fun item hi => hW item _ (h item hi)
  | trans _ _ ih ih' => exact .trans ih ih'

theorem rep (h : Updates W s s') (hr : IntentRep s) : IntentRep s' := by
  induction h with
  | same h => exact h.rep hr
  | update h => exact hr.update _ _ _
  | trans _ _ ih ih' => exact ih' (ih hr)

theorem latest (h : Updates W s s') : s'.latest = s.latest := by
  induction h with
  | same h => exact h.latest
  | update h => exact latest_update _ _ _ _
  | trans _ _ ih ih' => exact ih'.trans ih

theorem counter (h : Updates W s s') : s'.counter = s.counter := by
  induction h with
  | same h => exact h.counter
  | update h => exact (sameCore_update _ _ _ _).counter
  | trans _ _ ih ih' => exact ih'.trans ih

/-- **What became of one goal**: it is as it was, or an update that `W` allows
    gave it its stage. -/
theorem evolves (h : Updates W s s') (hr : IntentRep s) {id : ℕ} {item' : Intent}
    (hi : s'.intent id = some item') :
    ∃ item, s.intent id = some item ∧ item'.goal = item.goal ∧
      (item' = item ∨ ∃ before, before.goal = item.goal ∧ W before item'.stage) := by
  induction h generalizing item' with
  | same h => exact ⟨item', by rw [← h.intent, hi], rfl, Or.inl rfl⟩
  | @update s id₀ stage reason h =>
    rw [intent_update hr] at hi
    split at hi
    · next heq =>
      subst heq
      obtain ⟨item, hitem, rfl⟩ := Option.map_eq_some_iff.mp hi
      exact ⟨item, hitem, rfl, Or.inr ⟨item, rfl, h item hitem⟩⟩
    · exact ⟨item', hi, rfl, Or.inl rfl⟩
  | trans h h' ih ih' =>
    obtain ⟨mid, hmid, hgoal', hcase'⟩ := ih' (h.rep hr) hi
    obtain ⟨item, hitem, hgoal, hcase⟩ := ih hr hmid
    refine ⟨item, hitem, hgoal'.trans hgoal, ?_⟩
    rcases hcase' with rfl | ⟨before, hb, hw⟩
    · exact hcase
    · exact Or.inr ⟨before, hb.trans hgoal, hw⟩

/-- A goal that is there stays there. -/
theorem exists_of_intent (h : Updates W s s') (hr : IntentRep s) {id : ℕ} {item : Intent}
    (hi : s.intent id = some item) : ∃ item', s'.intent id = some item' ∧ item'.goal = item.goal := by
  induction h generalizing item with
  | same h => exact ⟨item, by rw [h.intent, hi], rfl⟩
  | @update s id₀ stage reason h =>
    rw [intent_update hr]
    split
    · next heq => exact ⟨{ item with stage, reason }, by rw [← heq, hi]; rfl, rfl⟩
    · exact ⟨item, hi, rfl⟩
  | trans h h' ih ih' =>
    obtain ⟨mid, hmid, hgoal⟩ := ih hr hi
    obtain ⟨last, hlast, hgoal'⟩ := ih' (h.rep hr) hmid
    exact ⟨last, hlast, hgoal'.trans hgoal⟩

/-- A loop whose body only updates goals only updates goals. -/
theorem foldl {α : Type*} (f : Engine → α → Engine) (hf : ∀ s a, Updates W s (f s a))
    (l : List α) (s : Engine) : Updates W s (l.foldl f s) := by
  induction l generalizing s with
  | nil => exact .refl s
  | cons a l ih => exact (hf s a).trans (ih (f s a))

end Updates

/-! ## Updates that verify nothing -/

/-- Nothing becomes `VERIFIED`, and a goal that has ended stays as it is. -/
def Quiet (item : Intent) (stage : Stage) : Prop :=
  stage ≠ .verified ∧ (item.stage.terminal = true → item.stage = .superseded ∧ stage = .superseded)

theorem quiet_of_live {item : Intent} {stage : Stage} (h : item.stage.terminal = false)
    (hs : stage ≠ .verified) : Quiet item stage :=
  ⟨hs, fun ht => by rw [h] at ht; cases ht⟩

theorem sameGoals_now (s : Engine) (now : ℚ) : SameGoals s { s with now } := ⟨rfl, rfl, rfl, rfl⟩

/-- The loop of `tick` sees each active goal once, as it is stored. -/
theorem updates_expire_loop {W : Intent → Stage → Prop} (now : ℚ)
    (hW : ∀ item, overdue now item = true → W item .failed) (l : List Intent) (s : Engine)
    (hr : IntentRep s) (hl : (l.map Intent.id).Nodup)
    (hs : ∀ item ∈ l, s.intent item.id = some item) :
    Updates W s (l.foldl (fun s item =>
      if overdue now item then s.update item.id .failed (some .deadlineExpired) else s) s) := by
  induction l generalizing s with
  | nil => exact .refl s
  | cons item l ih =>
    simp only [List.map_cons, List.nodup_cons] at hl
    rw [List.foldl_cons]
    have hitem := hs item List.mem_cons_self
    split
    · next hover =>
      have hstep : Updates W s (s.update item.id .failed (some .deadlineExpired)) := by
        refine .update fun x hx => ?_
        obtain rfl := Option.some.inj (hitem.symm.trans hx)
        exact hW item hover
      refine hstep.trans (ih _ (hr.update _ _ _) hl.2 fun x hx => ?_)
      rw [intent_update hr, if_neg]
      · exact hs x (List.mem_cons_of_mem _ hx)
      · exact fun heq => hl.1 (heq ▸ List.mem_map_of_mem hx)
    · exact ih s hr hl.2 fun x hx => hs x (List.mem_cons_of_mem _ hx)

theorem overdue_iff {now : ℚ} {item : Intent} :
    overdue now item = true ↔
      item.stage.terminal = false ∧ ∃ d, item.deadline = some d ∧ d ≤ now := by
  simp [overdue, Option.any_eq_true]

/-- The active goals have distinct numbers, and each is the one found under its
    number. -/
theorem active_values {s : Engine} (hr : IntentRep s) :
    (s.active.values.map Intent.id).Nodup ∧
      ∀ item ∈ s.active.values, s.intent item.id = some item := by
  constructor
  · have hkeys : s.active.values.map Intent.id = s.active.keys := by
      simp only [Dict.values, Dict.keys, List.map_map]
      exact List.map_congr_left fun e he => hr.own e.1 e.2 ((Dict.mem_entries _).mp he)
    rw [hkeys]
    exact s.active.nodup
  · intro item hi
    obtain ⟨id, hid⟩ := (Dict.mem_values _).mp hi
    rw [hr.own id item hid]
    exact intent_of_active hid

/-- `tick` ends overdue goals, and nothing else of its loop. -/
theorem updates_overdue {s : Engine} (hr : IntentRep s) (now : ℚ) :
    Updates (fun item _ => overdue now item = true) s (s.expireDeadlines now) :=
  updates_expire_loop now (fun _ h => h) _ s hr (active_values hr).1 (active_values hr).2

theorem updates_expireDeadlines {s : Engine} (hr : IntentRep s) (now : ℚ) :
    Updates Quiet s (s.expireDeadlines now) :=
  updates_expire_loop now
    (fun _ h => quiet_of_live (overdue_iff.mp h).1 (by decide)) _ s hr (active_values hr).1
    (active_values hr).2

theorem updates_closeAmbiguous (s : Engine) (pending : Transaction) {result : Stage}
    (reason : Reason) (now : ℚ) : Updates Quiet s (s.closeAmbiguous pending result reason now) := by
  unfold closeAmbiguous
  dsimp only
  set closed : Engine := { s with
    history := s.history.setLast
      { pending with result, completedAt := some now, reason := some reason }
    resyncEpoch := some pending.action.epoch
    settling := none
    inflight := none } with hclosed
  have hsame : Updates Quiet s closed := .same ⟨rfl, rfl, rfl, rfl⟩
  split
  · exact hsame
  · next current hcur =>
    split
    · exact hsame
    · next hlive =>
      have hl : ∀ stage, stage ≠ .verified → ∀ item,
          closed.intent pending.action.intent.id = some item → Quiet item stage := by
        intro stage hs item hi
        obtain rfl := Option.some.inj (hcur.symm.trans hi)
        exact quiet_of_live (by simpa using hlive) hs
      split
      · exact hsame.trans (.update (hl .failed (by decide)))
      · exact hsame.trans (.update (hl .queued (by decide)))

theorem updates_tick {s : Engine} (hr : IntentRep s) (cfg : EngineConfig) (now : ℚ) :
    Updates Quiet s (s.tick cfg now) := by
  have hexp : Updates Quiet s (({ s with now }).expireDeadlines now) :=
    (Updates.same (sameGoals_now s now)).trans
      (updates_expireDeadlines ((sameGoals_now s now).rep hr) now)
  unfold tick
  dsimp only
  split
  · exact hexp
  · split
    · exact hexp.trans (updates_closeAmbiguous _ _ _ _)
    · exact hexp

theorem updates_suspend (s : Engine) (now : ℚ) : Updates Quiet s (s.suspend now) := by
  unfold suspend
  dsimp only
  have hsame : Updates Quiet s { s with now := now, state := offline s.state } :=
    .same ⟨rfl, rfl, rfl, rfl⟩
  split
  · exact hsame
  · exact hsame.trans (updates_closeAmbiguous _ _ _ _)

theorem updates_joined (s : Engine) (id : ℕ) (now : ℚ) : Updates Quiet s (s.joined id now) := by
  unfold joined
  split
  · exact .refl s
  · split
    · exact .refl s
    · exact (Updates.same (sameGoals_now s now)).trans (.same (sameGoals_record _ _ _))

theorem updates_cancel (s : Engine) (control : Control) (now : Option ℚ) :
    Updates Quiet s (s.cancel control now) := by
  unfold cancel
  dsimp only
  have hsame : ∀ t, Updates Quiet s { s with now := t } := fun t => .same ⟨rfl, rfl, rfl, rfl⟩
  split
  · exact hsame _
  · split
    · next hany =>
      refine (hsame _).trans (.update fun item hi => ?_)
      rw [hi] at hany
      exact quiet_of_live (by simpa using hany) (by decide)
    · exact hsame _

theorem updates_supersede (s : Engine) (id : ℕ) : Updates Quiet s (s.supersede id) := by
  unfold supersede
  split
  · exact .refl s
  · next existing hex =>
    split
    · exact .refl s
    · next hne =>
      refine .update fun item hi => ⟨by decide, fun ht => ⟨?_, rfl⟩⟩
      obtain rfl := Option.some.inj (hex.symm.trans hi)
      cases hst : existing.stage <;> simp [hst, Stage.terminal] at hne ht ⊢

theorem updates_arrive {s : Engine} (hr : IntentRep s) (cfg : EngineConfig) (o : SpaState)
    (now : ℚ) : Updates Quiet s (s.arrive cfg o now) := by
  have hset : ∀ e : Engine, Updates Quiet e { e with state := some o } := fun e =>
    .same ⟨rfl, rfl, rfl, rfl⟩
  unfold arrive
  dsimp only
  split
  · have hs := updates_suspend s now
    exact (hs.trans (updates_tick (hs.rep hr) cfg now)).trans (hset _)
  · have hs : Updates Quiet s { s with now } := .same (sameGoals_now s now)
    exact (hs.trans (updates_tick (hs.rep hr) cfg now)).trans (hset _)

theorem settled_goals {cfg : EngineConfig} {s s₁ : Engine} {o : SpaState} {b : Bool}
    (h : SettleCase cfg s o b s₁) : SameGoals s s₁ := by
  cases h <;> exact ⟨rfl, rfl, rfl, rfl⟩

theorem updates_settle {W : Intent → Stage → Prop} (cfg : EngineConfig) (s : Engine)
    (o : SpaState) : Updates W s (s.settle cfg o).2 :=
  .same (settled_goals (settle_case cfg s o))

/-- A receipt moves a goal that waits for the bus. -/
theorem updates_sent {s : Engine} (hr : IntentRep s) (cfg : EngineConfig) (action : Action)
    (at_ : ℚ) (ctsAt : Option ℚ) : Updates Quiet s (s.sent cfg action at_ ctsAt).2 := by
  unfold sent
  dsimp only
  have hnow : Updates Quiet s { s with now := at_ } := .same (sameGoals_now s at_)
  split
  · exact hnow
  · split
    · exact hnow
    · next hv =>
      simp only [Decidable.not_not] at hv
      set sending : Engine := { s with
        now := at_
        inflight := some { action, ctsAt, sentAt := at_ }
        actions := s.actions.set action.intent.control
          ((s.actions.get? action.intent.control).getD 0 + 1)
        history := s.history.append { action, ctsAt, sentAt := at_ } } with hsending
      have hsame : SameGoals s sending := ⟨rfl, rfl, rfl, rfl⟩
      have hr₁ := hsame.rep hr
      have hwait : ∀ item, sending.intent action.intent.id = some item →
          item.stage = .waitingForBus := by
        intro item hi
        rw [hsame.intent] at hi
        simp only [receiptValid, Bool.decide_and, Bool.and_eq_true, decide_eq_true_eq] at hv
        obtain ⟨-, -, hany, -⟩ := hv
        rw [show ({ s with now := at_ } : Engine).intent action.intent.id = some item from hi] at hany
        simpa using hany
      have h₁ : Updates Quiet sending (sending.update action.intent.id .sent none) :=
        .update fun item hi => quiet_of_live (by rw [hwait item hi]; rfl) (by decide)
      have h₂ : Updates Quiet (sending.update action.intent.id .sent none)
          ((sending.update action.intent.id .sent none).update action.intent.id
            .waitingForState none) := by
        refine .update fun item hi => ?_
        rw [intent_update hr₁, if_pos rfl] at hi
        obtain ⟨_, -, rfl⟩ := Option.map_eq_some_iff.mp hi
        exact quiet_of_live rfl (by decide)
      exact (((Updates.same hsame).trans h₁).trans h₂).trans
        (updates_tick (h₂.rep (h₁.rep hr₁)) cfg at_)

/-! ## Updates that verify -/

/-- What the confirmation part of `observe` does to the goals: it ends the goal of
    the transaction in flight as its record says. -/
theorem updates_confirm {W : Intent → Stage → Prop} (cfg : EngineConfig) (s : Engine)
    (o : SpaState) (now : ℚ)
    (hW : ∀ pending item, s.inflight = some pending → completes cfg pending o = true →
      s.intent pending.action.intent.id = some item → item.stage.terminal = false →
      (pumpOffRetainedLow pending o = true ∨ pending.action.intent.control = .ackReminder) →
      item.id = pending.action.intent.id → W item (completion pending o now).result)
    (hr : IntentRep s) : Updates W s (s.confirm cfg o now) := by
  unfold confirm
  split
  · exact .refl s
  · next pending hp =>
    split
    · exact .refl s
    · next hc =>
      dsimp only
      have hsame : SameGoals s { s with
          history := s.history.setLast (completion pending o now), inflight := none } :=
        ⟨rfl, rfl, rfl, rfl⟩
      split
      · next hkind =>
        split
        · exact .same hsame
        · next current hcur =>
          split
          · exact .same hsame
          · next hlive =>
            refine (Updates.same hsame).trans (.update fun item hi => ?_)
            rw [hsame.intent] at hi hcur
            have hid := (intent_some hr hcur).1
            rw [hid] at hi
            obtain rfl := Option.some.inj (hcur.symm.trans hi)
            exact hW pending current hp (by simpa using hc) hcur (by simpa using hlive) hkind hid
      · exact .same hsame

/-- The final loop of `observe` verifies goals that the observation shows. -/
theorem updates_verifyLatest {W : Intent → Stage → Prop} (s : Engine) (o : SpaState)
    (hW : ∀ control id item, (control, id) ∈ s.latest.entries → item.id = id →
      item.control = control → item.stage.terminal = false → s.inflight = none →
      o.safeFor control = true → Value.shows (o.value control) item.desired = true →
      W item .verified)
    (hr : IntentRep s) : Updates W s (s.verifyLatest o) := by
  -- the loop leaves `_latest`, the transaction in flight and the representation alone
  have hloop : ∀ (l : List (Control × ℕ)) (e : Engine), (∀ x ∈ l, x ∈ s.latest.entries) →
      e.latest = s.latest → e.inflight = s.inflight → IntentRep e →
      Updates W e (l.foldl (verifyOne o) e) := by
    intro l
    induction l with
    | nil => exact fun e _ _ _ _ => .refl e
    | cons entry l ih =>
      intro e hl hlat hflight hre
      rw [List.foldl_cons]
      have hcore := sameCore_verifyOne o e entry
      have hone : Updates W e (verifyOne o e entry) := by
        unfold verifyOne
        split
        · exact .refl e
        · next item hitem =>
          split
          · next hok =>
            refine .update fun item' hi => ?_
            obtain rfl := Option.some.inj (hitem.symm.trans hi)
            have hmem := hl entry List.mem_cons_self
            obtain ⟨item', hi', hc, hid⟩ := intent_of_latest hre
              (by rw [hlat]; exact (Dict.mem_entries _).mp hmem)
            obtain rfl := Option.some.inj (hitem.symm.trans hi')
            exact hW entry.1 entry.2 item hmem hid hc (by simpa using hok.1) (hflight ▸ hok.2.2.2)
              hok.2.1 hok.2.2.1
          · exact .refl e
      exact hone.trans (ih _ (fun x hx => hl x (List.mem_cons_of_mem _ hx))
        (hcore.latest.trans hlat) (hcore.inflight.trans hflight) (hone.rep hre))
  exact hloop _ s (fun _ h => h) rfl rfl hr

/-- The loop of `next_action` verifies goals that the observation shows, closes
    goals, and moves one to `WAITING_FOR_BUS`. -/
theorem updates_nextActionLoop {W : Intent → Stage → Prop} (cfg : EngineConfig) (o : SpaState)
    (now : ℚ)
    (hW : ∀ item stage, item.stage.terminal = false →
      (stage = .verified → o.safeFor item.control = true ∧
        Value.shows (o.value item.control) item.desired = true) → W item stage)
    (l : List (Control × ℕ)) (s : Engine) (hl : ∀ x ∈ l, x ∈ s.latest.entries)
    (hr : IntentRep s) : Updates W s (nextActionLoop cfg o now l s).2 := by
  induction l generalizing s with
  | nil => exact .refl s
  | cons entry l ih =>
    obtain ⟨control, id⟩ := entry
    have hrest : ∀ x ∈ l, x ∈ s.latest.entries := fun x hx => hl x (List.mem_cons_of_mem _ hx)
    unfold nextActionLoop
    split
    · exact ih s hrest hr
    · next item hitem =>
      split
      · exact ih s hrest hr
      · next hlive =>
        have hlive : item.stage.terminal = false := by simpa using hlive
        have hcontrol : item.control = control := by
          obtain ⟨item', hi', hc, -⟩ := intent_of_latest hr
            ((Dict.mem_entries _).mp (hl (control, id) List.mem_cons_self))
          obtain rfl := Option.some.inj (hitem.symm.trans hi')
          exact hc
        split
        · exact ih s hrest hr
        · next stage reason hp =>
          have hstep : Updates W s (s.update id stage reason) := by
            refine .update fun item' hi => ?_
            obtain rfl := Option.some.inj (hitem.symm.trans hi)
            refine hW item stage hlive fun hv => ?_
            unfold propose at hp
            repeat' split at hp
            all_goals cases hp
            all_goals cases hv
            simp_all
          exact hstep.trans (ih _ (by rwa [latest_update]) (hr.update _ _ _))
        · refine .update fun item' hi => ?_
          obtain rfl := Option.some.inj (hitem.symm.trans hi)
          exact hW item .waitingForBus hlive (by simp)

/-- An action is handed out for the latest goal of its control, which now waits for
    the bus. -/
theorem nextAction_intent {cfg : EngineConfig} {s : Engine} (hr : IntentRep s) {now : ℚ}
    {action : Action} (h : (s.nextAction cfg now).1 = some action) :
    ∃ o spent, s.state = some o ∧ o.available = true ∧
      Proposed cfg o spent now action.intent action.intent.control action ∧
      s.latest.get? action.intent.control = some action.intent.id ∧
      (s.nextAction cfg now).2.intent action.intent.id =
        some { action.intent with stage := .waitingForBus, reason := none } := by
  obtain ⟨hres, hfree, o, ho, hav, hfresh, hloop⟩ := nextAction_some h
  have htick := updates_tick hr cfg now
  have hrt := htick.rep hr
  have hout : (s.nextAction cfg now).2 =
      (nextActionLoop cfg o now (s.tick cfg now).latest.entries (s.tick cfg now)).2 := by
    unfold nextAction
    simp only [hres, hfree, ho, hav, hfresh, and_self, if_true]
  obtain ⟨l₁, l₂, control, id, item, spent, hl, hitem, -, hp, hfinal⟩ := nextActionLoop_some hloop
  have hmem : ∀ x ∈ l₁ ++ (control, id) :: l₂, x ∈ (s.tick cfg now).latest.entries := by
    rw [← hl]; exact fun _ h => h
  have hpass : Updates (fun _ _ => True) (s.tick cfg now)
      (nextActionLoop cfg o now l₁ (s.tick cfg now)).2 :=
    updates_nextActionLoop cfg o now (fun _ _ _ _ => trivial) l₁ _
      (fun x hx => hmem x (List.mem_append_left _ hx)) hrt
  have hlatest : (s.tick cfg now).latest.get? control = some id :=
    (Dict.mem_entries _).mp (hmem _ (List.mem_append_right _ List.mem_cons_self))
  obtain ⟨item', hi', hc, hid⟩ := intent_of_latest (hpass.rep hrt) (hpass.latest ▸ hlatest)
  obtain rfl := Option.some.inj (hitem.symm.trans hi')
  have hint := hp.intent
  subst hint hc hid
  refine ⟨o, spent, (tick_core cfg s now).1 ▸ ho, hav, hp, htick.latest ▸ hlatest, ?_⟩
  rw [hout, hfinal, intent_update (hpass.rep hrt), if_pos rfl, hitem]
  rfl

/-! ## `request` -/

/-- A superseded goal has ended. -/
theorem supersede_ends {s : Engine} (hr : IntentRep s) {id : ℕ} {item : Intent}
    (h : (s.supersede id).intent id = some item) : item.stage.terminal = true := by
  unfold supersede at h
  split at h
  · next hnone => rw [hnone] at h; cases h
  · next existing hex =>
    split at h
    · next hst =>
      obtain rfl := Option.some.inj (hex.symm.trans h)
      rcases hst with hst | hst | hst <;> rw [hst] <;> rfl
    · rw [intent_update hr, if_pos rfl, hex] at h
      cases h
      rfl

/-- The engine an accepted request has when the previous goal of its control leaves
    `_active` (line 289): ticked, and that goal superseded. -/
def superseding (cfg : EngineConfig) (s : Engine) (r : Request) : Engine :=
  match (s.tick cfg r.now).latest.get? r.control with
  | none => s.tick cfg r.now
  | some previous => (s.tick cfg r.now).supersede previous

theorem updates_superseding (cfg : EngineConfig) (s : Engine) (r : Request) :
    Updates Quiet (s.tick cfg r.now) (s.superseding cfg r) := by
  unfold superseding
  split
  · exact .refl _
  · exact updates_supersede _ _

theorem superseding_quiet (cfg : EngineConfig) {s : Engine} (hr : IntentRep s) (r : Request) :
    Updates Quiet s (s.superseding cfg r) :=
  (updates_tick hr cfg r.now).trans (updates_superseding cfg s r)

/-- The goal of the control that a request supersedes has ended. -/
theorem superseding_ends (cfg : EngineConfig) {s : Engine} (hr : IntentRep s) (r : Request)
    {previous : ℕ} (hprevious : s.latest.get? r.control = some previous) {item : Intent}
    (hi : (s.superseding cfg r).intent previous = some item) : item.stage.terminal = true := by
  have htick := updates_tick hr cfg r.now
  unfold superseding at hi
  rw [htick.latest, hprevious] at hi
  exact supersede_ends (htick.rep hr) hi

/-- `s'` is `s` without the active goal of the control. -/
structure Retires (control : Control) (s s' : Engine) : Prop where
  counter : s'.counter = s.counter
  intents : s'.intents = s.intents
  latest : s'.latest = s.latest
  active : ∀ id item, s'.active.get? id = some item ↔
    s.active.get? id = some item ∧ item.control ≠ control

/-- `retire` drops exactly the goal of the control, since `_latest` names its only active one. -/
theorem retire_retires (cfg : EngineConfig) {s : Engine} (hr : IntentRep s) (r : Request) :
    Retires r.control (s.superseding cfg r) ((s.tick cfg r.now).retire r.control) := by
  have hs₁ := updates_superseding cfg s r
  have hr₁ := hs₁.rep ((updates_tick hr cfg r.now).rep hr)
  have hlatest := hs₁.latest
  unfold retire
  unfold superseding at hr₁ hlatest ⊢
  cases hprev : (s.tick cfg r.now).latest.get? r.control with
  | none =>
    refine ⟨rfl, rfl, rfl, fun id item => ⟨fun ha => ⟨ha, fun hc => ?_⟩, And.left⟩⟩
    rw [hprev] at hr₁
    have hnamed := hr₁.active id item ha
    rw [hc, hprev] at hnamed
    cases hnamed
  | some previous =>
    rw [hprev] at hr₁ hlatest
    refine ⟨rfl, rfl, rfl, fun id item => ?_⟩
    simp only [Dict.get?_pop]
    constructor
    · intro ha
      split at ha
      · cases ha
      · next hne =>
        refine ⟨ha, fun hc => hne ?_⟩
        have hnamed := hr₁.active id item ha
        rw [hc, hlatest, hprev] at hnamed
        exact (Option.some.inj hnamed).symm
    · rintro ⟨ha, hc⟩
      rw [if_neg]
      · exact ha
      · rintro rfl
        obtain ⟨old, hold, hcold⟩ := hr₁.latest r.control id (by rw [hlatest, hprev])
        obtain rfl := Option.some.inj (hold.symm.trans ha)
        exact hc hcold

/-- `added` is `s'` with the new goal `item` of the control. -/
structure Adds (control : Control) (item : Intent) (s' added : Engine) : Prop where
  own : item.control = control
  counter : added.counter = s'.counter + 1
  intents : added.intents = s'.intents.append item
  latest : added.latest = s'.latest.set control item.id
  active : added.active = s'.active.set item.id item

section Adding

variable {control : Control} {item : Intent} {s s' added : Engine}

/-- The active goals behind a request: the new one, and those of the other controls. -/
theorem Adds.get? (h : Adds control item s' added) (hret : Retires control s s') {id : ℕ}
    {item' : Intent} (ha : added.active.get? id = some item') :
    (id = item.id ∧ item' = item) ∨
      (id ≠ item.id ∧ s.active.get? id = some item' ∧ item'.control ≠ control) := by
  rw [h.active, Dict.get?_set] at ha
  split at ha
  · next heq =>
    cases ha
    exact Or.inl ⟨heq, rfl⟩
  · next hne => exact Or.inr ⟨hne, (hret.active id item').mp ha⟩

theorem Adds.mem (h : Adds control item s' added) (hret : Retires control s s') {x : Intent}
    (hx : x ∈ added.intents.items) : x ∈ s.intents.items ∨ x = item := by
  rw [h.intents, hret.intents] at hx
  exact Deque.mem_of_mem_append hx

/-- A new goal under the next number keeps the representation. -/
theorem Adds.rep (h : Adds control item s' added) (hret : Retires control s s')
    (hid : item.id = s.counter + 1) (hr : IntentRep s) : IntentRep added := by
  have hcount : added.counter = s.counter + 1 := by rw [h.counter, hret.counter]
  have hnew : ∀ x ∈ s.intents.items, x.id ≠ item.id := by
    intro x hx heq
    have := hr.items_le x hx
    omega
  constructor
  · intro id item' ha
    rcases h.get? hret ha with ⟨rfl, rfl⟩ | ⟨-, ha, -⟩
    · rfl
    · exact hr.own id item' ha
  · intro x hx item' ha
    rcases h.get? hret ha with ⟨heq, rfl⟩ | ⟨hne, ha, -⟩
    · rcases h.mem hret hx with hx | rfl
      · exact absurd heq (hnew x hx)
      · rfl
    · rcases h.mem hret hx with hx | rfl
      · exact hr.agree x hx item' ha
      · exact absurd rfl hne
  · rw [h.intents, hret.intents]
    exact Deque.nodup_append hr.ids hnew
  · intro id item' ha
    rw [hcount]
    rcases h.get? hret ha with ⟨rfl, -⟩ | ⟨-, ha, -⟩
    · exact hid.le
    · have := hr.active_le id item' ha
      omega
  · intro x hx
    rw [hcount]
    rcases h.mem hret hx with hx | rfl
    · have := hr.items_le x hx
      omega
    · exact hid.le
  · intro c id hl
    rw [h.latest, Dict.get?_set] at hl
    rw [h.active, Dict.get?_set]
    split at hl
    · next hc =>
      cases hl
      exact ⟨item, by rw [if_pos rfl], h.own.trans hc.symm⟩
    · next hc =>
      rw [hret.latest] at hl
      obtain ⟨old, hold, hcold⟩ := hr.latest c id hl
      have hne : id ≠ item.id := by
        have := hr.active_le id old hold
        omega
      refine ⟨old, ?_, hcold⟩
      rw [if_neg hne]
      exact (hret.active id old).mpr ⟨hold, by rwa [hcold]⟩
  · intro id item' ha
    rw [h.latest, Dict.get?_set]
    rcases h.get? hret ha with ⟨rfl, rfl⟩ | ⟨-, ha, hc⟩
    · rw [if_pos h.own]
    · rw [if_neg hc, hret.latest]
      exact hr.active id item' ha

/-- The other goals are the ones from before. -/
theorem Adds.old (h : Adds control item s' added) (hret : Retires control s s')
    (hid : item.id = s.counter + 1) (hr : IntentRep s) {id : ℕ} {item' : Intent}
    (hi : added.intent id = some item') (hne : id ≠ item.id) : s.intent id = some item' := by
  obtain ⟨hid', ha | hm⟩ := intent_some (h.rep hret hid hr) hi
  · rcases h.get? hret ha with ⟨heq, -⟩ | ⟨-, ha, -⟩
    · exact absurd heq hne
    · exact intent_of_active ha
  · rcases h.mem hret hm with hm | rfl
    · rw [← hid']
      exact intent_of_mem hr hm
    · exact absurd hid'.symm hne

end Adding

/-- A request is refused, or retires the goal of its control and adds a new one
    under the next number. -/
theorem request_retires (cfg : EngineConfig) {s : Engine} (r : Request) (hr : IntentRep s) :
    (∃ e s', (s.request cfg r).1 = .error e ∧ (s.request cfg r).2 = s' ∧ Updates Quiet s s') ∨
      ∃ item, (s.request cfg r).1 = .ok item ∧ item.id = s.counter + 1 ∧
        item.control = r.control ∧ item.desired = r.desired ∧ item.stage = .queued ∧
        item.reason = none ∧
        (s.request cfg r).2.intent item.id = some item ∧
        IntentRep (s.request cfg r).2 ∧ (s.request cfg r).2.counter = s.counter + 1 ∧
        (∀ id item', (s.request cfg r).2.intent id = some item' → id ≠ item.id →
          (s.superseding cfg r).intent id = some item') ∧
        ∀ previous item', s.latest.get? r.control = some previous →
          (s.superseding cfg r).intent previous = some item' → item'.stage.terminal = true := by
  have htick := updates_tick hr cfg r.now
  have hs₁ := superseding_quiet cfg hr r
  have hr₁ := hs₁.rep hr
  have hret := retire_retires cfg hr r
  unfold request
  split
  · exact Or.inl ⟨_, s, rfl, rfl, .refl s⟩
  dsimp only
  split
  · exact Or.inl ⟨_, _, rfl, rfl, htick⟩
  next state hadmitted =>
  right
  generalize (s.tick cfg r.now).retire r.control = s' at hret
  set deadline := (if (s.tick cfg r.now).replacing r then
    ((s.tick cfg r.now).latestIntent r.control).bind Intent.deadline else r.deadline)
  set item := s'.newIntent r state deadline
  set added : Engine := { s' with
    counter := s'.counter + 1
    intents := s'.intents.append item
    latest := s'.latest.set r.control item.id
    active := s'.active.set item.id item
    actions := if (s.tick cfg r.now).replacing r then s'.actions else s'.actions.set r.control 0 }
  have hadds : Adds r.control item s' added := ⟨rfl, rfl, rfl, rfl, rfl⟩
  have hid₁ : item.id = (s.superseding cfg r).counter + 1 := by
    rw [← hret.counter]
    rfl
  have hrep : IntentRep added := hadds.rep hret hid₁ hr₁
  have hrec := sameGoals_record added item .requested
  refine ⟨item, rfl, hid₁.trans (by rw [hs₁.counter]), rfl, rfl, rfl, rfl, ?_, hrec.rep hrep, ?_, ?_,
    fun previous item' hprevious hi => superseding_ends cfg hr r hprevious hi⟩
  · rw [hrec.intent]
    exact intent_of_active (by rw [hadds.active, Dict.get?_set_self])
  · rw [hrec.counter, hadds.counter, hret.counter, hs₁.counter]
  · intro id item' hi hne
    rw [hrec.intent] at hi
    exact hadds.old hret hid₁ hr₁ hi hne

/-- A request retires the goal of its control and adds a new one under the next
    number; the other goals are the ones a `tick` and the retirement left. -/
theorem request_intents (cfg : EngineConfig) {s : Engine} (r : Request) (hr : IntentRep s) :
    (∃ e s', (s.request cfg r).1 = .error e ∧ (s.request cfg r).2 = s' ∧ Updates Quiet s s') ∨
      ∃ item s₁, (s.request cfg r).1 = .ok item ∧ Updates Quiet s s₁ ∧ item.id = s.counter + 1 ∧
        item.control = r.control ∧ item.desired = r.desired ∧ item.stage = .queued ∧
        item.reason = none ∧
        (s.request cfg r).2.intent item.id = some item ∧
        IntentRep (s.request cfg r).2 ∧ (s.request cfg r).2.counter = s.counter + 1 ∧
        (∀ id item', (s.request cfg r).2.intent id = some item' → id ≠ item.id →
          s₁.intent id = some item') ∧
        ∀ previous item', s.latest.get? r.control = some previous →
          s₁.intent previous = some item' → item'.stage.terminal = true := by
  obtain herr | ⟨item, hok, hrest⟩ := request_retires cfg r hr
  · exact Or.inl herr
  · exact Or.inr ⟨item, s.superseding cfg r, hok, superseding_quiet cfg hr r, hrest⟩

end Engine

end BalboaRs485
