import BalboaRs485.Command.Budget

/-!
# A goal and its replacements

A pump goal that is replaced while it is pending hands its deadline and the actions
it has spent on to its successor. `Chain` is a goal with its replacements.

* `Budgeted`: while the last goal of a chain is the latest of its control, the
  counter of the control covers every transmission of the chain.
* `Budgeted.succ`: one call keeps it.
* `chain_budget`: a chain has one deadline and one budget.
-/

namespace BalboaRs485

namespace Engine

variable {cfg : EngineConfig} {ops : List EngineOp} {s : Engine}

/-! ## Transmissions -/

/-- Call `n` transmits an action for one of the goals `ids`. -/
def transmitsFor (cfg : EngineConfig) (ops : List EngineOp) (ids : List ℕ) (n : ℕ) : Bool :=
  match ops[n]?, (engineMachine cfg).outAt ops n with
  | some (.sent action _ _), some (.receipt (.ok ())) => action.intent.id ∈ ids
  | _, _ => false

/-- The number of the first `n` calls that transmit an action for one of the goals
    `ids`. -/
def transmissions (cfg : EngineConfig) (ops : List EngineOp) (ids : List ℕ) : ℕ → ℕ
  | 0 => 0
  | n + 1 => transmissions cfg ops ids n + if transmitsFor cfg ops ids n then 1 else 0

theorem transmitsFor_iff {ids : List ℕ} {n : ℕ} :
    transmitsFor cfg ops ids n = true ↔
      ∃ action, Transmits cfg ops n action ∧ action.intent.id ∈ ids := by
  unfold transmitsFor
  constructor
  · intro h
    split at h
    · next action at_ ctsAt hop hout => exact ⟨action, ⟨at_, ctsAt, hop, hout⟩, by simpa using h⟩
    · cases h
  · rintro ⟨action, ⟨at_, ctsAt, hop, hout⟩, hid⟩
    rw [hop, hout]
    simpa using hid

theorem transmissions_mono {ids : List ℕ} {m n : ℕ} (h : m ≤ n) :
    transmissions cfg ops ids m ≤ transmissions cfg ops ids n := by
  induction h with
  | refl => exact le_rfl
  | step _ ih => exact ih.trans (Nat.le_add_right _ _)

/-- A goal is not transmitted before it was created, nor by the call that creates
    it. -/
theorem transmissions_cons {m : ℕ} {item : Intent} (h : Creates cfg ops m item) (ids : List ℕ)
    {n : ℕ} (hn : n ≤ m + 1) :
    transmissions cfg ops (item.id :: ids) n = transmissions cfg ops ids n := by
  induction n with
  | zero => rfl
  | succ n ih =>
    have hsame : transmitsFor cfg ops (item.id :: ids) n = transmitsFor cfg ops ids n := by
      rw [Bool.eq_iff_iff, transmitsFor_iff, transmitsFor_iff]
      constructor
      · rintro ⟨action, ht, hid⟩
        rcases List.mem_cons.mp hid with hid | hid
        · obtain ⟨-, -, ⟨current, hcur, -⟩, -⟩ := ht.spec
          rw [hid] at hcur
          have := (h.goal hcur).1
          omega
        · exact ⟨action, ht, hid⟩
      · rintro ⟨action, ht, hid⟩
        exact ⟨action, ht, List.mem_cons_of_mem _ hid⟩
    simp only [transmissions, hsame, ih (by omega)]

/-- The latest goal of a control after a call: the same one, or a new one. -/
theorem step_latest (cfg : EngineConfig) (hr : IntentRep s) (op : EngineOp) (control : Control) :
    (s.step cfg op).1.latest.get? control = s.latest.get? control ∨
      ∃ id, (s.step cfg op).1.latest.get? control = some id ∧ s.counter < id := by
  by_cases hop : ∃ r, op = .request r
  · obtain ⟨r, rfl⟩ := hop
    have htick := updates_tick hr cfg r.now
    obtain ⟨e, -, h | h⟩ | ⟨item, -, -, hid, -, hlat, -⟩ := request_core cfg s r
    · exact Or.inl (by simp only [step, h])
    · exact Or.inl (by simp only [step, h, htick.latest])
    · have hlat' : (s.step cfg (.request r)).1.latest = s.latest.set r.control item.id := by
        rw [← htick.latest]
        exact hlat
      rw [hlat', Dict.get?_set]
      split
      · exact Or.inr ⟨item.id, rfl, by rw [hid, htick.counter]; exact Nat.lt_succ_self _⟩
      · exact Or.inl rfl
  · exact Or.inl (by rw [(step_moves cfg hr fun r h => hop ⟨r, h⟩).latest])

/-! ## Chains of replacements -/

/-- A goal of `control` and its replacements, the newest first, which call `m`
    creates: each was requested with `replace_pending` while its predecessor was
    pending at the time of the request, that is after the request's `tick`. -/
inductive Chain (cfg : EngineConfig) (ops : List EngineOp) (control : Control) :
    ℕ → List Intent → Prop where
  | first {m : ℕ} {item : Intent} (h : Creates cfg ops m item) (hc : item.control = control) :
      Chain cfg ops control m [item]
  | replaced {m n : ℕ} {item previous x : Intent} {older : List Intent} {r : Request}
      (h : Chain cfg ops control m (previous :: older)) (hop : ops[n]? = some (.request r))
      (hr : r.replacePending = true) (hc : r.control = control) (hnew : Creates cfg ops n item)
      (hx : ((engineAt cfg ops n).tick cfg r.now).intent previous.id = some x)
      (hlive : x.stage.terminal = false) : Chain cfg ops control n (item :: previous :: older)

/-- The goals `ids`, none newer than `last`, have been transmitted no more often than
    their control allows; while `last` is the latest goal, its counter says so. -/
structure Budgeted (cfg : EngineConfig) (ops : List EngineOp) (control : Control) (ids : List ℕ)
    (last n : ℕ) : Prop where
  total : transmissions cfg ops ids n ≤ cfg.maxActions
  current : ((engineAt cfg ops n).latest.get? control = some last ∧
      transmissions cfg ops ids n ≤ ((engineAt cfg ops n).actions.get? control).getD 0) ∨
    ∃ id, (engineAt cfg ops n).latest.get? control = some id ∧ last < id

theorem Budgeted.last_le {control : Control} {ids : List ℕ} {last n : ℕ}
    (h : Budgeted cfg ops control ids last n) : last ≤ (engineAt cfg ops n).counter := by
  have hr := stateAt_rep cfg ops n
  have hle : ∀ id, (engineAt cfg ops n).latest.get? control = some id →
      id ≤ (engineAt cfg ops n).counter := by
    intro id hid
    obtain ⟨item, ha, -⟩ := hr.latest control id hid
    exact hr.active_le id item ha
  rcases h.current with ⟨hl, -⟩ | ⟨id, hl, hlt⟩
  · exact hle last hl
  · exact hlt.le.trans (hle id hl)

/-- While the latest goal of a control stays, its counter does not fall: only a request for
    the control resets it, and that replaces the goal. -/
theorem step_counter_le {s : Engine} (cfg : EngineConfig) (hr : IntentRep s) {op : EngineOp}
    {control : Control} {last : ℕ} (hl : s.latest.get? control = some last)
    (hlast : last ≤ s.counter)
    (hsame : (s.step cfg op).1.latest.get? control = s.latest.get? control) :
    (s.actions.get? control).getD 0 ≤ ((s.step cfg op).1.actions.get? control).getD 0 := by
  obtain ha | ⟨r, item, rfl, hok, ha⟩ | ⟨action, at_, ctsAt, -, -, ha⟩ := step_actions cfg hr op
  · rw [ha]
  · have hne : control ≠ r.control := by
      rintro rfl
      obtain ⟨-, hid, hlat⟩ := request_new hok
      have hnew : (s.step cfg (.request r)).1.latest.get? r.control = some item.id := by
        show (s.request cfg r).2.latest.get? r.control = some item.id
        rw [hlat, Dict.get?_set_self]
      rw [hsame, hl] at hnew
      rw [(updates_tick hr cfg r.now).counter, ← Option.some.inj hnew] at hid
      omega
    rw [ha, Dict.get?_set_of_ne _ _ hne]
  · rw [ha, Dict.get?_set]
    split
    · next heq =>
      rw [← heq]
      exact Nat.le_succ _
    · exact le_rfl

/-- A transmission of the chain is one of its latest goal, and is counted. -/
theorem Budgeted.transmitted {control : Control} {ids : List ℕ} {last n : ℕ} {action : Action}
    (h : Budgeted cfg ops control ids last n) (hids : ∀ id ∈ ids, id ≤ last)
    (hsent : Transmits cfg ops n action) (hid : action.intent.id ∈ ids)
    (hc : action.intent.control = control) : Budgeted cfg ops control ids last (n + 1) := by
  have hr := stateAt_rep cfg ops n
  have ht : transmitsFor cfg ops ids n = true := transmitsFor_iff.mpr ⟨action, hsent, hid⟩
  obtain ⟨-, hlat, -⟩ := hsent.spec
  rw [hc] at hlat
  obtain ⟨hl, hle⟩ : (engineAt cfg ops n).latest.get? control = some last ∧
      transmissions cfg ops ids n ≤ ((engineAt cfg ops n).actions.get? control).getD 0 := by
    refine h.current.resolve_right ?_
    rintro ⟨id, hl, hlt⟩
    obtain rfl := Option.some.inj (hl.symm.trans hlat)
    exact absurd (hids _ hid) (by omega)
  obtain ⟨at_, ctsAt, hop, hout⟩ := hsent
  have hok : ((engineAt cfg ops n).sent cfg action at_ ctsAt).1 = .ok () :=
    (outAt_receipt hop).mp hout
  have hact : (engineAt cfg ops (n + 1)).actions = (engineAt cfg ops n).actions.set control
      (((engineAt cfg ops n).actions.get? control).getD 0 + 1) := by
    rw [engineAt_succ hop, ← hc]
    exact ((notBus_sent cfg hr action at_ ctsAt).2 hok).1
  have hlatest : (engineAt cfg ops (n + 1)).latest = (engineAt cfg ops n).latest := by
    rw [engineAt_succ hop]
    exact (updates_sent hr cfg action at_ ctsAt).latest
  have hcount : transmissions cfg ops ids (n + 1) ≤
      ((engineAt cfg ops (n + 1)).actions.get? control).getD 0 := by
    rw [hact, Dict.get?_set_self]
    simp only [transmissions, ht, if_true, Option.getD_some]
    exact Nat.succ_le_succ hle
  refine ⟨hcount.trans ((stateAt_budgetRep cfg ops (n + 1)).spent control), Or.inl ⟨?_, hcount⟩⟩
  rw [hlatest]
  exact hl

/-- One call keeps the transmissions within the budget. -/
theorem Budgeted.succ {control : Control} {ids : List ℕ} {last n : ℕ}
    (h : Budgeted cfg ops control ids last n) (hids : ∀ id ∈ ids, id ≤ last)
    (hctl : ∀ action, Transmits cfg ops n action → action.intent.id ∈ ids →
      action.intent.control = control) : Budgeted cfg ops control ids last (n + 1) := by
  by_cases ht : transmitsFor cfg ops ids n = true
  · obtain ⟨action, hsent, hid⟩ := transmitsFor_iff.mp ht
    exact h.transmitted hids hsent hid (hctl action hsent hid)
  have hidle : transmissions cfg ops ids (n + 1) = transmissions cfg ops ids n := by
    simp only [transmissions, ht, Bool.false_eq_true, if_false, add_zero]
  refine ⟨by rw [hidle]; exact h.total, ?_⟩
  rw [hidle]
  cases hop : ops[n]? with
  | none =>
    rw [engineAt, (engineMachine cfg).stateAt_succ_none hop]
    exact h.current
  | some op =>
    have hr := stateAt_rep cfg ops n
    have hlast := h.last_le
    rw [engineAt_succ hop]
    rcases step_latest cfg hr op control with hsame | ⟨id, hl, hlt⟩
    · rw [hsame]
      rcases h.current with ⟨hl, hle⟩ | hreset
      · exact Or.inl ⟨hl, hle.trans (step_counter_le cfg hr hl hlast hsame)⟩
      · exact Or.inr hreset
    · exact Or.inr ⟨id, hl, by omega⟩

/-- What a chain shares, and its budget when its last goal is created. -/
structure ChainRep (cfg : EngineConfig) (ops : List EngineOp) (control : Control) (m : ℕ)
    (items : List Intent) (last : Intent) : Prop where
  created : Creates cfg ops m last
  creates : ∀ item ∈ items, ∃ k, Creates cfg ops k item
  controls : ∀ item ∈ items, item.control = control
  le : ∀ item ∈ items, item.id ≤ last.id
  mem : last ∈ items
  deadline : ∀ item ∈ items, item.deadline = last.deadline
  budget : Budgeted cfg ops control (items.map Intent.id) last.id (m + 1)

/-- The transmissions of a chain are of its control. -/
theorem ChainRep.transmits {control : Control} {m : ℕ} {items : List Intent} {last : Intent}
    (h : ChainRep cfg ops control m items last) {n : ℕ} {action : Action}
    (ht : Transmits cfg ops n action) (hid : action.intent.id ∈ items.map Intent.id) :
    action.intent.control = control := by
  obtain ⟨item, hmem, heq⟩ := List.mem_map.mp hid
  obtain ⟨k, hk⟩ := h.creates item hmem
  obtain ⟨-, -, ⟨current, hcur, -, hc⟩, -⟩ := ht.spec
  rw [← heq] at hcur
  rw [← hc, intent_control (hk.goal hcur).2, h.controls item hmem]

theorem ChainRep.budgeted {control : Control} {m : ℕ} {items : List Intent} {last : Intent}
    (h : ChainRep cfg ops control m items last) {n : ℕ} (hn : m + 1 ≤ n) :
    Budgeted cfg ops control (items.map Intent.id) last.id n := by
  have hids : ∀ id ∈ items.map Intent.id, id ≤ last.id := by
    intro id hid
    obtain ⟨item, hmem, rfl⟩ := List.mem_map.mp hid
    exact h.le item hmem
  induction hn with
  | refl => exact h.budget
  | step _ ih => exact ih.succ hids fun action ht hid => h.transmits ht hid

theorem transmissions_nil (n : ℕ) : transmissions cfg ops [] n = 0 := by
  have hidle : ∀ k, transmitsFor cfg ops [] k = false := by
    intro k
    rw [Bool.eq_false_iff, Ne, transmitsFor_iff]
    rintro ⟨action, -, hid⟩
    cases hid
  induction n with
  | zero => rfl
  | succ n ih => simp only [transmissions, ih, hidle, Bool.false_eq_true, if_false, add_zero]

/-- A goal on its own is a chain. -/
theorem chainRep_first {control : Control} {m : ℕ} {item : Intent} (h : Creates cfg ops m item)
    (hc : item.control = control) : ChainRep cfg ops control m [item] item := by
  have hzero : transmissions cfg ops [item.id] (m + 1) = 0 := by
    rw [transmissions_cons h [] le_rfl, transmissions_nil]
  have hmem : ∀ x ∈ [item], x = item := fun x hx => List.mem_singleton.mp hx
  refine ⟨h, fun x hx => ⟨m, by rw [hmem x hx]; exact h⟩, fun x hx => by rw [hmem x hx, hc],
    fun x hx => by rw [hmem x hx], List.mem_singleton_self item,
    fun x hx => by rw [hmem x hx], ?_⟩
  constructor
  · rw [List.map_singleton, hzero]
    exact Nat.zero_le _
  · rw [List.map_singleton, hzero]
    exact Or.inl ⟨by rw [← hc]; exact h.intent.2.2, Nat.zero_le _⟩

/-- **A replacement carries deadline and counter on.** -/
theorem ChainRep.replaced {control : Control} (hpump : control.isPump = true) {m n : ℕ}
    {items : List Intent} {item previous x : Intent} {r : Request}
    (h : ChainRep cfg ops control m items previous)
    (hop : ops[n]? = some (.request r)) (hrep : r.replacePending = true)
    (hc : r.control = control) (hnew : Creates cfg ops n item)
    (hx : ((engineAt cfg ops n).tick cfg r.now).intent previous.id = some x)
    (hlive : x.stage.terminal = false) : ChainRep cfg ops control n (item :: items) item := by
  subst hc
  have hr := stateAt_rep cfg ops n
  have htick := updates_tick hr cfg r.now
  obtain ⟨before, hbefore, hgx, -⟩ := htick.evolves hr hx
  obtain ⟨hmn, hgb⟩ := h.created.goal hbefore
  have hg : x.goal = previous.goal := hgx.trans hgb
  have hxc : x.control = r.control := (intent_control hg).trans (h.controls previous h.mem)
  -- the predecessor is pending, hence the latest goal of the control
  have hlatest : ((engineAt cfg ops n).tick cfg r.now).latest.get? r.control =
      some previous.id := by
    have hp := (htick.mono fun _ _ hq => hq.ends).pending hr (stateAt_pending cfg ops n)
    rw [← hxc]
    exact hp previous.id x hx hlive
  have hlat : ((engineAt cfg ops n).tick cfg r.now).latestIntent r.control = some x := by
    rw [latestIntent, hlatest]
    exact hx
  have hreplacing : ((engineAt cfg ops n).tick cfg r.now).replacing r = true := by
    simp [replacing, hrep, hpump, hlat, hlive]
  obtain ⟨r', hop', hok⟩ := hnew.request
  rw [hop] at hop'
  cases hop'
  obtain ⟨-, -, hdeadline, -, hact⟩ := request_ok hok
  rw [if_pos hreplacing, tick_actions] at hact
  rw [if_pos hreplacing, hlat] at hdeadline
  obtain ⟨-, hid, hlatest'⟩ := hnew.intent
  have hitem : item.control = r.control := (request_new hok).1
  have hbudget := h.budgeted (Nat.succ_le_of_lt hmn)
  have hspent : transmissions cfg ops (items.map Intent.id) n ≤
      ((engineAt cfg ops n).actions.get? r.control).getD 0 := by
    rcases hbudget.current with ⟨-, hle⟩ | ⟨id, hl, hlt⟩
    · exact hle
    · rw [htick.latest, hl] at hlatest
      obtain rfl := Option.some.inj hlatest
      exact absurd hlt (lt_irrefl _)
  have hcount : transmissions cfg ops (item.id :: items.map Intent.id) (n + 1) =
      transmissions cfg ops (items.map Intent.id) n := by
    have hidle : transmitsFor cfg ops (items.map Intent.id) n = false := by
      simp only [transmitsFor, hop]
    rw [transmissions_cons hnew _ le_rfl]
    simp only [transmissions, hidle, Bool.false_eq_true, if_false, add_zero]
  have hlast := hbudget.last_le
  constructor
  · exact hnew
  · intro y hy
    rcases List.mem_cons.mp hy with rfl | hy
    · exact ⟨n, hnew⟩
    · exact h.creates y hy
  · intro y hy
    rcases List.mem_cons.mp hy with rfl | hy
    · exact hitem
    · exact h.controls y hy
  · intro y hy
    rcases List.mem_cons.mp hy with rfl | hy
    · exact le_rfl
    · have := h.le y hy
      omega
  · exact List.mem_cons_self
  · intro y hy
    rcases List.mem_cons.mp hy with rfl | hy
    · rfl
    · rw [h.deadline y hy, hdeadline]
      exact (goal_deadline hg).symm
  · constructor
    · rw [List.map_cons, hcount]
      exact hbudget.total
    · refine Or.inl ⟨by rw [← hitem]; exact hlatest', ?_⟩
      rw [List.map_cons, hcount, engineAt_succ hop]
      show _ ≤ (((engineAt cfg ops n).request cfg r).2.actions.get? r.control).getD 0
      rw [hact]
      exact hspent

theorem Chain.rep {control : Control} (hpump : control.isPump = true) {m : ℕ}
    {items : List Intent} (h : Chain cfg ops control m items) :
    ∃ last older, items = last :: older ∧ ChainRep cfg ops control m items last := by
  induction h with
  | @first m item h hc => exact ⟨item, [], rfl, chainRep_first h hc⟩
  | @replaced m n item previous x older r _ hop hr hc hnew hx hlive ih =>
    obtain ⟨last, older', heq, hrep⟩ := ih
    cases heq
    exact ⟨item, _, rfl, hrep.replaced hpump hop hr hc hnew hx hlive⟩

/-- **The budget of a goal and its replacements.** For a chain of goals of a pump, in
    every run:

    * all of them have the same deadline;
    * the number of transmissions for them is at most `max_actions`;
    * an action is handed out for one of them only if the deadline leaves time for
      its confirmation;
    * none of them is verified by a call at or past the deadline. -/
theorem chain_budget (cfg : EngineConfig) (ops : List EngineOp) {control : Control}
    (hpump : control.isPump = true) {m : ℕ} {items : List Intent}
    (h : Chain cfg ops control m items) :
    (∀ item ∈ items, ∀ item' ∈ items, item'.deadline = item.deadline) ∧
      (∀ n, transmissions cfg ops (items.map Intent.id) n ≤ cfg.maxActions) ∧
      (∀ n now action, ops[n]? = some (.nextAction now) →
        (engineMachine cfg).outAt ops n = some (.action (some action)) →
        action.intent.id ∈ items.map Intent.id → ∀ item ∈ items, ∀ d, item.deadline = some d →
          cfg.confirmationTimeout ≤ d - now) ∧
      ∀ n op now x, ops[n]? = some op → clock op = some now → Verifies cfg ops n x →
        x.id ∈ items.map Intent.id → ∀ item ∈ items, ∀ d, item.deadline = some d → now < d := by
  obtain ⟨last, older, -, hrep⟩ := h.rep hpump
  -- what is stored under a number of the chain has the chain's deadline
  have hshared : ∀ {n x id}, (engineAt cfg ops n).intent id = some x →
      id ∈ items.map Intent.id → ∀ item ∈ items, x.deadline = item.deadline := by
    intro n x id hx hid item hitem
    obtain ⟨y, hy, rfl⟩ := List.mem_map.mp hid
    obtain ⟨k, hk⟩ := hrep.creates y hy
    rw [goal_deadline (hk.goal hx).2, hrep.deadline y hy, hrep.deadline item hitem]
  refine ⟨fun item hi item' hi' => ?_, fun n => ?_,
    fun n now action hop hout hid item hitem d hd => ?_,
    fun n op now x hop hnow hv hid item hitem d hd => ?_⟩
  · rw [hrep.deadline item hi, hrep.deadline item' hi']
  · rcases le_total (m + 1) n with hn | hn
    · exact (hrep.budgeted hn).total
    · exact (transmissions_mono hn).trans hrep.budget.total
  · have hr := stateAt_rep cfg ops n
    obtain ⟨now', hop', hsome⟩ := outAt_action hout
    rw [hop] at hop'
    cases hop'
    obtain ⟨o, spent, -, -, hp, -⟩ := nextAction_intent hr hsome
    have hafter := intent_handed hop hsome
    exact hp.deadline d ((hshared hafter hid item hitem).trans hd)
  · obtain ⟨hi, hst, hnot⟩ := hv
    have hdx : x.deadline = some d := (hshared hi hid item hitem).trans hd
    rw [engineAt_succ hop] at hi
    exact step_verified_in_time cfg (stateAt_rep cfg ops n) (stateAt_pending cfg ops n) hnow hi
      hst hnot hdx

/-- A pump goal and its replacement. -/
def replacedGoals : Intent × Intent :=
  ({ id := 1, control := .pump1, desired := .pump .low, requestedAt := 0, deadline := some 100 },
    { id := 2, control := .pump1, desired := .pump .high, requestedAt := 1, deadline := some 100,
      notBefore := 1 })

/-- The pump is asked for low speed, then for high speed with a later deadline. -/
def replacedRun : List EngineOp :=
  [.observe (sampleState (sampleStatus 98 0 true) 1 1 0) 0,
   .request { control := .pump1, desired := .pump .low, now := 0, deadline := some 100 },
   .request
    { control := .pump1, desired := .pump .high, now := 1, deadline := some 200,
      replacePending := true },
   .nextAction 1]

theorem chain_budget_sample :
    replacedGoals.2.deadline = replacedGoals.1.deadline ∧
      transmissions .default replacedRun [2, 1] 4 ≤ 6 ∧ (4 : ℚ) ≤ 100 - 1 := by
  have hchain : Chain .default replacedRun .pump1 2 [replacedGoals.2, replacedGoals.1] := by
    have hfirst : Chain .default replacedRun .pump1 1 [replacedGoals.1] :=
      .first (by unfold Creates; decide +kernel) rfl
    exact .replaced (x := replacedGoals.1) hfirst rfl rfl rfl (by unfold Creates; decide +kernel)
      (by decide +kernel) rfl
  obtain ⟨hdeadline, hcount, hhanded, -⟩ := chain_budget .default replacedRun rfl hchain
  refine ⟨hdeadline _ (by simp) _ (by simp), hcount 4, ?_⟩
  exact hhanded 3 1
    { intent := replacedGoals.2
      epoch := 1
      sequence := 1
      startingValue := .pump .off
      expected := .pump .low
      frame := ⟨10, 191, 17, [4, 0], by simp⟩
      preparedAt := 1 } rfl (by decide +kernel) (by decide) replacedGoals.2 (by simp) 100 rfl

end Engine

end BalboaRs485
