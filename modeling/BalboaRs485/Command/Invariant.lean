import BalboaRs485.Command.Pending

/-!
# The representation invariant of the engine

The engine keeps a goal in up to two containers and a transaction in up to two
places. `IntentRep` and `Pending` relate the first two; this module adds what
holds of goals that are no longer stored, and of the history.

* `HistoryCase`: what a call does to the history, `step_history` for every call.
* `FlightRep`: the transaction in flight is the last record and the only open one.
* `lastVersion`: a goal as it was stored last, kept after it was evicted.
* `represented`: all of it, in every state of every run.
-/

namespace BalboaRs485

namespace Engine

variable {cfg : EngineConfig} {ops : List EngineOp}

/-! ## The history -/

/-- `record` is the record of `pending`, closed. -/
structure Closed (pending record : Transaction) : Prop where
  action : record.action = pending.action
  ctsAt : record.ctsAt = pending.ctsAt
  sentAt : record.sentAt = pending.sentAt
  completed : record.completedAt ≠ none

/-- Nothing is put in flight: the history is as it was, or the last record is
    closed as the one of the transaction in flight. -/
inductive Lands (s s' : Engine) : Prop where
  | kept (hi : s'.inflight = s.inflight) (hh : s'.history = s.history)
  | closed (pending record : Transaction) (hi : s.inflight = some pending)
      (hi' : s'.inflight = none) (hc : Closed pending record)
      (hh : s'.history = s.history.setLast record)

theorem SameCore.lands {s s' : Engine} (h : SameCore s s') : Lands s s' :=
  .kept h.inflight h.history

theorem Lands.trans {s₁ s₂ s₃ : Engine} (h : Lands s₁ s₂) (h' : Lands s₂ s₃) : Lands s₁ s₃ := by
  cases h with
  | kept hi hh =>
    cases h' with
    | kept hi' hh' => exact .kept (hi'.trans hi) (hh'.trans hh)
    | closed pending record hi' hn hc hh' =>
      exact .closed pending record (hi.symm.trans hi') hn hc (hh ▸ hh')
  | closed pending record hi hn hc hh =>
    cases h' with
    | kept hi' hh' => exact .closed pending record hi (hi'.trans hn) hc (hh'.trans hh)
    | closed _ _ hi' => rw [hn] at hi'; cases hi'

theorem lands_closeAmbiguous {s : Engine} {pending : Transaction} (result : Stage)
    (reason : Reason) (now : ℚ) (h : s.inflight = some pending) :
    Lands s (s.closeAmbiguous pending result reason now) := by
  set record : Transaction :=
    { pending with result, completedAt := some now, reason := some reason } with hrecord
  have hc : Closed pending record := ⟨rfl, rfl, rfl, by simp [hrecord]⟩
  have hclosed : Lands s { s with
      history := s.history.setLast record
      resyncEpoch := some pending.action.epoch
      settling := none
      inflight := none } := .closed pending record h rfl hc rfl
  unfold closeAmbiguous
  dsimp only
  split
  · exact hclosed
  · split
    · exact hclosed
    · split
      · exact hclosed.trans (sameCore_update _ _ _ _).lands
      · exact hclosed.trans (sameCore_update _ _ _ _).lands

theorem lands_tick (cfg : EngineConfig) (s : Engine) (now : ℚ) : Lands s (s.tick cfg now) := by
  have hexp : Lands s (({ s with now }).expireDeadlines now) :=
    ((sameCore_now s now).trans (sameCore_expireDeadlines _ _)).lands
  unfold tick
  dsimp only
  split
  · exact hexp
  · next pending hp =>
    split
    · exact hexp.trans (lands_closeAmbiguous .failed .confirmationTimeout now hp)
    · exact hexp

theorem lands_suspend (s : Engine) (now : ℚ) : Lands s (s.suspend now) := by
  have hoff : Lands s { s with now := now, state := offline s.state } := .kept rfl rfl
  unfold suspend
  dsimp only
  split
  · exact hoff
  · next pending hp =>
    exact hoff.trans (lands_closeAmbiguous .cancelled .connectionLost now hp)

theorem lands_arrive (cfg : EngineConfig) (s : Engine) (o : SpaState) (now : ℚ) :
    Lands s (s.arrive cfg o now) := by
  have hset : ∀ e : Engine, Lands e { e with state := some o } := fun e => .kept rfl rfl
  unfold arrive
  dsimp only
  split
  · exact ((lands_suspend s now).trans (lands_tick cfg _ now)).trans (hset _)
  · exact ((sameCore_now s now).lands.trans (lands_tick cfg _ now)).trans (hset _)

theorem lands_confirm (cfg : EngineConfig) (s : Engine) (o : SpaState) (now : ℚ) :
    Lands s (s.confirm cfg o now) := by
  obtain h | ⟨pending, hp, -, hfree, hhist, -⟩ := confirm_core cfg s o now
  · exact h.lands
  · exact .closed pending (completion pending o now) hp hfree
      ⟨rfl, rfl, rfl, by simp [completion]⟩ hhist

theorem lands_observe (cfg : EngineConfig) (s : Engine) (o : SpaState) (now : ℚ) :
    Lands s (s.observe cfg o now) := by
  unfold observe
  split
  · exact (sameCore_now s now).lands
  · have hsettle : ∀ {b : Bool} {s₁ : Engine},
        (s.arrive cfg o now).settle cfg o = (b, s₁) → Lands s s₁ := by
      intro b s₁ heq
      have hcase := settle_case cfg (s.arrive cfg o now) o
      rw [heq] at hcase
      obtain ⟨-, -, hi, hh, -⟩ := settled_core hcase
      exact (lands_arrive cfg s o now).trans (.kept hi hh)
    split
    · next heq => exact hsettle heq
    · next s₁ heq =>
      exact ((hsettle heq).trans (lands_confirm cfg s₁ o now)).trans
        (sameCore_verifyLatest _ o).lands

/-- **What a call does to the history.** -/
inductive HistoryCase (s s' : Engine) : Prop where
  /-- At most the open record is closed. -/
  | landed (h : Lands s s')
  /-- A transaction is put in flight and an open record of it appended. -/
  | sent (transaction : Transaction) (hi : s.inflight = none)
      (hi' : s'.inflight = some transaction) (ho : transaction.completedAt = none)
      (hh : s'.history = s.history.append transaction)

theorem step_history (cfg : EngineConfig) (s : Engine) (op : EngineOp) :
    HistoryCase s (s.step cfg op).1 := by
  cases op with
  | request r =>
    obtain ⟨e, -, h | h⟩ | ⟨item, -, -, -, -, -, hi, hh, -⟩ := request_core cfg s r
    · exact .landed (by simp only [step, h]; exact .kept rfl rfl)
    · exact .landed (by simp only [step, h]; exact lands_tick cfg s r.now)
    · exact .landed ((lands_tick cfg s r.now).trans (.kept hi hh))
  | cancel control now => exact .landed (sameCore_cancel s control now).lands
  | joined id now => exact .landed (sameCore_joined s id now).lands
  | observe o now => exact .landed (lands_observe cfg s o now)
  | nextAction now =>
    exact .landed ((lands_tick cfg s now).trans (nextAction_core cfg s now).lands)
  | sent action at_ ctsAt =>
    obtain ⟨e, -, h⟩ | ⟨-, hi, -, -, -, hi', hh, -⟩ := sent_core cfg s action at_ ctsAt
    · exact .landed h.lands
    · exact .sent { action, ctsAt, sentAt := at_ } hi hi' rfl hh
  | tick now => exact .landed (lands_tick cfg s now)
  | suspend now => exact .landed (lands_suspend s now)

/-- The transaction in flight is the last record of the history, and the only one
    that is not completed. -/
structure FlightRep (s : Engine) : Prop where
  flying : ∀ pending, s.inflight = some pending →
    s.history.items.getLast? = some pending ∧ pending.completedAt = none
  old : ∀ record ∈ s.history.items.dropLast, record.completedAt ≠ none
  landed : s.inflight = none → ∀ record ∈ s.history.items, record.completedAt ≠ none

theorem flightRep_init : FlightRep {} where
  flying _ h := by cases h
  old _ h := by cases h
  landed _ _ h := by cases h

theorem Lands.flightRep {s s' : Engine} (h : Lands s s') (hf : FlightRep s) : FlightRep s' := by
  cases h with
  | kept hi hh =>
    constructor
    · rw [hi, hh]; exact hf.flying
    · rw [hh]; exact hf.old
    · rw [hi, hh]; exact hf.landed
  | closed pending record hi hi' hc hh =>
    obtain ⟨hlast, -⟩ := hf.flying pending hi
    have hne : s.history.items ≠ [] := by
      intro hnil
      rw [hnil] at hlast
      cases hlast
    have hitems : s'.history.items = s.history.items.dropLast ++ [record] := by
      rw [hh, Deque.items_setLast hne]
    constructor
    · intro q hq
      rw [hi'] at hq
      cases hq
    · rw [hitems, List.dropLast_concat]
      exact hf.old
    · intro _ r hr
      rw [hitems] at hr
      rcases List.mem_append.mp hr with hr | hr
      · exact hf.old r hr
      · rw [List.mem_singleton.mp hr]
        exact hc.completed

theorem step_flightRep (cfg : EngineConfig) {s : Engine} (hf : FlightRep s) (op : EngineOp) :
    FlightRep (s.step cfg op).1 := by
  cases step_history cfg s op with
  | landed h => exact h.flightRep hf
  | sent transaction hi hi' ho hh =>
    constructor
    · intro pending hp
      rw [hi'] at hp
      cases hp
      exact ⟨by rw [hh, Deque.getLast?_append], ho⟩
    · intro record hr
      rw [hh] at hr
      exact hf.landed hi record (Deque.mem_of_mem_dropLast_append hr)
    · intro hn
      rw [hi'] at hn
      cases hn

theorem stateAt_flightRep (cfg : EngineConfig) (ops : List EngineOp) (n : ℕ) :
    FlightRep (engineAt cfg ops n) :=
  (engineMachine cfg).stateAt_invariant (P := FlightRep) flightRep_init
    (fun _ op hf => step_flightRep cfg hf op) ops n

/-! ## Goals that are no longer stored -/

theorem stateAt_pending (cfg : EngineConfig) (ops : List EngineOp) (n : ℕ) :
    Pending (engineAt cfg ops n) := by
  refine ((engineMachine cfg).stateAt_invariant (P := fun s => IntentRep s ∧ Pending s)
    ⟨intentRep_init, pending_init⟩ (fun s op ⟨hr, hp⟩ => ?_) ops n).2
  have hone : Calls cfg (fun _ => True) s (s.step cfg op).1 := .one op trivial
  exact hone.rep hr hp

theorem goal_deadline {item item' : Intent} (h : item'.goal = item.goal) :
    item'.deadline = item.deadline := by
  unfold Intent.goal at h
  injection h

/-- The goal with number `id` has ended, as far as it is stored. -/
def Ended (s : Engine) (id : ℕ) : Prop :=
  ∀ item, s.intent id = some item → item.stage.terminal = true

theorem ends_of_live {item : Intent} {stage : Stage} (h : item.stage.terminal = false) :
    Ends item stage := by
  intro ht
  rw [h] at ht
  cases ht

theorem Ended.updates {s s' : Engine} {id : ℕ} (h : Ended s id) (hr : IntentRep s)
    (hu : Updates Ends s s') : Ended s' id := by
  intro item' hi'
  obtain ⟨item, hi, -⟩ := hu.evolves hr hi'
  exact hu.ended hr hi hi' (h item hi)

/-- A goal that has ended keeps its stage. -/
def Keeps (item : Intent) (stage : Stage) : Prop :=
  item.stage.terminal = true → stage = item.stage

theorem keeps_of_live {item : Intent} {stage : Stage} (h : item.stage.terminal = false) :
    Keeps item stage := by
  intro ht
  rw [h] at ht
  cases ht

theorem Quiet.keeps {item : Intent} {stage : Stage} (h : Quiet item stage) : Keeps item stage := by
  intro ht
  rw [(h.2 ht).1, (h.2 ht).2]

theorem Moves.keeps {s s' : Engine} {item : Intent} {stage : Stage} (h : Moves s s' item stage) :
    Keeps item stage := by
  intro ht
  rw [(h.1 ht).1, (h.1 ht).2]

theorem Updates.stage_kept {s s' : Engine} (h : Updates Keeps s s') (hr : IntentRep s) {id : ℕ}
    {item item' : Intent} (hi : s.intent id = some item) (hi' : s'.intent id = some item')
    (ht : item.stage.terminal = true) : item'.stage = item.stage := by
  induction h generalizing item item' with
  | same h =>
    rw [h.intent, hi] at hi'
    rw [Option.some.inj hi']
  | @update s id₀ stage reason h =>
    rw [intent_update hr] at hi'
    split at hi'
    · next heq =>
      subst heq
      rw [hi] at hi'
      cases hi'
      exact h item hi ht
    · rw [hi] at hi'
      rw [Option.some.inj hi']
  | trans h h' ih ih' =>
    obtain ⟨mid, hmid, -⟩ := h'.evolves (h.rep hr) hi'
    have hstage := ih hr hi hmid ht
    exact (ih' (h.rep hr) hmid hi' (by rw [hstage]; exact ht)).trans hstage

/-- The previous goal of the control has ended. -/
theorem superseding_ended (cfg : EngineConfig) {s : Engine} (hr : IntentRep s) (hp : Pending s)
    (r : Request) {id : ℕ} {item : Intent} (hi : (s.superseding cfg r).intent id = some item)
    (hc : item.control = r.control) : item.stage.terminal = true := by
  have hu := superseding_quiet cfg hr r
  by_contra hlive
  have hlive : item.stage.terminal = false := by simpa using hlive
  have hlat := (hu.mono fun _ _ hq => hq.ends).pending hr hp id item hi hlive
  rw [hc, hu.latest] at hlat
  rw [superseding_ends cfg hr r hlat hi] at hlive
  cases hlive

/-- A request that is refused drops no goal. -/
theorem request_error_intent {s : Engine} (hr : IntentRep s) {r : Request} {e : RequestError}
    (h : (s.request cfg r).1 = .error e) {id : ℕ} {item : Intent} (hi : s.intent id = some item) :
    ∃ item', (s.request cfg r).2.intent id = some item' := by
  obtain ⟨_, -, heq | heq⟩ | ⟨_, hok, -⟩ := request_core cfg s r
  · exact ⟨item, by rw [heq, hi]⟩
  · obtain ⟨item', hi', -⟩ := (updates_tick hr cfg r.now).exists_of_intent hr hi
    exact ⟨item', by rw [heq, hi']⟩
  · rw [h] at hok
    cases hok

/-- The goals that call `n` may drop, as they were stored last. -/
def leaving (cfg : EngineConfig) (ops : List EngineOp) (n id : ℕ) : Option Intent :=
  match ops[n]? with
  | some (.request r) => ((engineAt cfg ops n).superseding cfg r).intent id
  | _ => none

/-- The goal with number `id` as it was stored last in the first `n` calls; unlike
    `intent` it also finds goals that neither container holds any more. -/
def lastVersion (cfg : EngineConfig) (ops : List EngineOp) (id : ℕ) : ℕ → Option Intent
  | 0 => none
  | n + 1 =>
    ((engineAt cfg ops (n + 1)).intent id).or
      ((leaving cfg ops n id).or (lastVersion cfg ops id n))

/-- Call `m` is the request that creates the goal `item`. -/
def Creates (cfg : EngineConfig) (ops : List EngineOp) (m : ℕ) (item : Intent) : Prop :=
  (engineMachine cfg).outAt ops m = some (.requested (.ok item))

/-- One of the first `n` calls is the request that created goal `id`. -/
def Created (cfg : EngineConfig) (ops : List EngineOp) (n id : ℕ) : Prop :=
  ∃ m, m < n ∧ ∃ item, Creates cfg ops m item ∧ item.id = id

theorem Creates.request {m : ℕ} {item : Intent} (h : Creates cfg ops m item) :
    ∃ r, ops[m]? = some (.request r) ∧ ((engineAt cfg ops m).request cfg r).1 = .ok item := by
  exact outAt_requested h

/-- A new goal is stored as it was returned, under the next number. -/
theorem Creates.intent {m : ℕ} {item : Intent} (h : Creates cfg ops m item) :
    (engineAt cfg ops (m + 1)).intent item.id = some item ∧
      item.id = (engineAt cfg ops m).counter + 1 ∧
      (engineAt cfg ops (m + 1)).latest.get? item.control = some item.id := by
  obtain ⟨r, hop, hok⟩ := h.request
  rw [engineAt_succ hop]
  obtain ⟨e, _, he, -⟩ | ⟨new, _, hnew, -, hid, hc, -, hst, -, hi, -⟩ :=
    request_intents cfg r (stateAt_rep cfg ops m)
  · rw [hok] at he
    cases he
  · rw [hok] at hnew
    cases hnew
    refine ⟨hi, hid, ?_⟩
    have hone : Calls cfg (fun _ => True) (engineAt cfg ops m)
        ((engineAt cfg ops m).step cfg (.request r)).1 := .one _ trivial
    have hp := (hone.rep (stateAt_rep cfg ops m) (stateAt_pending cfg ops m)).2
    exact hp item.id item hi (by rw [hst]; rfl)

theorem counter_mono (cfg : EngineConfig) (ops : List EngineOp) {m n : ℕ} (h : m ≤ n) :
    (engineAt cfg ops m).counter ≤ (engineAt cfg ops n).counter :=
  ((engineMachine cfg).stateAt_invariant_from
    (P := fun s => IntentRep s ∧ (engineAt cfg ops m).counter ≤ s.counter)
    ⟨stateAt_rep cfg ops m, le_rfl⟩
    (fun _ op ⟨hr, hle⟩ =>
      ⟨(step_intent cfg hr op).1, hle.trans (step_intent cfg hr op).2.1⟩) n h).2

/-- What is stored under the number of a goal is that goal, from its request on. -/
theorem Creates.goal {m n : ℕ} {item x : Intent} (h : Creates cfg ops m item)
    (hx : (engineAt cfg ops n).intent item.id = some x) : m < n ∧ x.goal = item.goal := by
  obtain ⟨hi, hid, -⟩ := h.intent
  have hmn : m < n := by
    by_contra hle
    have h₁ := counter_mono cfg ops (not_lt.mp hle)
    have h₂ := intent_le (stateAt_rep cfg ops n) hx
    omega
  exact ⟨hmn, goal_mono hi hmn hx⟩

theorem lastVersion_of_intent {n id : ℕ} {item : Intent}
    (h : (engineAt cfg ops n).intent id = some item) : lastVersion cfg ops id n = some item := by
  cases n with
  | zero => cases h
  | succ n => simp only [lastVersion, h, Option.some_or]

/-- The three sources of the last version after one more call. -/
theorem lastVersion_succ {n id : ℕ} {item : Intent}
    (h : lastVersion cfg ops id (n + 1) = some item) :
    (engineAt cfg ops (n + 1)).intent id = some item ∨
      ((engineAt cfg ops (n + 1)).intent id = none ∧ leaving cfg ops n id = some item) ∨
      ((engineAt cfg ops (n + 1)).intent id = none ∧ leaving cfg ops n id = none ∧
        lastVersion cfg ops id n = some item) := by
  simp only [lastVersion] at h
  cases hi : (engineAt cfg ops (n + 1)).intent id with
  | some item' =>
    rw [hi, Option.some_or] at h
    exact Or.inl h
  | none =>
    rw [hi, Option.none_or] at h
    cases hl : leaving cfg ops n id with
    | some item' =>
      rw [hl, Option.some_or] at h
      exact Or.inr (Or.inl ⟨rfl, h⟩)
    | none =>
      rw [hl, Option.none_or] at h
      exact Or.inr (Or.inr ⟨rfl, rfl, h⟩)

theorem lastVersion_isSome {n id : ℕ} (h : (lastVersion cfg ops id n).isSome) :
    (lastVersion cfg ops id (n + 1)).isSome := by
  simp only [lastVersion, Option.isSome_or, h, Bool.or_true]

/-- A goal that leaves both containers was still stored when its call dropped it. -/
theorem leaving_of_dropped {n id : ℕ} {item : Intent}
    (hi : (engineAt cfg ops n).intent id = some item)
    (hn : (engineAt cfg ops (n + 1)).intent id = none) :
    ∃ item', leaving cfg ops n id = some item' := by
  have hr := stateAt_rep cfg ops n
  cases hop : ops[n]? with
  | none =>
    rw [engineAt, (engineMachine cfg).stateAt_succ_none hop] at hn
    rw [hn] at hi
    cases hi
  | some op =>
    by_cases hreq : ∃ r, op = .request r
    · obtain ⟨r, rfl⟩ := hreq
      obtain ⟨item', hi', -⟩ := (superseding_quiet cfg hr r).exists_of_intent hr hi
      exact ⟨item', by simp only [leaving, hop, hi']⟩
    · obtain ⟨item', hi', -⟩ :=
        (step_moves cfg hr fun r h => hreq ⟨r, h⟩).exists_of_intent hr hi
      rw [engineAt_succ hop, hi'] at hn
      cases hn

/-- **A goal that is not stored any more has ended.** -/
theorem leaving_ended {n id : ℕ} {item : Intent} (hl : leaving cfg ops n id = some item)
    (hn : (engineAt cfg ops (n + 1)).intent id = none) : item.stage.terminal = true := by
  have hr := stateAt_rep cfg ops n
  have hp := stateAt_pending cfg ops n
  unfold leaving at hl
  split at hl
  · next r hop =>
    have hu := superseding_quiet cfg hr r
    rw [engineAt_succ hop] at hn
    by_contra hlive
    have hlive : item.stage.terminal = false := by simpa using hlive
    -- a pending goal of another control keeps its place in `_latest`
    have hne : item.control ≠ r.control := by
      intro hc
      rw [superseding_ended cfg hr hp r hl hc] at hlive
      cases hlive
    have hlat := (hu.mono fun _ _ hq => hq.ends).pending hr hp id item hl hlive
    rw [hu.latest] at hlat
    obtain ⟨e, herr, -⟩ | ⟨new, -, -, -, -, hlatest, -⟩ := request_core cfg (engineAt cfg ops n) r
    · obtain ⟨before, hbefore, -⟩ := hu.evolves hr hl
      obtain ⟨item', hi'⟩ := request_error_intent hr herr hbefore
      rw [show ((engineAt cfg ops n).step cfg (.request r)).1.intent id = some item' from hi'] at hn
      cases hn
    · have hr' := (step_intent cfg hr (.request r)).1
      have hlat' : ((engineAt cfg ops n).step cfg (.request r)).1.latest.get? item.control =
          some id := by
        show ((engineAt cfg ops n).request cfg r).2.latest.get? item.control = some id
        rw [hlatest, Dict.get?_set_of_ne _ _ hne, (updates_tick hr cfg r.now).latest, hlat]
      obtain ⟨item', hi', -⟩ := intent_of_latest hr' hlat'
      rw [hi'] at hn
      cases hn
  · cases hl

/-- **No pending goal is lost**: it is active, whatever was evicted. -/
theorem lastVersion_active {n id : ℕ} {item : Intent} (h : lastVersion cfg ops id n = some item)
    (hlive : item.stage.terminal = false) :
    (engineAt cfg ops n).active.get? id = some item := by
  have hstored : ∀ {m : ℕ}, (engineAt cfg ops m).intent id = some item →
      (engineAt cfg ops m).active.get? id = some item := by
    intro m hi
    obtain ⟨item', ha, -⟩ := (stateAt_rep cfg ops m).latest _ _
      (stateAt_pending cfg ops m id item hi hlive)
    rw [ha, ← hi, intent_of_active ha]
  induction n with
  | zero => cases h
  | succ n ih =>
    obtain hi | ⟨hn, hl⟩ | ⟨hn, hl, hold⟩ := lastVersion_succ h
    · exact hstored hi
    · rw [leaving_ended hl hn] at hlive
      cases hlive
    · have hi := intent_of_active (ih hold)
      obtain ⟨item', hl'⟩ := leaving_of_dropped hi hn
      rw [hl] at hl'
      cases hl'

theorem lastVersion_id {n id : ℕ} {item : Intent} (h : lastVersion cfg ops id n = some item) :
    item.id = id := by
  induction n with
  | zero => cases h
  | succ n ih =>
    obtain hi | ⟨-, hl⟩ | ⟨-, -, hold⟩ := lastVersion_succ h
    · exact (intent_some (stateAt_rep cfg ops _) hi).1
    · unfold leaving at hl
      split at hl
      · next r hop =>
        have hr := stateAt_rep cfg ops n
        exact (intent_some ((superseding_quiet cfg hr r).rep hr) hl).1
      · cases hl
    · exact ih hold

theorem lastVersion_le {n id : ℕ} {item : Intent} (h : lastVersion cfg ops id n = some item) :
    id ≤ (engineAt cfg ops n).counter := by
  induction n with
  | zero => cases h
  | succ n ih =>
    have hr := stateAt_rep cfg ops n
    have hcount := counter_mono cfg ops n.le_succ
    obtain hi | ⟨-, hl⟩ | ⟨-, -, hold⟩ := lastVersion_succ h
    · exact intent_le (stateAt_rep cfg ops _) hi
    · unfold leaving at hl
      split at hl
      · next r hop =>
        have hu := superseding_quiet cfg hr r
        have := intent_le (hu.rep hr) hl
        rw [hu.counter] at this
        exact this.trans hcount
      · cases hl
    · exact (ih hold).trans hcount

/-- A goal that was created has a last version. -/
theorem Created.lastVersion {n id : ℕ} (h : Created cfg ops n id) :
    ∃ item, lastVersion cfg ops id n = some item := by
  obtain ⟨m, hmn, item, hc, rfl⟩ := h
  have hbase : (Engine.lastVersion cfg ops item.id (m + 1)).isSome := by
    rw [lastVersion_of_intent hc.intent.1]
    rfl
  rw [← Option.isSome_iff_exists]
  induction hmn with
  | refl => exact hbase
  | step _ ih => exact lastVersion_isSome ih

/-- A goal that had ended keeps its stage over one call. -/
theorem stage_kept_succ {n id : ℕ} {item item' : Intent}
    (hi : (engineAt cfg ops n).intent id = some item)
    (hi' : (engineAt cfg ops (n + 1)).intent id = some item')
    (ht : item.stage.terminal = true) : item'.stage = item.stage := by
  have hr := stateAt_rep cfg ops n
  cases hop : ops[n]? with
  | none =>
    rw [engineAt, (engineMachine cfg).stateAt_succ_none hop] at hi'
    rw [Option.some.inj (hi'.symm.trans hi)]
  | some op =>
    rw [engineAt_succ hop] at hi'
    by_cases hreq : ∃ r, op = .request r
    · obtain ⟨r, rfl⟩ := hreq
      obtain ⟨e, s', -, hs', hu⟩ | ⟨new, s₁, -, hu, hid, -, -, -, -, -, -, -, hrest, -⟩ :=
        request_intents cfg r hr
      · have heq : ((engineAt cfg ops n).step cfg (.request r)).1 = s' := hs'
        rw [heq] at hi'
        exact (hu.mono fun _ _ hq => hq.keeps).stage_kept hr hi hi' ht
      · have hne : id ≠ new.id := by
          have := intent_le hr hi
          omega
        exact (hu.mono fun _ _ hq => hq.keeps).stage_kept hr hi (hrest id item' hi' hne) ht
    · exact ((step_moves cfg hr fun r h => hreq ⟨r, h⟩).mono fun _ _ hm => hm.keeps).stage_kept
        hr hi hi' ht

/-- **A terminal stage never changes again.** -/
theorem lastVersion_terminal {m n id : ℕ} {item : Intent}
    (h : lastVersion cfg ops id m = some item) (ht : item.stage.terminal = true) (hmn : m ≤ n) :
    ∃ item', lastVersion cfg ops id n = some item' ∧ item'.stage = item.stage := by
  induction hmn with
  | refl => exact ⟨item, h, rfl⟩
  | @step n _ ih =>
    obtain ⟨old, hold, hstage⟩ := ih
    obtain ⟨item', hitem'⟩ := Option.isSome_iff_exists.mp
      (lastVersion_isSome (Option.isSome_iff_exists.mpr ⟨old, hold⟩))
    refine ⟨item', hitem', Eq.trans ?_ hstage⟩
    have hended : old.stage.terminal = true := by rw [hstage]; exact ht
    have hr := stateAt_rep cfg ops n
    -- what is stored is the last version
    have hstored : ∀ {x : Intent}, (engineAt cfg ops n).intent id = some x → x = old := by
      intro x hx
      exact Option.some.inj ((lastVersion_of_intent hx).symm.trans hold)
    obtain hi | ⟨-, hl⟩ | ⟨-, -, hkeep⟩ := lastVersion_succ hitem'
    · have hbefore : ∃ x, (engineAt cfg ops n).intent id = some x := by
        cases hop : ops[n]? with
        | none =>
          rw [engineAt, (engineMachine cfg).stateAt_succ_none hop] at hi
          exact ⟨item', hi⟩
        | some op =>
          rw [engineAt_succ hop] at hi
          rcases (step_intent cfg hr op).2.2 id item' hi with ⟨hlt, -⟩ | ⟨x, hx, -⟩
          · exact absurd (lastVersion_le hold) (by omega)
          · exact ⟨x, hx⟩
      obtain ⟨x, hx⟩ := hbefore
      obtain rfl := hstored hx
      exact stage_kept_succ hx hi hended
    · unfold leaving at hl
      split at hl
      · next r hop =>
        have hu := superseding_quiet cfg hr r
        obtain ⟨x, hx, -⟩ := hu.evolves hr hl
        obtain rfl := hstored hx
        exact (hu.mono fun _ _ hq => hq.keeps).stage_kept hr hx hl hended
      · cases hl
    · rw [Option.some.inj (hkeep.symm.trans hold)]

/-- Call `n` transmits `action`. -/
def Transmits (cfg : EngineConfig) (ops : List EngineOp) (n : ℕ) (action : Action) : Prop :=
  ∃ at_ ctsAt, ops[n]? = some (.sent action at_ ctsAt) ∧
    (engineMachine cfg).outAt ops n = some (.receipt (.ok ()))

/-- A transmission finds the slot free and its goal waiting for the bus. -/
theorem Transmits.spec {n : ℕ} {action : Action} (h : Transmits cfg ops n action) :
    (engineAt cfg ops n).inflight = none ∧
      (engineAt cfg ops n).latest.get? action.intent.control = some action.intent.id ∧
      (∃ current, (engineAt cfg ops n).intent action.intent.id = some current ∧
        current.stage = .waitingForBus ∧ current.control = action.intent.control) ∧
      ∃ pending, (engineAt cfg ops (n + 1)).inflight = some pending ∧ pending.action = action := by
  obtain ⟨at_, ctsAt, hop, hout⟩ := h
  obtain ⟨e, he, -⟩ | ⟨-, hfree, hv, -, -, hi, -⟩ :=
    sent_core cfg (engineAt cfg ops n) action at_ ctsAt
  · rw [outAt_receipt hop, he] at hout
    cases hout
  · obtain ⟨-, hlat, ⟨current, hcur, hbus⟩, -⟩ := receiptValid_iff.mp hv
    refine ⟨hfree, hlat, ⟨current, hcur, hbus, ?_⟩, { action, ctsAt, sentAt := at_ }, ?_, rfl⟩
    · obtain ⟨item, hitem, hc, -⟩ := intent_of_latest (stateAt_rep cfg ops n) hlat
      rw [Option.some.inj (hcur.symm.trans hitem), hc]
    · rw [engineAt_succ hop]
      exact hi

/-- The transaction in flight was transmitted by an earlier call. -/
theorem inflight_transmits {n : ℕ} {pending : Transaction}
    (h : (engineAt cfg ops n).inflight = some pending) :
    ∃ k, k < n ∧ Transmits cfg ops k pending.action := by
  induction n with
  | zero => cases h
  | succ n ih =>
    cases hop : ops[n]? with
    | none =>
      rw [engineAt, (engineMachine cfg).stateAt_succ_none hop] at h
      obtain ⟨k, hk, ht⟩ := ih h
      exact ⟨k, hk.trans n.lt_succ_self, ht⟩
    | some op =>
      have hafter := h
      rw [engineAt_succ hop] at h
      rcases step_inflight h with ⟨h, -⟩ | ⟨action, at_, ctsAt, rfl, hfree, -, rfl⟩
      · obtain ⟨k, hk, ht⟩ := ih h
        exact ⟨k, hk.trans n.lt_succ_self, ht⟩
      · refine ⟨n, n.lt_succ_self, at_, ctsAt, hop, ?_⟩
        rw [(engineMachine cfg).outAt_eq hop]
        obtain ⟨e, -, hcore⟩ | ⟨hok, -⟩ := sent_core cfg (engineAt cfg ops n) action at_ ctsAt
        · have hnone := hcore.inflight.trans hfree
          rw [show ((engineAt cfg ops n).sent cfg action at_ ctsAt).2.inflight = _ from h] at hnone
          cases hnone
        · simp only [engineMachine_step, step, hok]

/-- The goal of the transaction in flight has its control. -/
theorem inflight_control {n : ℕ} {pending : Transaction} {item : Intent}
    (h : (engineAt cfg ops n).inflight = some pending)
    (hi : (engineAt cfg ops n).intent pending.action.intent.id = some item) :
    item.control = pending.action.intent.control := by
  obtain ⟨k, hk, ht⟩ := inflight_transmits h
  obtain ⟨-, -, ⟨current, hcur, -, hc⟩, -⟩ := ht.spec
  rw [intent_control (goal_mono hcur hk.le hi), hc]

/-! ## Runs -/

/-- **The representation of the engine.** In every state of every run:

    * the active goals are the latest goals, each stored under its own number and
      as the latest of its control;
    * every goal that was created and has not ended is active, whatever was evicted
      from the list of goals, so a control has at most one such goal;
    * a goal that is both active and in the list is the same in both;
    * a transaction is in flight exactly if it is the last record and that record
      is open, and every other record is closed.

    A goal that has ended keeps its stage for good, and a call that ends the
    transaction in flight closes its record and changes no other. -/
theorem represented (cfg : EngineConfig) (ops : List EngineOp) (n : ℕ) :
    (∀ id, id ∈ (engineAt cfg ops n).active.keys ↔ id ∈ (engineAt cfg ops n).latest.values) ∧
      (∀ id item, (engineAt cfg ops n).active.get? id = some item →
        item.id = id ∧ (engineAt cfg ops n).latest.get? item.control = some id) ∧
      (∀ id, Created cfg ops n id → ∃ item, lastVersion cfg ops id n = some item ∧ item.id = id ∧
        (item.stage.terminal = false → (engineAt cfg ops n).active.get? id = some item)) ∧
      (∀ id id' item item', lastVersion cfg ops id n = some item →
        lastVersion cfg ops id' n = some item' → item.stage.terminal = false →
        item'.stage.terminal = false → item.control = item'.control → id = id') ∧
      (∀ id item item', (engineAt cfg ops n).active.get? id = some item →
        item' ∈ (engineAt cfg ops n).intents.items → item'.id = id → item' = item) ∧
      (∀ m id item, m ≤ n → lastVersion cfg ops id m = some item → item.stage.terminal = true →
        ∃ item', lastVersion cfg ops id n = some item' ∧ item'.stage = item.stage) ∧
      (∀ pending, (engineAt cfg ops n).inflight = some pending ↔
        (engineAt cfg ops n).history.items.getLast? = some pending ∧ pending.completedAt = none) ∧
      (∀ record ∈ (engineAt cfg ops n).history.items.dropLast, record.completedAt ≠ none) ∧
      ∀ pending, (engineAt cfg ops n).inflight = some pending →
        (engineAt cfg ops (n + 1)).inflight = some pending ∨
          ∃ record, Closed pending record ∧ (engineAt cfg ops (n + 1)).inflight = none ∧
            (engineAt cfg ops (n + 1)).history.items =
              (engineAt cfg ops n).history.items.dropLast ++ [record] := by
  have hr := stateAt_rep cfg ops n
  have hf := stateAt_flightRep cfg ops n
  refine ⟨fun id => ?_, fun id item ha => ⟨hr.own id item ha, hr.active id item ha⟩,
    fun id hc => ?_, fun id id' item item' h h' hlive hlive' hc => ?_,
    fun id item item' ha hm hid => hr.agree item' hm item (by rw [hid, ha]),
    fun m id item hmn h ht => lastVersion_terminal h ht hmn, fun pending => ?_, hf.old,
    fun pending hp => ?_⟩
  · rw [Dict.mem_keys, Dict.mem_values]
    constructor
    · rintro ⟨item, ha⟩
      exact ⟨item.control, hr.active id item ha⟩
    · rintro ⟨control, hlat⟩
      obtain ⟨item, ha, -⟩ := hr.latest control id hlat
      exact ⟨item, ha⟩
  · obtain ⟨item, hitem⟩ := hc.lastVersion
    exact ⟨item, hitem, lastVersion_id hitem, fun hlive => lastVersion_active hitem hlive⟩
  · have h₁ := hr.active id item (lastVersion_active h hlive)
    have h₂ := hr.active id' item' (lastVersion_active h' hlive')
    rw [hc] at h₁
    exact Option.some.inj (h₁.symm.trans h₂)
  · constructor
    · exact hf.flying pending
    · rintro ⟨hlast, hopen⟩
      cases hi : (engineAt cfg ops n).inflight with
      | none => exact absurd hopen (hf.landed hi pending (List.mem_of_getLast? hlast))
      | some p =>
        obtain ⟨hlast', -⟩ := hf.flying p hi
        exact hlast'.symm.trans hlast
  · cases hop : ops[n]? with
    | none =>
      rw [engineAt, (engineMachine cfg).stateAt_succ_none hop]
      exact Or.inl hp
    | some op =>
      rw [engineAt_succ hop]
      cases step_history cfg (engineAt cfg ops n) op with
      | landed h =>
        cases h with
        | kept hi hh => exact Or.inl (hi.trans hp)
        | closed q record hi hi' hc hh =>
          obtain rfl := Option.some.inj (hp.symm.trans hi)
          refine Or.inr ⟨record, hc, hi', ?_⟩
          rw [hh, Deque.items_setLast]
          intro hnil
          have := (hf.flying _ hp).1
          rw [hnil] at this
          cases this
      | sent transaction hi =>
        rw [hp] at hi
        cases hi

end Engine

end BalboaRs485
