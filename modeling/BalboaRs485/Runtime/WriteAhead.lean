import BalboaRs485.Runtime.Steps
import BalboaRs485.Session.Progress

/-!
# Records are saved before they are acted on

The runner saves a record, makes it its session once `save` has returned, and only
then requests the goal of it. A runner has at most one intent that can still be sent,
the one in `_intent`, and `pause` cancels it before every save.

* `Owns`: the invariant. An intent of the runner that can still be sent is the one
  in `_intent` and was requested for the current record; while a save is in
  progress there is none.
* `step_owns`, `step_requests`, `step_session`: what one step does to the intents,
  the requests and the session of the runner.
* `prepare_withholds`: without an `_intent` nothing of the runner is handed out.
* `write_ahead`: the three together, over whole runs.
-/

namespace BalboaRs485

/-- The goal is a function of the record. -/
theorem SessionIntent.goal_unique {s : SessionIntent} {o o' : Option SpaState}
    {g g' : Control × Value} (h : s.goal o = .ok g) (h' : s.goal o' = .ok g') : g = g' := by
  cases s with
  | session s => exact (Session.goal_ok h).1.trans (Session.goal_ok h').1.symm
  | range s => exact (RangeSession.goal_ok h).1.trans (RangeSession.goal_ok h').1.symm

namespace System

variable {cfg : RuntimeConfig} {e : EngineConfig} {P : EngineOp → Prop} {w w' : System}

/-! ## Intents of the runner -/

/-- An intent of the runner that can still be sent. -/
structure Held (w : System) (q : SessionRequest) (id : ℕ) (item : Intent) : Prop where
  mem : q ∈ w.requests
  accepted : q.intent = some id
  intent : w.commands.engine.intent id = some item
  pending : item.stage.terminal = false

/-- What the history of requests says about the engine. -/
structure Knows (w : System) : Prop where
  rep : Engine.IntentRep w.commands.engine
  pending : Engine.Pending w.commands.engine
  known : ∀ q ∈ w.requests, ∀ id, q.intent = some id → id ≤ w.commands.engine.counter
  computed : ∀ q ∈ w.requests, ∃ o, q.record.goal o = .ok (q.control, q.goal)
  goal : ∀ q ∈ w.requests, ∀ id item, q.intent = some id →
    w.commands.engine.intent id = some item → item.control = q.control ∧ item.desired = q.goal

/-- The invariant of the runner's intents. -/
structure Owns (w : System) : Prop extends Knows w where
  held : ∀ q id item, Held w q id item →
    w.runner.intent = some id ∧ w.runner.session = some q.record
  saving : ∀ next task, w.lock = .saving next task → w.runner.intent = none

theorem Knows.descend (h : Knows w)
    (hcalls : Engine.Calls e P w.commands.engine w'.commands.engine)
    (hreq : w'.requests = w.requests) : Knows w' := by
  obtain ⟨hrep, hpending⟩ := hcalls.rep h.rep h.pending
  have hdesc := hcalls.descends h.rep h.pending
  refine ⟨hrep, hpending, ?_, by rw [hreq]; exact h.computed, ?_⟩
  · intro q hq id hid
    rw [hreq] at hq
    exact (h.known q hq id hid).trans hdesc.counter
  · intro q hq id item' hid hi'
    rw [hreq] at hq
    obtain ⟨item, hi, hg, -⟩ := hdesc.goal id item' (h.known q hq id hid) hi'
    obtain ⟨-, hc, hd, -⟩ := Engine.goal_eq hg
    rw [hc, hd]
    exact h.goal q hq id item hid hi

/-- An old intent that can be sent after some calls could be sent before. -/
theorem Knows.held (h : Knows w) {engine : Engine}
    (hcalls : Engine.Calls e P w.commands.engine engine) {q : SessionRequest} (hq : q ∈ w.requests)
    {id : ℕ} (hid : q.intent = some id) {item' : Intent} (hi' : engine.intent id = some item')
    (hlive' : item'.stage.terminal = false) :
    ∃ item, Held w q id item ∧ item'.goal = item.goal := by
  obtain ⟨item, hi, hg, hlive⟩ := (hcalls.descends h.rep h.pending).goal id item'
    (h.known q hq id hid) hi'
  exact ⟨item, ⟨hq, hid, hi, hlive hlive'⟩, hg⟩

theorem Held.earlier {q : SessionRequest} {id : ℕ} {item' : Intent} (hheld : Held w' q id item')
    (h : Knows w) (hcalls : Engine.Calls e P w.commands.engine w'.commands.engine)
    (hreq : w'.requests = w.requests) :
    ∃ item, Held w q id item ∧ item'.goal = item.goal :=
  h.held hcalls (hreq ▸ hheld.mem) hheld.accepted hheld.intent hheld.pending

theorem Owns.descend (h : Owns w)
    (hcalls : Engine.Calls e P w.commands.engine w'.commands.engine)
    (hreq : w'.requests = w.requests) (hsession : w'.runner.session = w.runner.session)
    (hintent : w'.runner.intent = w.runner.intent)
    (hlock : ∀ next task, w'.lock = .saving next task → w.lock = .saving next task) : Owns w' where
  toKnows := h.toKnows.descend hcalls hreq
  held := by
    intro q id item' hheld
    obtain ⟨item, hheld, -⟩ := hheld.earlier h.toKnows hcalls hreq
    rw [hsession, hintent]
    exact h.held q id item hheld
  saving := by
    intro next task hl
    rw [hintent]
    exact h.saving next task (hlock next task hl)

theorem Owns.congr (h : Owns w) (hengine : w'.commands.engine = w.commands.engine)
    (hreq : w'.requests = w.requests) (hsession : w'.runner.session = w.runner.session)
    (hintent : w'.runner.intent = w.runner.intent)
    (hlock : ∀ next task, w'.lock = .saving next task → w.lock = .saving next task) : Owns w' := by
  refine h.descend (e := .default) (P := fun _ => True) ?_ hreq hsession hintent hlock
  rw [hengine]
  exact .refl _

/-- Without an `_intent` nothing of the runner can be sent. -/
theorem Owns.rests (h : Owns w) (hintent : w.runner.intent = none) (q : SessionRequest) (id : ℕ)
    (item : Intent) : ¬ Held w q id item := by
  intro hheld
  have := (h.held q id item hheld).1
  rw [hintent] at this
  cases this

/-- If nothing of the runner can be sent, its record may change. -/
theorem Knows.owns (h : Knows w) (hrests : ∀ q id item, ¬ Held w q id item)
    (hsaving : ∀ next task, w.lock = .saving next task → w.runner.intent = none) : Owns w :=
  { toKnows := h
    held := fun q id item hheld => absurd hheld (hrests q id item)
    saving := hsaving }

/-- **A paused runner has no intent that can still be sent.** -/
theorem Owns.pause_rests (h : Owns w) (q : SessionRequest) (id : ℕ) (item' : Intent) :
    ¬ Held w.pause q id item' := by
  intro hheld
  obtain ⟨item, hold, hg⟩ := hheld.earlier h.toKnows (pause_engine .default w) (pause_requests w)
  have hintent := (h.held q id item hold).1
  have hcancel : w.pause.commands.engine = w.commands.engine.cancel item.control none := by
    show w.cancelIntent.commands.engine = _
    unfold cancelIntent
    simp only [hintent, Option.bind_some, hold.intent, hold.pending]
    rfl
  have hi := hheld.intent
  rw [hcancel] at hi
  have := Engine.cancel_ends h.rep h.pending item.control none hi (Engine.intent_control hg)
  rw [hheld.pending] at this
  cases this

/-- After `pause` the record and the lock may change. -/
theorem Owns.paused (h : Owns w) (hengine : w'.commands.engine = w.pause.commands.engine)
    (hreq : w'.requests = w.requests) (hintent : w'.runner.intent = none) : Owns w' := by
  have hcalls : Engine.Calls .default CancelOp w.commands.engine w'.commands.engine := by
    rw [hengine]
    exact pause_engine .default w
  refine (h.toKnows.descend hcalls hreq).owns (fun q id item hheld => ?_) fun _ _ _ => hintent
  have hmem : q ∈ w.pause.requests := by
    rw [pause_requests, ← hreq]
    exact hheld.mem
  have hintent := hheld.intent
  rw [hengine] at hintent
  exact h.pause_rests q id item ⟨hmem, hheld.accepted, hintent, hheld.pending⟩

/-! ## Requests -/

theorem request_state (cfg : RuntimeConfig) (w : System) (r : Request) :
    (w.request cfg r).2.state = w.state := by
  rcases request_case cfg w r with h | ⟨h, -⟩
  · rw [h]
  · show (w.request cfg r).2.commands.engine.state = _
    rw [h]
    obtain ⟨-, -, h | h⟩ | ⟨-, -, -, -, h, -⟩ :=
      Engine.request_core cfg.engine w.commands.engine (w.engineRequest r)
    · rw [h]; rfl
    · rw [h]; exact (Engine.tick_core cfg.engine w.commands.engine _).1
    · exact h.trans (Engine.tick_core cfg.engine w.commands.engine _).1

theorem pause_state (w : System) : w.pause.state = w.state := by
  show w.cancelIntent.commands.engine.state = w.commands.engine.state
  unfold cancelIntent
  split
  · rfl
  · split
    · rfl
    · exact (Engine.sameCore_cancel _ _ _).state

theorem Owns.request (h : Owns w) (cfg : RuntimeConfig) (r : Request) :
    Owns (w.request cfg r).2 := by
  have hrest := request_rest cfg w r
  refine h.descend (request_engine cfg w r) hrest.requests ?_ ?_ fun _ _ hl => hrest.lock ▸ hl
  · rw [hrest.runner]
  · rw [hrest.runner]

/-- An accepted request adds its intent; nothing else of the runner can be sent then,
    since the goals of one record are the same. -/
theorem Owns.accept (h : Owns w) {attempt : Attempt} {intent : Intent}
    (hsession : w.runner.session = some attempt.record)
    (hgoal : attempt.record.goal w.state = .ok (attempt.control, attempt.goal))
    (hlock : ∀ next task, w.lock ≠ .saving next task)
    (hreq : w.request cfg (goalRequest attempt) = (.ok intent, w')) (reason : Option BlockedBy) :
    Owns { w' with
      requests := w'.requests ++ [⟨attempt, some intent.id⟩]
      runner := { w'.runner with
        intent := some intent.id
        attempt := some attempt
        blockedReason := reason } } := by
  set r := goalRequest attempt with hr
  have hrest := request_rest cfg w r
  have hcalls := request_engine cfg w r
  have hcase := request_case cfg w r
  rw [hreq] at hrest hcalls hcase
  have hrequests : w'.requests = w.requests := hrest.requests
  obtain hbad | ⟨hengine, hresult⟩ := hcase
  · cases hbad
  have hok : (w.commands.engine.request cfg.engine (w.engineRequest r)).1 = .ok intent :=
    mapError_eq_ok_iff.mp hresult.symm
  obtain ⟨e, -, herr, -⟩ | ⟨item, s₁, hitem, -, hid, hc, hd, -, -, hnew, -, hcount, -⟩ :=
    Engine.request_intents cfg.engine (w.engineRequest r) h.rep
  · rw [hok] at herr; cases herr
  rw [hok] at hitem
  cases hitem
  simp only at hengine
  rw [← hengine] at hnew hcount
  have hknows := h.toKnows.descend hcalls hrequests
  have hpending := (Engine.request_pending cfg.engine h.rep h.pending
    (w.engineRequest r)).2
  rw [← hengine] at hpending
  constructor
  · refine ⟨hknows.rep, hknows.pending, ?_, ?_, ?_⟩
    all_goals simp only [List.mem_append, List.mem_singleton]
    · rintro q (hq | rfl) id hqid
      · exact hknows.known q hq id hqid
      · cases hqid
        rw [hid, hcount]
    · rintro q (hq | rfl)
      · exact hknows.computed q hq
      · exact ⟨w.state, hgoal⟩
    · rintro q (hq | rfl) id item hqid hi
      · exact hknows.goal q hq id item hqid hi
      · cases hqid
        obtain rfl := Option.some.inj (hnew.symm.trans hi)
        exact ⟨hc, hd⟩
  · rintro q id item ⟨hq, hqid, hi, hlive⟩
    rcases List.mem_append.mp hq with hq | hq
    · -- an older intent that can still be sent would have the control of this one
      exfalso
      rw [hrequests] at hq
      have hle := h.known q hq id hqid
      rcases hpending id item hi hlive with ⟨old, hold, hg, hlive₀, hne⟩ | ⟨-, hnew⟩
      · obtain ⟨-, hrecord⟩ := h.held q id old ⟨hq, hqid, hold, hlive₀⟩
        have hrecord : q.record = attempt.record := Option.some.inj (hrecord.symm.trans hsession)
        obtain ⟨o, ho⟩ := h.computed q hq
        rw [hrecord] at ho
        have hsame := SessionIntent.goal_unique ho hgoal
        refine hne intent hok ?_
        rw [Engine.intent_control hg, (h.goal q hq id old hqid hold).1]
        exact congrArg Prod.fst hsame
      · omega
    · obtain rfl := List.mem_singleton.mp hq
      have hsame : w'.runner.session = w.runner.session := congrArg Runner.session hrest.runner
      exact ⟨hqid, hsame.trans hsession⟩
  · intro next task hlocked
    exact absurd (hrest.lock.symm.trans hlocked) (hlock next task)

theorem Owns.submit (h : Owns w) {attempt : Attempt}
    (hsession : w.runner.session = some attempt.record)
    (hgoal : attempt.record.goal w.state = .ok (attempt.control, attempt.goal))
    (hlock : ∀ next task, w.lock ≠ .saving next task) : Owns (w.submit cfg attempt) := by
  have hcase := submit_case cfg w attempt
  generalize w.submit cfg attempt = w' at hcase
  cases hcase with
  | accepted intent w' hreq => exact h.accept hsession hgoal hlock hreq _
  | rejected e w' hreq =>
    have hrest := request_rest cfg w (goalRequest attempt)
    have howns := h.request cfg (goalRequest attempt)
    rw [hreq] at howns hrest
    have hpaused : Owns (w'.pause.block (some .unsupportedState)) :=
      howns.paused rfl (pause_requests w') (by simp [block])
    have hreqs : (w'.pause.block (some .unsupportedState)).requests = w'.requests :=
      pause_requests w'
    -- the refused call is in the history, but has no intent
    refine Knows.owns ⟨hpaused.rep, hpaused.pending, ?_, ?_, ?_⟩ ?_ ?_
    · simp only [List.mem_append, List.mem_singleton]
      rintro q (hq | rfl) id hqid
      · exact hpaused.known q (hreqs ▸ hq) id hqid
      · cases hqid
    · simp only [List.mem_append, List.mem_singleton]
      rintro q (hq | rfl)
      · exact hpaused.computed q (hreqs ▸ hq)
      · exact ⟨w.state, hgoal⟩
    · simp only [List.mem_append, List.mem_singleton]
      rintro q (hq | rfl) id item hqid hi
      · exact hpaused.goal q (hreqs ▸ hq) id item hqid hi
      · cases hqid
    · rintro q id item ⟨hq, hqid, hi, hlive⟩
      rcases List.mem_append.mp hq with hq | hq
      · exact hpaused.rests (by simp [block]) q id item ⟨hreqs ▸ hq, hqid, hi, hlive⟩
      · obtain rfl := List.mem_singleton.mp hq
        cases hqid
    · intro next task hl
      simp [block]

theorem Owns.pursueSession (h : Owns w) {session : SessionIntent}
    (hsession : w.runner.session = some session)
    (hlock : ∀ next task, w.lock ≠ .saving next task) : Owns (w.pursueSession cfg session) := by
  have hcase := pursue_case cfg w session
  generalize w.pursueSession cfg session = w' at hcase
  cases hcase with
  | paused reason => exact h.paused rfl (pause_requests w) (by simp [block])
  | awaited => exact h.congr rfl rfl rfl rfl fun _ _ hl => hl
  | observed goal => exact h.congr rfl rfl rfl rfl fun _ _ hl => hl
  | remembered goal => exact h.congr rfl rfl rfl rfl fun _ _ hl => hl
  | requested goal hgoal => exact h.submit hsession hgoal hlock

/-! ## Steps -/

theorem step_owns (h : Owns w) (op : Op) : Owns (w.step cfg op).1 := by
  have hcase := step_case cfg w op
  generalize (w.step cfg op).1 = w' at hcase
  cases hcase with
  | env he =>
    refine h.descend he.engine he.requests ?_ ?_ fun _ _ hl => he.lock ▸ hl
    · rw [he.runner]
    · rw [he.runner]
  | foreign r r' => exact h.request cfg r'
  | entered hop hlock hent =>
    cases hent with
    | same => exact h
    | saving next task => exact h.paused rfl (pause_requests w) (by simp)
    | applying =>
      exact h.congr rfl rfl rfl rfl fun _ _ hl => by cases hl
  | ticked session updated => exact h.paused rfl (pause_requests w) (by simp)
  | pursued session hlock hsession =>
    exact h.pursueSession hsession fun _ _ hl => by rw [hlock] at hl; cases hl
  | resumed next task hlock =>
    have hintent := h.saving next task hlock
    have hstores : ∀ lock, (∀ next task, lock ≠ .saving next task) → Owns (w.stores next lock) := by
      intro lock hl
      have hknows : Knows (w.stores next lock) :=
        h.toKnows.descend (e := .default) (P := fun _ => True) (.refl _) rfl
      refine hknows.owns (fun q id item hheld => ?_) fun n t hl' => absurd hl' (hl n t)
      exact h.rests hintent q id item ⟨hheld.mem, hheld.accepted, hheld.intent, hheld.pending⟩
    cases task with
    | finish => exact hstores .free (by simp)
    | apply control desired => exact hstores (.applying control desired) (by simp)
    | tick =>
      show Owns ((w.stores next .free).pursue cfg)
      unfold pursue
      split
      · exact hstores .free (by simp)
      · next session hsession =>
        exact (hstores .free (by simp)).pursueSession hsession fun _ _ hl => by cases hl
  | failed next task outcome hlock =>
    exact h.congr rfl rfl rfl rfl fun _ _ hl => by cases hl
  | released =>
    exact h.congr rfl rfl rfl rfl fun _ _ hl => by cases hl
  | paused => exact h.paused rfl (pause_requests w) (by simp)
  | closed =>
    have hclosed : Owns { w with runner := { w.runner with closed := true } } :=
      h.congr rfl rfl rfl rfl fun _ _ hl => hl
    exact hclosed.paused rfl (pause_requests _) (by simp [close])

theorem systemAt_owns (cfg : RuntimeConfig) (start : Start) (run : List Op) (n : ℕ) :
    Owns (systemAt cfg start run n) := by
  refine (machine cfg start).stateAt_invariant (P := Owns) ?_ (fun w op h => step_owns h op) run n
  refine Knows.owns ⟨Engine.intentRep_init, Engine.pending_init, ?_, ?_, ?_⟩ ?_ ?_
  · intro q hq; cases hq
  · intro q hq; cases hq
  · intro q hq; cases hq
  · intro q id item hheld; cases hheld.mem
  · intro next task hl; rfl

/-! ## What a step requests and stores -/

/-- A call of `runtime.request` changes nothing else of the runner but its intent, its
    attempt and the reason it shows. -/
theorem submit_spec (cfg : RuntimeConfig) (w : System) (attempt : Attempt) :
    (∃ intent, (w.submit cfg attempt).requests = w.requests ++ [⟨attempt, intent⟩]) ∧
      (w.submit cfg attempt).runner.session = w.runner.session ∧
      (w.submit cfg attempt).lock = w.lock ∧ (w.submit cfg attempt).state = w.state := by
  have hcase := submit_case cfg w attempt
  generalize w.submit cfg attempt = w' at hcase
  have hrest := request_rest cfg w (goalRequest attempt)
  have hstate := request_state cfg w (goalRequest attempt)
  cases hcase with
  | rejected e w' h =>
    rw [h] at hrest hstate
    have hsession : w'.runner.session = w.runner.session := congrArg Runner.session hrest.runner
    refine ⟨⟨none, ?_⟩, ?_, ?_, ?_⟩
    · rw [← hrest.requests]
    · show w'.pause.runner.session = w.runner.session
      rw [pause_runner]
      exact hsession
    · exact (pause_lock w').trans hrest.lock
    · exact (pause_state w').trans hstate
  | accepted intent w' h =>
    rw [h] at hrest hstate
    have hsession : w'.runner.session = w.runner.session := congrArg Runner.session hrest.runner
    refine ⟨⟨some intent.id, ?_⟩, hsession, hrest.lock, hstate⟩
    rw [← hrest.requests]

/-- `async_tick` requests at most the goal of the session it pursues. -/
theorem pursueSession_spec (cfg : RuntimeConfig) (w : System) (session : SessionIntent) :
    ((w.pursueSession cfg session).requests = w.requests ∨
        ∃ goal intent, session.goal w.state = .ok goal ∧
          (w.pursueSession cfg session).requests =
            w.requests ++ [⟨w.attemptAt session goal, intent⟩]) ∧
      (w.pursueSession cfg session).runner.session = w.runner.session ∧
      (w.pursueSession cfg session).lock = w.lock ∧
      (w.pursueSession cfg session).state = w.state := by
  have hcase := pursue_case cfg w session
  generalize w.pursueSession cfg session = w' at hcase
  cases hcase with
  | paused reason =>
    exact ⟨Or.inl (pause_requests w), by simp [block], pause_lock w, pause_state w⟩
  | awaited | observed | remembered => exact ⟨Or.inl rfl, rfl, rfl, rfl⟩
  | requested goal hgoal =>
    obtain ⟨⟨intent, hreq⟩, hrest⟩ := submit_spec cfg w (w.attemptAt session goal)
    exact ⟨Or.inr ⟨goal, intent, hgoal, hreq⟩, hrest⟩

/-- The record a step has saved. -/
def written (w : System) (op : Op) : Option (Option SessionIntent) :=
  match op, w.lock with
  | .saved .returned, .saving next _ => some next
  | _, _ => none

theorem stores_session (w : System) (next : Option SessionIntent) (lock : Lock) :
    (w.stores next lock).runner.session = next := by
  unfold stores
  split
  · next h => exact h.symm
  · rfl

/-- **The session is the record that was saved last**, and what a step requests is the
    goal of it. -/
theorem step_requests (cfg : RuntimeConfig) (w : System) (op : Op) :
    (w.step cfg op).1.runner.session = (w.written op).getD w.runner.session ∧
      ∃ new, (w.step cfg op).1.requests = w.requests ++ new ∧
        ∀ q ∈ new, (w.step cfg op).1.runner.session = some q.record ∧
          q.record.goal (w.step cfg op).1.state = .ok (q.control, q.goal) := by
  have hsame : ∀ w' : System, w'.runner.session = w.runner.session → w'.requests = w.requests →
      w.written op = none → w'.runner.session = (w.written op).getD w.runner.session ∧
        ∃ new, w'.requests = w.requests ++ new ∧ ∀ q ∈ new,
          w'.runner.session = some q.record ∧ q.record.goal w'.state = .ok (q.control, q.goal) := by
    intro w' hs hr hw
    rw [hw]
    exact ⟨hs, [], by simpa using hr, by simp⟩
  have hpursue : ∀ (w₀ : System) (session : SessionIntent), w₀.runner.session = some session →
      w₀.requests = w.requests → w₀.runner.session = (w.written op).getD w.runner.session →
      (w₀.pursueSession cfg session).runner.session = (w.written op).getD w.runner.session ∧
        ∃ new, (w₀.pursueSession cfg session).requests = w.requests ++ new ∧ ∀ q ∈ new,
          (w₀.pursueSession cfg session).runner.session = some q.record ∧
            q.record.goal (w₀.pursueSession cfg session).state = .ok (q.control, q.goal) := by
    intro w₀ session hsession hreq hwritten
    obtain ⟨hnew, hs, -, hstate⟩ := pursueSession_spec cfg w₀ session
    rw [hs, hstate]
    refine ⟨hwritten, ?_⟩
    rcases hnew with h | ⟨goal, intent, hgoal, h⟩
    · exact ⟨[], by rw [h, hreq, List.append_nil], by simp⟩
    · refine ⟨_, by rw [h, hreq], fun q hq => ?_⟩
      obtain rfl := List.mem_singleton.mp hq
      exact ⟨hsession, hgoal⟩
  by_cases hwritten : w.written op = none
  · have hcase := step_case cfg w op
    generalize (w.step cfg op).1 = w' at hcase ⊢
    cases hcase with
    | env he => exact hsame _ (by rw [he.runner]) he.requests hwritten
    | foreign r r' =>
      have hrest := request_rest cfg w r'
      exact hsame _ (by rw [hrest.runner]) hrest.requests hwritten
    | entered hop hlock hent =>
      cases hent with
      | same => exact hsame _ rfl rfl hwritten
      | saving => exact hsame _ (by simp) (pause_requests w) hwritten
      | applying => exact hsame _ rfl rfl hwritten
    | ticked => exact hsame _ (by simp) (pause_requests w) hwritten
    | pursued session hlock hsession =>
      exact hpursue w session hsession rfl (by rw [hwritten]; rfl)
    | resumed next task hlock =>
      unfold written at hwritten
      rw [hlock] at hwritten
      cases hwritten
    | failed => exact hsame _ rfl rfl hwritten
    | released => exact hsame _ rfl rfl hwritten
    | paused => exact hsame _ (by simp) (pause_requests w) hwritten
    | closed => exact hsame _ (by simp [close]) (pause_requests _) hwritten
  · unfold written at hwritten
    split at hwritten
    · next next task hlock =>
      have hstep : (w.step cfg (.saved .returned)).1 = w.resume cfg next task := by
        simp only [step, saved, hlock]
      have hw : (w.written (.saved .returned)).getD w.runner.session = next := by
        simp only [written, hlock, Option.getD_some]
      rw [hstep]
      have hstores : ∀ lock, (w.stores next lock).runner.session =
          (w.written (.saved .returned)).getD w.runner.session ∧
          ∃ new, (w.stores next lock).requests = w.requests ++ new ∧ ∀ q ∈ new,
            (w.stores next lock).runner.session = some q.record ∧
              q.record.goal (w.stores next lock).state = .ok (q.control, q.goal) := by
        intro lock
        exact ⟨(stores_session w next lock).trans hw.symm, [],
          by rw [List.append_nil]; rfl, by simp⟩
      cases task with
      | finish => exact hstores .free
      | apply control desired => exact hstores (.applying control desired)
      | tick =>
        show ((w.stores next .free).pursue cfg).runner.session = _ ∧ _
        unfold resume pursue
        split
        · exact hstores .free
        · next session hsession =>
          exact hpursue (w.stores next .free) session hsession rfl
            ((stores_session w next .free).trans hw.symm)
    · exact absurd rfl hwritten

/-! ## Transmission -/

/-- `prepare` hands out no intent of the runner, whenever and however it is called. -/
def Withholds (cfg : RuntimeConfig) (w : System) : Prop :=
  ∀ answers now t action, (w.prepare cfg answers now).1 = some t → t.token = .action action →
    ∀ q ∈ w.requests, q.intent ≠ some action.intent.id

theorem prepare_withholds (h : Owns w) (hintent : w.runner.intent = none) : Withholds cfg w := by
  intro answers now t action ht htoken q hq hid
  obtain ⟨e, hcalls, hnext⟩ := Commands.prepare_action cfg w.commands (w.callGuard answers)
    (r := w.runner) ht htoken
  obtain ⟨item', hi', hlive', -⟩ := Engine.nextAction_pending (hcalls.rep h.rep h.pending).1 hnext
  obtain ⟨item, hi, -, hlive⟩ := (hcalls.descends h.rep h.pending).goal _ item'
    (h.known q hq _ hid) hi'
  exact h.rests hintent q _ item ⟨hq, hid, hi, hlive hlive'⟩

/-! ## A failed save -/

/-- The runner once a save has failed. -/
structure Dead (w : System) : Prop where
  failed : w.runner.storageFailed = true
  intent : w.runner.intent = none
  lock : ∀ next task, w.lock ≠ .saving next task

/-- A runner whose storage has failed stays as it is. -/
theorem step_dead (cfg : RuntimeConfig) (h : Dead w) (op : Op) :
    Dead (w.step cfg op).1 ∧ (w.step cfg op).1.requests = w.requests ∧
      (w.step cfg op).1.runner.session = w.runner.session := by
  have hcase := step_case cfg w op
  generalize (w.step cfg op).1 = w' at hcase
  have hfail : ∀ {b : Bool}, w.runner.storageFailed = b → b = false → False := by
    rintro b hb rfl
    rw [h.failed] at hb
    cases hb
  cases hcase with
  | env he =>
    refine ⟨⟨?_, ?_, fun next task => he.lock ▸ h.lock next task⟩, he.requests, ?_⟩
    · rw [he.runner]; exact h.failed
    · rw [he.runner]; exact h.intent
    · rw [he.runner]
  | foreign r r' =>
    have hrest := request_rest cfg w r'
    refine ⟨⟨?_, ?_, fun next task => hrest.lock ▸ h.lock next task⟩, hrest.requests, ?_⟩
    · rw [hrest.runner]; exact h.failed
    · rw [hrest.runner]; exact h.intent
    · rw [hrest.runner]
  | entered hop hlock hent =>
    cases hent with
    | same => exact ⟨h, rfl, rfl⟩
    | saving next task hw => exact (hfail rfl (writable_ok hw).2).elim
    | applying => exact ⟨⟨h.failed, h.intent, by simp⟩, rfl, rfl⟩
  | ticked session updated _ _ _ hstorage => exact (hfail rfl hstorage).elim
  | pursued session _ _ _ hstorage => exact (hfail rfl hstorage).elim
  | resumed next task hlock => exact absurd hlock (h.lock next task)
  | failed next task outcome hlock => exact absurd hlock (h.lock next task)
  | released => exact ⟨⟨h.failed, h.intent, by simp⟩, rfl, rfl⟩
  | paused =>
    refine ⟨⟨?_, ?_, fun next task => ?_⟩, pause_requests w, ?_⟩
    · rw [pause_runner]; exact h.failed
    · rw [pause_runner]
    · rw [pause_lock]; exact h.lock next task
    · rw [pause_runner]
  | closed =>
    refine ⟨⟨?_, ?_, fun next task => ?_⟩, pause_requests _, ?_⟩
    · unfold close; rw [pause_runner]; exact h.failed
    · unfold close; rw [pause_runner]
    · unfold close; rw [pause_lock]; exact h.lock next task
    · unfold close; rw [pause_runner]

/-! ## Runs -/

/-- The record of the last save among the first `n` steps that has returned, or the one
    the runner was constructed with. -/
def lastSaved (cfg : RuntimeConfig) (start : Start) (run : List Op) : ℕ → Option SessionIntent
  | 0 => start.session
  | n + 1 =>
    (run[n]?.bind (systemAt cfg start run n).written).getD (lastSaved cfg start run n)

theorem systemAt_succ {start : Start} {run : List Op} {n : ℕ} {op : Op} (h : run[n]? = some op) :
    systemAt cfg start run (n + 1) = ((systemAt cfg start run n).step cfg op).1 :=
  (machine cfg start).stateAt_succ h

theorem systemAt_succ_none {start : Start} {run : List Op} {n : ℕ} (h : run[n]? = none) :
    systemAt cfg start run (n + 1) = systemAt cfg start run n :=
  (machine cfg start).stateAt_succ_none h

/-- The session of the runner is what its storage holds. -/
theorem session_lastSaved (cfg : RuntimeConfig) (start : Start) (run : List Op) (n : ℕ) :
    (systemAt cfg start run n).runner.session = lastSaved cfg start run n := by
  induction n with
  | zero => rfl
  | succ n ih =>
    unfold lastSaved
    cases hop : run[n]? with
    | none => rw [systemAt_succ_none hop]; exact ih
    | some op =>
      rw [systemAt_succ hop, (step_requests cfg _ op).1, ih]
      rfl

/-- A failed save at step `m` ends the runner. -/
theorem dead_after {start : Start} {run : List Op} {m : ℕ} {outcome : SaveOutcome}
    {next : Option SessionIntent} {task : Task} (hop : run[m]? = some (.saved outcome))
    (hout : outcome ≠ .returned) (hlock : (systemAt cfg start run m).lock = .saving next task) :
    ∀ n, m < n → Dead (systemAt cfg start run n) ∧
      (systemAt cfg start run n).requests = (systemAt cfg start run m).requests ∧
      (systemAt cfg start run n).runner.session = (systemAt cfg start run m).runner.session := by
  set before := systemAt cfg start run m with hbefore
  have hsucc : systemAt cfg start run (m + 1) = before.storageFails := by
    rw [systemAt_succ hop]
    simp only [step, saved, ← hbefore, hlock]
    cases outcome with
    | returned => exact absurd rfl hout
    | raised => rfl
    | cancelled => rfl
  intro n hn
  refine (machine cfg start).stateAt_invariant_from (m := m + 1)
    (P := fun w => Dead w ∧ w.requests = before.requests ∧ w.runner.session = before.runner.session)
    ?_ ?_ n hn
  · show Dead (systemAt cfg start run (m + 1)) ∧ _
    rw [show (machine cfg start).stateAt run (m + 1) = before.storageFails from hsucc, hsucc]
    have hintent : before.runner.intent = none :=
      (systemAt_owns cfg start run m).saving next task hlock
    exact ⟨⟨rfl, hintent, by simp [storageFails]⟩, rfl, rfl⟩
  · rintro w op ⟨hdead, hreq, hsession⟩
    obtain ⟨hdead', hreq', hsession'⟩ := step_dead cfg hdead op
    exact ⟨hdead', hreq'.trans hreq, hsession'.trans hsession⟩

/-- **Write-ahead, and fail-closed storage**, in every run: a step only requests the goal
    of the record that was saved last; while a save is in progress no intent of the
    runner is handed out; and after a save that has raised or was cancelled there are no
    further requests, nothing of the runner is handed out, and its session stays. -/
theorem write_ahead (cfg : RuntimeConfig) (start : Start) (run : List Op) :
    (∀ n, ∃ new,
      (systemAt cfg start run (n + 1)).requests = (systemAt cfg start run n).requests ++ new ∧
      ∀ q ∈ new, lastSaved cfg start run (n + 1) = some q.record ∧
        q.record.goal (systemAt cfg start run (n + 1)).state = .ok (q.control, q.goal)) ∧
    (∀ n next task, (systemAt cfg start run n).lock = .saving next task →
      Withholds cfg (systemAt cfg start run n)) ∧
    (∀ m outcome next task, run[m]? = some (.saved outcome) → outcome ≠ .returned →
      (systemAt cfg start run m).lock = .saving next task → ∀ n, m < n →
        (systemAt cfg start run n).requests = (systemAt cfg start run m).requests ∧
        Withholds cfg (systemAt cfg start run n) ∧
        (systemAt cfg start run n).runner.session = (systemAt cfg start run m).runner.session) := by
  refine ⟨fun n => ?_, fun n next task hlock => ?_, fun m outcome next task hop hout hlock n hn => ?_⟩
  · cases hop : run[n]? with
    | none => exact ⟨[], by rw [systemAt_succ_none hop, List.append_nil], by simp⟩
    | some op =>
      rw [← session_lastSaved, systemAt_succ hop]
      exact (step_requests cfg _ op).2
  · have howns := systemAt_owns cfg start run n
    exact prepare_withholds howns (howns.saving next task hlock)
  · obtain ⟨hdead, hreq, hsession⟩ := dead_after hop hout hlock n hn
    exact ⟨hreq, prepare_withholds (systemAt_owns cfg start run n) hdead.intent, hsession⟩

end System

end BalboaRs485
