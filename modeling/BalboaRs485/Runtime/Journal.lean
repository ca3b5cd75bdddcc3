import BalboaRs485.Runtime.Link
import BalboaRs485.Runtime.Metadata
import BalboaRs485.Runtime.Stretch
import BalboaRs485.Transport.Stages

/-!
# The journal of a link

What the steps of a `Link` leave behind is read as a journal. `Journal` is what holds of it at
any point of any step, also between two lines of the loop: the calls in it are a run of the
runtime, and a frame of the participant is written between the `prepare` that has handed it out
and its receipt, with nothing in between.

* `SpaRuntime.step_sound`, `SpaRuntime.sent_sound`: the scheduler of the participant stays sound
  under the calls of its connection and of other tasks, and a receipt of what was just handed
  out never raises.
* `iteration_journals`, `step_journal`: every line of the loop keeps the journal.
* `journal`: the journal of a run.
-/

namespace BalboaRs485

open Proc

namespace SpaRuntime

variable {ρ : Type} {cfg : RuntimeConfig} {w w' : SpaRuntime ρ}

/-! ## The participant -/

/-- What the participant of a runtime keeps between two calls. -/
def Sound (cfg : RuntimeConfig) (w : SpaRuntime ρ) : Prop :=
  Participant.Sound cfg ⟨w.commands, none⟩

theorem sound_init (cfg : RuntimeConfig) (world : ρ) : ({ world } : SpaRuntime ρ).Sound cfg :=
  Participant.sound_of Engine.intentRep_init (Commands.scheduled_idle rfl rfl)
    (Commands.budgeted_zero cfg rfl)

/-- One call of the engine by another task. -/
theorem Sound.engineOp (h : w.Sound cfg) (op : EngineOp) (hop : op.isReceipt = false) :
    (w.setEngine (w.commands.engine.step cfg.engine op).1).Sound cfg :=
  Participant.Sound.asks h (Commands.asks_engine _ cfg.engine op hop)
    (Engine.step_intent cfg.engine h.rep op).1

theorem Sound.request (h : w.Sound cfg) (r : SpaRequest ρ) (edit : Option (FilterEdit ρ)) :
    (w.request cfg r edit).2.Sound cfg := by
  have hasks := w.commands.asks_engine cfg.engine (.request (r.engineRequest w.time)) rfl
  have hrep := (Engine.step_intent cfg.engine h.rep (.request (r.engineRequest w.time))).1
  unfold SpaRuntime.request
  split
  · exact h
  · obtain ⟨e, heq, -⟩ | ⟨intent, -, heq⟩ :=
      Commands.request_case cfg w.commands (r.engineRequest w.time) (r.guard w.snapshot.epoch)
    · rw [heq]
      exact Participant.Sound.asks h hasks hrep
    · rw [heq]
      exact Participant.Sound.asks h (hasks.trans (Commands.asks_guards _ _)) hrep

theorem Sound.stretch (h : w.Sound cfg) {P : FilterEdit ρ → FilterSchedule → Prop}
    (hs : Stretch cfg P w w') : w'.Sound cfg := by
  induction hs with
  | begins => exact h
  | moves _ _ _ ih => exact ih
  | asks _ ih => exact Participant.Sound.refreshFilters ih
  | writes _ _ ih => exact ih.request _ _
  | ticks _ now ih => exact ih.engineOp (.tick now) rfl
  | cancels _ ih => exact ih.engineOp (.cancel .filters none) rfl

/-- `prepare` leaves the participant sound, and ready for the receipt of what it returns. -/
theorem Sound.prepare (h : w.Sound cfg) (now : ℚ) :
    (w.prepare cfg now).1.Sound cfg ∧ ∀ message calls,
      (w.prepare cfg now).2 = .handed (some message) calls →
        Commands.Offers cfg (w.prepare cfg now).1.commands message now := by
  have hprepared := Participant.Sound.prepare h w.callGuard w.world now
  refine ⟨Participant.sound_of hprepared.rep hprepared.scheduled hprepared.budgeted,
    fun message calls hhanded => ?_⟩
  obtain ⟨hmessage, -⟩ := Out.handed.inj hhanded
  refine hprepared.offered message now ?_
  show Option.map _ (w.commands.prepare cfg w.callGuard w.world now).1 = _
  rw [hmessage]
  rfl

/-- A call other than a receipt. -/
def Op.isReceipt : Op ρ → Bool
  | .sent .. => true
  | _ => false

/-- **The participant stays sound** whoever calls the runtime. -/
theorem step_sound (h : w.Sound cfg) (op : Op ρ) (hop : op.isReceipt = false) :
    (w.step cfg op).1.Sound cfg := by
  cases op with
  | clock | world => exact h
  | publish snapshot =>
    show (w.publish snapshot).Sound cfg
    unfold publish
    split <;> exact h
  | update now => exact Participant.Sound.update h w.snapshot now
  | prepare now => exact (h.prepare now).1
  | sent => cases hop
  | received message epoch at_ => exact Participant.Sound.received h message epoch at_
  | disconnected now => exact h.engineOp (.suspend now) rfl
  | request r => exact h.request r none
  | cancel control now => exact h.engineOp (.cancel control now) rfl
  | joined id now => exact h.engineOp (.joined id now) rfl
  | waited now => exact h.engineOp (.tick now) rfl
  | asyncUpdateFilter edit => exact h.stretch (stretch_asyncUpdateFilter cfg w edit)
  | wake => exact h.stretch (stretch_wake cfg w)
  | timeout now => exact h.stretch (stretch_timeout cfg w now)
  | stop => exact h.stretch (stretch_stop cfg w)

/-- **A receipt of what was just handed out never raises.** -/
theorem Sound.sent (h : w.Sound cfg) {message : Transmission} {preparedAt at_ : ℚ}
    {ctsAt : Option ℚ} (hoffers : Commands.Offers cfg w.commands message preparedAt)
    (hat : preparedAt ≤ at_) (hcts : ∀ t, ctsAt = some t → t ≤ at_) (frame : Frame) :
    (w.step cfg (.sent { message with frame } at_ ctsAt)).2 = .receipt (.ok ()) ∧
      (w.step cfg (.sent { message with frame } at_ ctsAt)).1.Sound cfg := by
  have hoffered : Participant.Sound cfg (⟨w.commands, some (message, preparedAt)⟩ :
      Participant (Predicate ρ)) :=
    ⟨h.rep, h.scheduled, h.budgeted, fun _ _ ho => by cases ho; exact hoffers⟩
  have hreports : (⟨w.commands, some (message, preparedAt)⟩ : Participant (Predicate ρ)).reports at_
      ctsAt = some message := by
    have hall : ctsAt.all (· ≤ at_) = true := by
      cases ctsAt with
      | none => rfl
      | some t => simpa using hcts t rfl
    simp [Participant.reports, hat, hall]
  obtain ⟨hok, -, hsound⟩ := hoffered.sent hreports frame
  exact ⟨congrArg Out.receipt hok, hsound⟩

end SpaRuntime

namespace Connection

/-! ## The status of a connection -/

/-- The connection is open, and its status comes with the time it was received at. -/
structure Live (c : Connection) : Prop where
  phase : c.phase = .opened
  dated : c.status ≠ none → c.lastStatus ≠ none

/-- Without a socket there is no status. -/
structure Dark (c : Connection) : Prop where
  phase : c.phase ≠ .opened
  status : c.status = none

/-- Between two steps. -/
def Settled (c : Connection) : Prop := c.Live ∨ c.Dark

theorem dark_teardown (c : Connection) {phase : Phase} (h : phase ≠ .opened) :
    (c.teardown phase).Dark := ⟨h, rfl⟩

theorem Dark.connect {c : Connection} (h : c.Dark) (cfg : ConnectionConfig) (nonce : Nonce)
    (opening : Opening) : (c.connect cfg nonce opening).Settled := by
  unfold Connection.connect
  split
  · exact Or.inr h
  · cases opening with
    | opened => exact Or.inl ⟨rfl, fun hstatus => absurd h.status hstatus⟩
    | failed => exact Or.inr (dark_teardown _ nofun)
    | cancelled => exact Or.inr (dark_teardown _ nofun)

theorem Live.absorb {c : Connection} (h : c.Live) (now : ℚ) (frame : Frame) :
    (Connection.absorb now c frame).Live := by
  unfold Connection.absorb
  split
  · exact h
  · next message _ =>
    cases message with
    | status m => exact ⟨h.phase, fun _ => nofun⟩
    | information | capabilities =>
      simp only [take]
      split <;> exact ⟨h.phase, h.dated⟩
    | _ => exact ⟨h.phase, h.dated⟩

theorem Live.veto {c : Connection} (h : c.Live) (cfg : ConnectionConfig) (previous : Bool) :
    (c.veto cfg previous).Live := by
  unfold Connection.veto
  split
  · exact ⟨h.phase, h.dated⟩
  · exact h

theorem Live.commit {c : Connection} (h : c.Live) (cfg : ConnectionConfig) : (c.commit cfg).Live := by
  unfold Connection.commit
  split
  · split
    · exact h
    · exact ⟨h.phase, h.dated⟩
  · exact h

theorem Live.settle {c : Connection} (h : c.Live) (cfg : ConnectionConfig) (now : ℚ) :
    (c.settle cfg now).Live := by
  unfold Connection.settle
  split
  · exact ⟨h.phase, h.dated⟩
  · exact h

theorem Live.detect {c : Connection} (h : c.Live) (degraded : Bool) : (c.detect degraded).Live := by
  unfold Connection.detect
  split
  · exact ⟨h.phase, h.dated⟩
  · exact h

end Connection

namespace Link

variable {ρ α : Type} {cfg : LinkConfig} {i : Input ρ} {w : Link ρ} {out : List (Event ρ)}

/-! ## The journal -/

/-- Nothing the participant transmits, and no receipt. -/
def Event.plain : Event ρ → Bool
  | .effect (.write w) => w.site ≠ .participant
  | .effect .beginSync => true
  | .call op _ => ¬ op.isReceipt

/-- What was handed out is written, readdressed, and its receipt is accepted. -/
def exchange (i : Input ρ) (message : Transmission)
    (calls : List (Commands.GuardCall (Predicate ρ) ρ))
    (policy : BusPolicy) : List (Event ρ) :=
  let frame := message.frame.readdress policy.address
  [.call (.prepare i.now) (.handed (some message) calls),
    .effect (.write ⟨.participant, frame, i.clock .participant⟩),
    .call (.sent { message with frame } i.receiptAt (ctsAt policy i.now)) (.receipt (.ok ()))]

/-- A journal in which the participant only transmits in exchanges. -/
inductive Exchanges : List (Event ρ) → Prop
  | nil : Exchanges []
  | plain {out : List (Event ρ)} (h : Exchanges out) (event : Event ρ)
      (hplain : event.plain = true) : Exchanges (out ++ [event])
  | exchange {out : List (Event ρ)} (h : Exchanges out) (i : Input ρ) (message : Transmission)
      (calls : List (Commands.GuardCall (Predicate ρ) ρ)) (policy : BusPolicy) :
      Exchanges (out ++ exchange i message calls policy)

/-- The journal of a link whose runtime was `start` before it, while its connection is in `D`. -/
structure Journal (cfg : LinkConfig) (start : SpaRuntime ρ) (D : Connection → Prop)
    (out : List (Event ρ)) (w : Link ρ) : Prop where
  state : w.runtime =
    (SpaRuntime.machine cfg.runtime start.world).runFrom start ((calls out).map Prod.fst)
  trace : calls out =
    (SpaRuntime.machine cfg.runtime start.world).traceFrom start ((calls out).map Prod.fst)
  exchanges : Exchanges out
  sound : w.runtime.Sound cfg.runtime
  connection : D w.connection

variable {start : SpaRuntime ρ} {D D' : Connection → Prop}

theorem calls_append (a b : List (Event ρ)) : calls (a ++ b) = calls a ++ calls b :=
  List.filterMap_append

theorem effects_append (a b : List (Event ρ)) : effects (a ++ b) = effects a ++ effects b :=
  List.filterMap_append

@[simp] theorem calls_effects (es : List Effect) : calls (es.map (Event.effect (ρ := ρ))) = [] := by
  simp [calls]

@[simp] theorem effects_effects (es : List Effect) :
    effects (es.map (Event.effect (ρ := ρ))) = es := by
  simp [effects, List.filterMap_map]

theorem Journal.moved (h : Journal cfg start D out w) {c : Connection} (hc : D' c) :
    Journal cfg start D' out { w with connection := c } :=
  ⟨h.state, h.trace, h.exchanges, h.sound, hc⟩

/-- The calls grow by what the runtime has answered. -/
theorem Journal.traced (h : Journal cfg start D out w) (op : SpaRuntime.Op ρ) :
    let after := out ++ [.call op (w.runtime.step cfg.runtime op).2]
    (w.runtime.step cfg.runtime op).1 =
        (SpaRuntime.machine cfg.runtime start.world).runFrom start ((calls after).map Prod.fst) ∧
      calls after =
        (SpaRuntime.machine cfg.runtime start.world).traceFrom start ((calls after).map Prod.fst) := by
  dsimp only
  have hcalls : calls (out ++ [.call op (w.runtime.step cfg.runtime op).2]) =
      calls out ++ [(op, (w.runtime.step cfg.runtime op).2)] := calls_append _ _
  rw [hcalls, List.map_append, Machine.runFrom_append, Machine.traceFrom_append, ← h.state, ← h.trace]
  exact ⟨rfl, rfl⟩

theorem Journal.call (h : Journal cfg start D out w) (op : SpaRuntime.Op ρ)
    (hop : op.isReceipt = false) :
    Journal cfg start D (out ++ [.call op (w.runtime.step cfg.runtime op).2])
      { w with runtime := (w.runtime.step cfg.runtime op).1 } where
  state := (h.traced op).1
  trace := (h.traced op).2
  exchanges := h.exchanges.plain _ (by simp [Event.plain, hop])
  sound := SpaRuntime.step_sound h.sound op hop
  connection := h.connection

/-- Effects that the participant has no part in. -/
def Apart (es : List Effect) : Prop := ∀ w, .write w ∈ es → w.site ≠ .participant

theorem Journal.effects (h : Journal cfg start D out w) {c : Connection} {es : List Effect}
    (hes : Apart es) (hc : D c) :
    Journal cfg start D (out ++ es.map .effect) { w with connection := c } where
  state := by
    rw [calls_append, calls_effects, List.append_nil]
    exact h.state
  trace := by
    rw [calls_append, calls_effects, List.append_nil]
    exact h.trace
  exchanges := by
    have hout := h.exchanges
    clear h
    induction es generalizing out with
    | nil => simpa using hout
    | cons e es ih =>
      have hplain : (Event.effect (ρ := ρ) e).plain = true := by
        cases e with
        | write w => simpa [Event.plain] using hes w List.mem_cons_self
        | beginSync => rfl
      have hrest := ih (fun w hw => hes w (List.mem_cons_of_mem _ hw)) (hout.plain _ hplain)
      simpa using hrest
  sound := h.sound
  connection := hc

/-! ## What keeps it -/

/-- An exception of the connection. -/
def Error.ofConnection : Error → Prop
  | .connection _ => True
  | _ => False

/-- A procedure that keeps the journal and lets no exception of the participant out. -/
abbrev Journals (cfg : LinkConfig) (start : SpaRuntime ρ) (D : Connection → Prop)
    (m : LinkProc ρ α) : Prop :=
  Keeps (Journal cfg start D) Error.ofConnection m

theorem perform_journals {op : SpaRuntime.Op ρ} (hop : op.isReceipt = false) :
    Journals cfg start D (perform cfg op) :=
  fun _ _ h => h.call op hop

/-- A stage of the connection that leaves the turn of the participant alone. -/
def Quiet (m : SessionProc α) : Prop :=
  Keeps (fun es c => Apart es ∧ c.Live) (fun _ => True) m

theorem apart_nil : Apart [] := fun _ h => nomatch h

theorem attempt_journals {m : SessionProc α} (hm : Quiet m) :
    Journals cfg start Connection.Live (attempt m) := by
  intro w out h
  obtain ⟨⟨hes, hlive⟩, -⟩ := hm.run ⟨apart_nil, h.connection⟩
  exact h.effects hes hlive

theorem conclude_journals (r : Except ConnectionError α) : Journals cfg start D (conclude r) := by
  cases r with
  | ok a => exact keeps_pure a
  | error e => exact keeps_raise trivial

theorem stage_journals {m : SessionProc α} (hm : Quiet m) :
    Journals cfg start Connection.Live (stage m) :=
  (attempt_journals hm).bind fun ended => conclude_journals ended.2

theorem mirror_journals : Journals cfg start D (mirror cfg) :=
  keeps_get.bind fun _ => (perform_journals rfl).bind fun _ => keeps_pure ()

theorem foreign_isReceipt {op : SpaRuntime.Op ρ} (h : op.foreign = true) : op.isReceipt = false := by
  cases op with
  | sent => cases h
  | _ => rfl

theorem others_journals (calls : List (Call ρ)) : Journals cfg start D (others cfg calls) := by
  induction calls with
  | nil => exact keeps_pure ()
  | cons call calls ih =>
    exact mirror_journals.bind fun _ =>
      (perform_journals (foreign_isReceipt call.property)).bind fun _ => ih

theorem drainingStage_journals (calls : List (Call ρ)) {m : SessionProc α} (hm : Quiet m) :
    Journals cfg start Connection.Live (drainingStage cfg calls m) :=
  (attempt_journals hm).bind fun ended =>
    (others_journals calls).when.bind fun _ => conclude_journals ended.2

/-! ## Quiet stages -/

section Quiet

variable {c : ConnectionConfig} {j : Iteration}

theorem quiet_modify {f : Connection → Connection} (hf : ∀ c, c.Live → (f c).Live) :
    Quiet (.modify f) :=
  keeps_modify fun c _ h => ⟨h.1, hf c h.2⟩

theorem quiet_emit {e : Effect} (he : Apart [e]) : Quiet (.emit e) := by
  refine keeps_emit fun _ es h => ⟨fun w hw => ?_, h.2⟩
  rcases List.mem_append.mp hw with hw | hw
  · exact h.1 w hw
  · exact he w hw

theorem apart_write {w : Write} (hw : w.site ≠ .participant) : Apart [.write w] := by
  intro w' hw'
  obtain rfl := Effect.write.inj (List.mem_singleton.mp hw')
  exact hw

theorem awaitDrain_quiet (site : Site) : Quiet (Connection.awaitDrain j site) := by
  unfold Connection.awaitDrain
  split
  · exact keeps_pure ()
  · exact keeps_raise trivial
  · exact keeps_raise trivial

theorem receive_quiet : Quiet (Connection.receive c j) := by
  have hread : Quiet (Connection.readChunk j) := by
    unfold Connection.readChunk
    split
    · exact keeps_pure _
    · exact keeps_raise trivial
    · exact keeps_pure _
    · exact keeps_raise trivial
    · exact keeps_raise trivial
  have hfirst : Quiet (Connection.awaitFirstFrame c j) :=
    keeps_get.bind fun _ => (keeps_raise trivial).when
  have hfeed : ∀ chunk, Quiet (Connection.feed j chunk) := fun chunk =>
    keeps_get.bind fun _ => .ite (keeps_pure _)
      (.bind (quiet_modify fun _ h => ⟨h.phase, h.dated⟩) fun _ => keeps_pure _)
  have hexpire : Quiet (Connection.expireQuery c j) :=
    keeps_get.bind fun _ => .ite
      (.bind (quiet_modify fun _ h => ⟨h.phase, h.dated⟩) fun _ => (keeps_raise trivial).when)
      (keeps_pure _)
  exact hread.bind fun chunk => hfirst.bind fun _ => (hfeed chunk).bind fun _ =>
    hexpire.bind fun _ => keeps_pure _

theorem answerManagement_quiet (response : Frame) :
    Quiet (Connection.answerManagement c j response) := by
  have hsent : Quiet (do
      .emit (.write ⟨.management, response, j.clock .management⟩)
      .modify fun c => c.managementSent response j.now
      Connection.awaitDrain j .management
      return true) :=
    .bind (quiet_emit (apart_write nofun)) fun _ =>
      .bind (quiet_modify fun _ h => ⟨h.phase, h.dated⟩) fun _ =>
      (awaitDrain_quiet _).bind fun _ => keeps_pure _
  exact keeps_get.bind fun _ => .ite
    (.ite (.bind (quiet_modify fun _ h => ⟨h.phase, h.dated⟩) fun _ => keeps_pure _) hsent)
    (keeps_pure _)

theorem manage_quiet (frames : List Frame) : Quiet (Connection.manage c j frames) := by
  refine .bind (quiet_modify fun _ h => ⟨h.phase, h.dated⟩) fun _ => keeps_get.bind fun d =>
    .ite (keeps_raise trivial)
      (.ite (.bind (quiet_modify fun _ h => ⟨h.phase, h.dated⟩) fun _ => ?_) (keeps_pure _))
  split
  · exact keeps_pure _
  · exact answerManagement_quiet _

theorem awaitTraffic_quiet : Quiet (Connection.awaitTraffic c j) :=
  keeps_get.bind fun _ => .ite (keeps_raise trivial) (keeps_pure _)

theorem transmit_quiet {frames : List Frame} (site : Site) {frame : Connection → Frame}
    {update : Connection → Connection} (hsite : site ≠ .participant)
    (hupdate : ∀ c, c.Live → (update c).Live) :
    Quiet (Connection.transmit c j frames site frame update) := by
  refine keeps_get.bind fun d => ?_
  split
  · exact keeps_pure _
  · next policy _ =>
    exact .bind (quiet_modify fun c h => hupdate { c with policy } ⟨h.phase, h.dated⟩) fun _ =>
      keeps_get.bind fun _ => .bind (quiet_emit (apart_write hsite)) fun _ => awaitDrain_quiet _

theorem synchronize_quiet (degraded : Bool) : Quiet (Connection.synchronize c j degraded) := by
  have hstart : Quiet (Connection.startSync c j) :=
    keeps_get.bind fun _ => .ite
      (.bind (quiet_modify fun _ h => ⟨h.phase, h.dated⟩) fun _ =>
        quiet_emit fun w hw => by simp at hw)
      (keeps_pure _)
  have hawait : Quiet (Connection.awaitSync c j) :=
    keeps_get.bind fun _ => (keeps_raise trivial).when
  exact hstart.bind fun _ => .bind (quiet_modify fun _ h => (h.commit c).settle c j.now) fun _ =>
    hawait.bind fun _ => quiet_modify fun _ h => ⟨h.phase, h.dated⟩

theorem progress_quiet (frames : List Frame) (degraded sent : Bool) :
    Quiet (Connection.progress c j frames degraded sent) := by
  have hquery : Quiet (Connection.query c j frames degraded sent) :=
    keeps_get.bind fun _ =>
      Keeps.when (transmit_quiet .query (by decide) fun _ h => ⟨h.phase, h.dated⟩)
  exact keeps_get.bind fun _ => .ite ((synchronize_quiet degraded).bind fun _ => hquery)
    (quiet_modify fun _ h => h.detect degraded)

theorem idle_quiet (frames : List Frame) (sent : Bool) : Quiet (Connection.idle c j frames sent) := by
  refine keeps_get.bind fun d => ?_
  split
  · exact keeps_pure _
  · exact (transmit_quiet .idle (by decide) fun _ h => h).when

end Quiet

/-! ## The turn of the participant -/

section Turn

variable {Q : Unit → Link ρ → List (Event ρ) → Prop} {E : Error → Link ρ → List (Event ρ) → Prop}

theorem wp_perform {Q : SpaRuntime.Out ρ → Link ρ → List (Event ρ) → Prop} (op : SpaRuntime.Op ρ) :
    wp (perform cfg op) Q E w out ↔ Q (w.runtime.step cfg.runtime op).2
      { w with runtime := (w.runtime.step cfg.runtime op).1 }
      (out ++ [.call op (w.runtime.step cfg.runtime op).2]) := Iff.rfl

theorem wp_stage_modify (f : Connection → Connection) :
    wp (stage (.modify f)) Q E w out ↔ Q () { w with connection := f w.connection } out := by
  unfold stage
  rw [wp_bind]
  show wp (conclude (.ok ())) Q E { w with connection := f w.connection } (out ++ []) ↔ _
  rw [List.append_nil]
  exact wp_pure ()

theorem wp_stage_emit (e : Effect) :
    wp (stage (.emit e)) Q E w out ↔ Q () w (out ++ [.effect e]) := by
  unfold stage
  rw [wp_bind]
  show wp (conclude (.ok ())) Q E w (out ++ [.effect e]) ↔ _
  exact wp_pure ()

theorem ctsAt_le (policy : BusPolicy) (i : Input ρ) :
    ∀ t, ctsAt policy i.now = some t → t ≤ i.receiptAt := by
  intro t ht
  unfold ctsAt at ht
  split at ht
  · cases ht
  · cases ht
    exact i.forward

/-- The exchange of what was just handed out. -/
theorem transmit_journals {frames : List Frame} {message : Transmission}
    {guards : List (Commands.GuardCall (Predicate ρ) ρ)} (h : Journal cfg start Connection.Live out w)
    (hhanded : (w.runtime.prepare cfg.runtime i.now).2 = .handed (some message) guards) :
    wp (transmit cfg i frames message) (fun _ w out => Journal cfg start Connection.Live out w)
      (fun e w out => e.ofConnection ∧ Journal cfg start Connection.Live out w)
      { w with runtime := (w.runtime.prepare cfg.runtime i.now).1 }
      (out ++ [.call (.prepare i.now) (w.runtime.prepare cfg.runtime i.now).2]) := by
  obtain ⟨hsound, hoffers⟩ := h.sound.prepare i.now
  have hprepared := h.call (.prepare i.now) rfl
  unfold transmit
  rw [wp_bind, wp_get]
  cases hadm : w.connection.admission cfg.connection i.alone frames .participant with
  | none => exact (wp_pure ()).mpr hprepared
  | some policy =>
    obtain ⟨hok, hafter⟩ := hsound.sent (hoffers message guards hhanded) i.forward
      (ctsAt_le policy i) (message.frame.readdress policy.address)
    dsimp only
    rw [wp_bind, wp_stage_modify, wp_bind, wp_stage_emit, wp_bind, report, wp_bind, wp_perform]
    dsimp only
    rw [hok]
    -- the receipt was accepted, so the journal has grown by the whole exchange
    refine (wp_pure ()).mpr ?_
    have hjournal : Journal cfg start Connection.Live (out ++ exchange i message guards policy)
        ⟨{ w.connection with policy }, ((w.runtime.prepare cfg.runtime i.now).1.step cfg.runtime
          (.sent { message with frame := message.frame.readdress policy.address } i.receiptAt
            (ctsAt policy i.now))).1⟩ := by
      have htraced := hprepared.traced (.sent
        { message with frame := message.frame.readdress policy.address } i.receiptAt
        (ctsAt policy i.now))
      have hcalls : calls (out ++ exchange i message guards policy) =
          calls ((out ++ [.call (.prepare i.now) (w.runtime.prepare cfg.runtime i.now).2]) ++
            [.call (.sent { message with frame := message.frame.readdress policy.address } i.receiptAt
              (ctsAt policy i.now)) (.receipt (.ok ()))]) := by
        rw [calls_append, calls_append, calls_append, hhanded, List.append_assoc]
        rfl
      rw [show ((w.runtime.step cfg.runtime (.prepare i.now)).1.step cfg.runtime _).2 = _ from hok]
        at htraced
      refine ⟨?_, ?_, h.exchanges.exchange i message guards policy, hafter,
        ⟨h.connection.phase, h.connection.dated⟩⟩
      · rw [hcalls]
        exact htraced.1
      · rw [hcalls]
        exact htraced.2
    have hevents : out ++ [.call (.prepare i.now) (w.runtime.prepare cfg.runtime i.now).2] ++
        [.effect (.write ⟨.participant, message.frame.readdress policy.address,
          i.clock .participant⟩)] ++
        [.call (.sent { message with frame := message.frame.readdress policy.address } i.receiptAt
          (ctsAt policy i.now)) (.receipt (.ok ()))] = out ++ exchange i message guards policy := by
      rw [hhanded, List.append_assoc, List.append_assoc]
      rfl
    rw [hevents]
    exact ((others_journals (i.calls .participant)).bind fun _ =>
      stage_journals (awaitDrain_quiet .participant)) _ _ hjournal

theorem offer_journals (frames : List Frame) (sent : Bool) :
    Journals cfg start Connection.Live (offer cfg i frames sent) := by
  intro w out h
  have hprepared := h.call (.prepare i.now) rfl
  unfold offer
  rw [wp_bind, wp_perform]
  have hstep : w.runtime.step cfg.runtime (.prepare i.now) = w.runtime.prepare cfg.runtime i.now := rfl
  rw [hstep] at hprepared ⊢
  cases hhanded : (w.runtime.prepare cfg.runtime i.now).2 with
  | handed message guards =>
    rw [hhanded] at hprepared
    cases message with
    | none => exact (wp_pure ()).mpr hprepared
    | some message =>
      refine wp_when (fun _ => ?_) fun _ => hprepared
      rw [← hhanded]
      exact transmit_journals h hhanded
  | _ =>
    rw [hhanded] at hprepared
    exact (wp_pure ()).mpr hprepared

end Turn

/-! ## The loop -/

theorem hear_journals (now : ℚ) (frames : List Frame) :
    Journals cfg start Connection.Live (hear cfg now frames) := by
  induction frames with
  | nil => exact keeps_pure ()
  | cons frame frames ih =>
    refine keeps_get.bind fun w => ?_
    split
    · exact ih
    · exact (stage_journals (quiet_modify fun _ h => h.absorb now frame)).bind fun _ =>
        (perform_journals rfl).bind fun _ => ih

theorem observe_journals (now : ℚ) (frames : List Frame) :
    Journals cfg start Connection.Live (observe cfg now frames) :=
  keeps_get.bind fun _ => (hear_journals now frames).bind fun _ =>
    stage_journals (quiet_modify fun _ h => h.veto cfg.connection _)

/-- A status has its time, so the participant is never shown one without it. -/
theorem assertion_journals :
    Journals cfg start Connection.Live (do
      let w ← .get
      .when (Undated w.connection) (.raise .assertion) : LinkProc ρ Unit) := by
  intro w out h
  rw [wp_bind, wp_get]
  exact wp_when (fun hundated => absurd hundated.2.2 (h.connection.dated hundated.2.1)) fun _ => h

theorem participate_journals (frames : List Frame) (sent : Bool) :
    Journals cfg start Connection.Live (participate cfg i frames sent) := by
  have hrest : Journals cfg start Connection.Live (do
      let _ ← perform cfg (.update i.now)
      let w ← .get
      if w.runtime.commands.engine.resyncEpoch = some w.connection.epoch then
        .raise (.connection .resynchronization)
      else .when (w.connection.state = .ready) (offer cfg i frames sent)) :=
    (perform_journals rfl).bind fun _ => keeps_get.bind fun w =>
      Keeps.ite (keeps_raise trivial) (offer_journals frames sent).when
  exact mirror_journals.bind fun _ => assertion_journals.bind fun _ => hrest

theorem progress_journals (frames : List Frame) (degraded sent : Bool) :
    Journals cfg start Connection.Live (progress cfg i frames degraded sent) :=
  keeps_get.bind fun _ => drainingStage_journals _ (progress_quiet frames degraded sent)

/-- **Every line of the loop keeps the journal**, and the participant never raises. -/
theorem iteration_journals (i : Input ρ) : Journals cfg start Connection.Live (iteration cfg i) :=
  (stage_journals receive_quiet).bind fun frames =>
    (observe_journals i.now frames).bind fun _ =>
      (drainingStage_journals _ (manage_quiet frames)).bind fun sent =>
        (stage_journals awaitTraffic_quiet).bind fun degraded =>
          (progress_journals frames degraded sent).bind fun _ =>
            (participate_journals frames sent).bind fun _ =>
              drainingStage_journals _ (idle_quiet frames sent)

theorem phase_not_opened (e : Error) : e.phase ≠ .opened := by
  cases e with
  | connection e => cases e <;> nofun
  | participant | assertion => nofun

theorem iterate_journal (h : Journal cfg start Connection.Live out w) (i : Input ρ) :
    Journal cfg start Connection.Settled (out ++ (iterate cfg i w).2) (iterate cfg i w).1 := by
  obtain ⟨hrun, -⟩ := (iteration_journals i).run h
  unfold iterate
  rcases hr : iteration cfg i w with ⟨w', events, e | _⟩ <;> rw [hr] at hrun
  · -- the `finally` block loses the status, and tells the participant
    have hclosed : Journal cfg start Connection.Settled (out ++ events)
        { w' with connection := w'.connection.teardown e.phase } :=
      hrun.moved (Or.inr (Connection.dark_teardown _ (phase_not_opened e)))
    rw [← List.append_assoc]
    exact hclosed.call (.disconnected i.closedAt) rfl
  · exact hrun.moved (Or.inl hrun.connection)

theorem connect_journal (h : Journal cfg start Connection.Dark out w) (nonce : Nonce)
    (opening : Connection.Opening) (calls : List (Call ρ)) (closedAt : ℚ) :
    Journal cfg start Connection.Settled (out ++ (connect cfg nonce opening calls closedAt w).2.1)
      (connect cfg nonce opening calls closedAt w).1 := by
  have hothers : Journals cfg start Connection.Dark (others cfg calls) := others_journals calls
  suffices hsuff : wp (connect cfg nonce opening calls closedAt)
      (fun _ w out => Journal cfg start Connection.Settled out w)
      (fun e w out => e.ofConnection ∧ Journal cfg start Connection.Settled out w) w out from
    (wp_outcome hsuff).1
  unfold connect
  rw [wp_bind, wp_get, wp_bind, wp_stage_modify, wp_bind]
  refine wp_mono (hothers _ _ (h.moved ⟨h.connection.phase, h.connection.status⟩)) ?_ fun _ _ _ h' =>
    ⟨h'.1, h'.2.moved (Or.inr h'.2.connection)⟩
  intro _ w' out' h'
  rw [wp_bind, wp_stage_modify]
  have hopened := h'.moved (h.connection.connect cfg.connection nonce opening)
  split
  · exact (wp_pure ()).mpr hopened
  · exact hopened.call (.disconnected closedAt) rfl

/-- Every step keeps the journal. -/
theorem step_journal (h : Journal cfg start Connection.Settled out w) (op : Op ρ) :
    Journal cfg start Connection.Settled (out ++ (step cfg w op).2) (step cfg w op).1 := by
  have hsame : Journal cfg start Connection.Settled (out ++ []) w := by rwa [List.append_nil]
  cases op with
  | connect nonce opening calls closedAt =>
    simp only [step]
    split
    · next hphase =>
      have hdark : w.connection.Dark := h.connection.resolve_left fun hlive => by
        rw [hlive.phase] at hphase
        cases hphase
      exact connect_journal (h.moved hdark) nonce opening calls closedAt
    · exact hsame
  | iterate i =>
    simp only [step]
    split
    · next hphase =>
      have hlive : w.connection.Live := h.connection.resolve_right fun hdark => hdark.phase hphase
      exact iterate_journal (h.moved hlive) i
    · exact hsame
  | call call => exact ((others_journals [call]).run h).1

variable {nonce : Nonce} {world : ρ} {run : List (Op ρ)}

theorem linkAt_succ {n : ℕ} {op : Op ρ} (h : run[n]? = some op) :
    linkAt cfg nonce world run (n + 1) = (step cfg (linkAt cfg nonce world run n) op).1 :=
  (machine cfg nonce world).stateAt_succ h

theorem linkAt_succ_none {n : ℕ} (h : run[n]? = none) :
    linkAt cfg nonce world run (n + 1) = linkAt cfg nonce world run n :=
  (machine cfg nonce world).stateAt_succ_none h

theorem log_zero : log cfg nonce world run 0 = [] := by simp [log]

theorem log_succ {n : ℕ} {op : Op ρ} (h : run[n]? = some op) :
    log cfg nonce world run (n + 1) =
      log cfg nonce world run n ++ (step cfg (linkAt cfg nonce world run n) op).2 := by
  unfold log
  rw [List.take_add_one, Machine.trace_getElem?, h, List.flatMap_append]
  simp [machine, linkAt]

theorem log_succ_none {n : ℕ} (h : run[n]? = none) :
    log cfg nonce world run (n + 1) = log cfg nonce world run n := by
  unfold log
  rw [List.take_add_one, Machine.trace_getElem?, h]
  simp

/-- **The journal of a run.** -/
theorem journal (cfg : LinkConfig) (nonce : Nonce) (world : ρ) (run : List (Op ρ)) (n : ℕ) :
    Journal cfg { world } Connection.Settled (log cfg nonce world run n)
      (linkAt cfg nonce world run n) := by
  induction n with
  | zero =>
    rw [log_zero]
    exact ⟨rfl, rfl, .nil, SpaRuntime.sound_init cfg.runtime world, Or.inr ⟨nofun, rfl⟩⟩
  | succ n ih =>
    cases h : run[n]? with
    | none =>
      rw [log_succ_none h, linkAt_succ_none h]
      exact ih
    | some op =>
      rw [log_succ h, linkAt_succ h]
      exact step_journal ih op

end Link

end BalboaRs485
