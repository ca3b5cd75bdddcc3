import BalboaRs485.Runtime.Journal

/-!
# Both parts of a link are what they are alone

A `Link` refines `connectionMachine` and `SpaRuntime.machine`: whatever its two parts do together
is a run of each of them alone. The answers that the connection gets from its participant are the
ones it is given in that run, and every exception of its loop is one of its own.

* `Mirrors`: a procedure of the link does to the connection what a procedure of the session
  does.
* `iteration_mirrors`: an iteration of the link is an iteration of the connection, for some
  answers of its participant.
* `link_refines`: every run of a link is a run of its connection and a run of its runtime.
-/

namespace BalboaRs485

open Proc

namespace Link

variable {ρ α β : Type} {cfg : LinkConfig} {i : Input ρ} {w : Link ρ}

/-! ## Procedures of the session -/

/-- What `m` does to the connection, `m'` does. -/
structure Mirrors (w : Link ρ) (m : LinkProc ρ α) (m' : SessionProc α) : Prop where
  connection : (m w).1.connection = (m' w.connection).1
  effects : effects (m w).2.1 = (m' w.connection).2.1
  result : (m w).2.2 = (m' w.connection).2.2.mapError Error.connection

/-- `m` returns without touching the connection. -/
structure Aside (w : Link ρ) (m : LinkProc ρ α) : Prop where
  connection : (m w).1.connection = w.connection
  effects : effects (m w).2.1 = []
  returns : ∃ a, (m w).2.2 = .ok a

variable {m : LinkProc ρ α} {m' : SessionProc α} {f : α → LinkProc ρ β} {f' : α → SessionProc β}

theorem mirrors_pure (a : α) : Mirrors w (pure a) (pure a) := ⟨rfl, rfl, rfl⟩

theorem mirrors_raise (e : ConnectionError) :
    Mirrors w (.raise (.connection e) : LinkProc ρ α) (.raise e) := ⟨rfl, rfl, rfl⟩

theorem Mirrors.bind (h : Mirrors w m m')
    (hf : ∀ a, (m w).2.2 = .ok a → Mirrors (m w).1 (f a) (f' a)) :
    Mirrors w (m >>= f) (m' >>= f') := by
  obtain ⟨hconnection, heffects, hresult⟩ := h
  rcases hm : m w with ⟨w₁, events, r⟩
  rcases hm' : m' w.connection with ⟨c₁, es, e | a⟩ <;>
    rw [hm, hm'] at hconnection heffects hresult <;>
    dsimp only at hconnection heffects hresult
  · obtain rfl : r = .error (.connection e) := hresult
    refine ⟨?_, ?_, ?_⟩ <;> rw [bind_error f hm, bind_error f' hm']
    · exact hconnection
    · exact heffects
    · rfl
  · obtain rfl : r = .ok a := hresult
    rw [hm] at hf
    obtain ⟨hc, he, hr⟩ := hf a rfl
    dsimp only at hc he hr
    rw [hconnection] at hc he hr
    refine ⟨?_, ?_, ?_⟩ <;> rw [bind_ok f hm, bind_ok f' hm']
    · exact hc
    · rw [effects_append, heffects, he]
    · exact hr

/-- What comes later may depend on answers that are only known then. -/
theorem Mirrors.bind_exists {X : Type} (x₀ : X) {f' : X → α → SessionProc β} (h : Mirrors w m m')
    (hf : ∀ a, (m w).2.2 = .ok a → ∃ x, Mirrors (m w).1 (f a) (f' x a)) :
    ∃ x, Mirrors w (m >>= f) (m' >>= f' x) := by
  cases hr : (m w).2.2 with
  | error e =>
    refine ⟨x₀, h.bind fun a ha => ?_⟩
    rw [hr] at ha
    cases ha
  | ok a =>
    obtain ⟨x, hx⟩ := hf a hr
    refine ⟨x, h.bind fun b hb => ?_⟩
    rw [hr] at hb
    cases hb
    exact hx

theorem Aside.bind {m'' : SessionProc β} (h : Aside w m)
    (hf : ∀ a, (m w).2.2 = .ok a → Mirrors (m w).1 (f a) m'') : Mirrors w (m >>= f) m'' := by
  obtain ⟨hconnection, heffects, a, hresult⟩ := h
  rcases hm : m w with ⟨w₁, events, r⟩
  rw [hm] at hconnection heffects hresult hf
  dsimp only at hconnection heffects hresult
  subst hresult
  obtain ⟨hc, he, hr⟩ := hf a rfl
  dsimp only at hc he hr
  rw [hconnection] at hc he hr
  refine ⟨?_, ?_, ?_⟩ <;> rw [bind_ok f hm]
  · exact hc
  · rw [effects_append, heffects, he, List.nil_append]
  · exact hr

theorem Aside.andThen {f : α → LinkProc ρ β} (h : Aside w m)
    (hf : ∀ a, (m w).2.2 = .ok a → Aside (m w).1 (f a)) : Aside w (m >>= f) := by
  obtain ⟨hconnection, heffects, a, hresult⟩ := h
  rcases hm : m w with ⟨w₁, events, r⟩
  rw [hm] at hconnection heffects hresult hf
  dsimp only at hconnection heffects hresult
  subst hresult
  obtain ⟨hc, he, hr⟩ := hf a rfl
  refine ⟨?_, ?_, ?_⟩ <;> rw [bind_ok f hm]
  · exact hc.trans hconnection
  · rw [effects_append, heffects, he]
    rfl
  · exact hr

theorem aside_pure (a : α) : Aside w (pure a) := ⟨rfl, rfl, a, rfl⟩

theorem aside_perform (op : SpaRuntime.Op ρ) : Aside w (perform cfg op) := ⟨rfl, rfl, _, rfl⟩

theorem aside_mirror : Aside w (mirror cfg) :=
  Aside.andThen (m := .get) ⟨rfl, rfl, w, rfl⟩ fun _ _ =>
    (aside_perform _).andThen fun _ _ => aside_pure ()

theorem aside_others (calls : List (Call ρ)) : Aside w (others cfg calls) := by
  induction calls generalizing w with
  | nil => exact aside_pure ()
  | cons call calls ih =>
    exact aside_mirror.andThen fun _ _ => (aside_perform _).andThen fun _ _ => ih

theorem Aside.when {p : Prop} [Decidable p] {m : LinkProc ρ Unit} (h : Aside w m) :
    Aside w (Proc.when p m) := by
  unfold Proc.when
  split
  · exact h
  · exact aside_pure ()

/-- Both sides read their state. -/
theorem mirrors_get {f : Link ρ → LinkProc ρ β} {f' : Connection → SessionProc β}
    (h : Mirrors w (f w) (f' w.connection)) : Mirrors w (.get >>= f) (.get >>= f') :=
  ⟨h.connection, h.effects, h.result⟩

/-- Only the session reads its state. -/
theorem Mirrors.session_get {f' : Connection → SessionProc α} (h : Mirrors w m (f' w.connection)) :
    Mirrors w m (.get >>= f') :=
  ⟨h.connection, h.effects, h.result⟩

/-- Only the link reads its state. -/
theorem mirrors_link_get {f : Link ρ → LinkProc ρ β} {m'' : SessionProc β}
    (h : Mirrors w (f w) m'') : Mirrors w (.get >>= f) m'' :=
  ⟨h.connection, h.effects, h.result⟩

theorem Mirrors.when {p p' : Prop} [Decidable p] [Decidable p'] {m : LinkProc ρ Unit}
    {m' : SessionProc Unit} (hp : p ↔ p') (h : Mirrors w m m') :
    Mirrors w (Proc.when p m) (Proc.when p' m') := by
  unfold Proc.when
  by_cases hcase : p
  · rw [if_pos hcase, if_pos (hp.mp hcase)]
    exact h
  · rw [if_neg hcase, if_neg fun h => hcase (hp.mpr h)]
    exact mirrors_pure ()

theorem conclude_eq (r : Except ConnectionError α) :
    conclude r w = (w, [], r.mapError Error.connection) := by
  cases r <;> rfl

theorem mirrors_stage (m' : SessionProc α) : Mirrors w (stage m') m' := by
  have hattempt : attempt m' w = ({ w with connection := (m' w.connection).1 },
      (m' w.connection).2.1.map .effect, .ok (m' w.connection).2) := rfl
  refine ⟨?_, ?_, ?_⟩ <;> rw [stage, bind_ok _ hattempt, conclude_eq]
  rw [List.append_nil, effects_effects]

/-- Other tasks do not touch the connection. -/
theorem mirrors_drainingStage (calls : List (Call ρ)) (m' : SessionProc α) :
    Mirrors w (drainingStage cfg calls m') m' := by
  have hattempt : attempt m' w = ({ w with connection := (m' w.connection).1 },
      (m' w.connection).2.1.map .effect, .ok (m' w.connection).2) := rfl
  have haside : Aside { w with connection := (m' w.connection).1 }
      (Proc.when (writes (m' w.connection).2.1 ≠ []) (others cfg calls)) := (aside_others calls).when
  obtain ⟨hconnection, heffects, ⟨⟩, hreturns⟩ := haside
  generalize hthen : Proc.when (writes (m' w.connection).2.1 ≠ []) (others cfg calls) = others' at *
  rcases hrun : others' { w with connection := (m' w.connection).1 } with ⟨w₁, events, r⟩
  rw [hrun] at hconnection heffects hreturns
  dsimp only at hconnection heffects hreturns
  subst hreturns
  refine ⟨?_, ?_, ?_⟩ <;> rw [drainingStage, bind_ok _ hattempt] <;> dsimp only <;>
    rw [hthen, bind_ok _ hrun, conclude_eq]
  · exact hconnection
  · rw [effects_append, effects_effects, effects_append, heffects]
    exact List.append_nil _

/-! ## The loop -/

/-- The frames reach the connection as they do in its own loop. -/
theorem mirrors_hear (now : ℚ) (frames : List Frame) :
    Mirrors w (hear cfg now frames) (.modify fun c => c.absorbAll now frames) := by
  induction frames generalizing w with
  | nil => exact ⟨rfl, rfl, rfl⟩
  | cons frame frames ih =>
    unfold hear
    refine mirrors_link_get ?_
    split
    · next e hdecode =>
      have hskip : Connection.absorb now w.connection frame = w.connection := by
        unfold Connection.absorb
        rw [hdecode]
      obtain ⟨hc, he, hr⟩ := ih (w := w)
      refine ⟨hc.trans ?_, he, hr⟩
      show w.connection.absorbAll now frames =
        (Connection.absorb now w.connection frame).absorbAll now frames
      rw [hskip]
    · -- the session takes the frame and the rest in one procedure
      have hsplit : (.modify fun c => c.absorbAll now (frame :: frames) : SessionProc Unit) =
          (.modify fun c => Connection.absorb now c frame) >>= fun _ =>
            .modify fun c => c.absorbAll now frames := rfl
      rw [hsplit]
      exact (mirrors_stage _).bind fun _ _ => (aside_perform _).bind fun _ _ => ih

theorem mirrors_observe (now : ℚ) (frames : List Frame) :
    Mirrors w (observe cfg now frames)
      (.modify (Connection.observeFrames cfg.connection now frames)) := by
  have hsplit : (.modify (Connection.observeFrames cfg.connection now frames) : SessionProc Unit) =
      .get >>= fun c => (.modify fun c => c.absorbAll now frames) >>= fun _ =>
        .modify fun d => d.veto cfg.connection c.policy.channelSeen := rfl
  rw [hsplit]
  exact mirrors_get ((mirrors_hear now frames).bind fun _ _ => mirrors_stage _)

/-- The connection asks whether its participant is busy. -/
theorem mirrors_progress (frames : List Frame) (degraded sent recovery : Bool)
    (outbound : Option Frame) :
    Mirrors w (progress cfg i frames degraded sent)
      (Connection.progress cfg.connection
        (i.iteration w.runtime.commands.busy recovery outbound) frames degraded sent) :=
  mirrors_link_get (mirrors_drainingStage _ _)

/-- The transmission of the participant, which accepts its receipt. -/
theorem mirrors_transmit {frames : List Frame} {message : Transmission}
    {guards : List (Commands.GuardCall (Predicate ρ) ρ)} (hsound : w.runtime.Sound cfg.runtime)
    (hhanded : (w.runtime.prepare cfg.runtime i.now).2 = .handed (some message) guards)
    (busy recovery : Bool) :
    Mirrors { w with runtime := (w.runtime.prepare cfg.runtime i.now).1 }
      (transmit cfg i frames message)
      (Connection.transmit cfg.connection (i.iteration busy recovery (some message.frame)) frames
        .participant (fun c => message.frame.readdress c.policy.address) id) := by
  obtain ⟨hprepared, hoffers⟩ := hsound.prepare i.now
  refine mirrors_get ?_
  have hadmission : w.connection.admission cfg.connection (i.iteration busy recovery
      (some message.frame)) frames .participant =
      w.connection.admission cfg.connection i.alone frames .participant := rfl
  cases hadm : w.connection.admission cfg.connection i.alone frames .participant with
  | none =>
    simp only [hadmission, hadm]
    exact mirrors_pure ()
  | some policy =>
    simp only [hadmission, hadm]
    obtain ⟨hok, -⟩ := hprepared.sent (hoffers message guards hhanded) i.forward
      (ctsAt_le policy i) (message.frame.readdress policy.address)
    refine (mirrors_stage _).bind fun _ _ => Mirrors.session_get ?_
    refine (mirrors_stage _).bind fun _ _ => Aside.bind (?_ : Aside _ (report cfg _ _ _)) fun _ _ => ?_
    · refine (aside_perform _).andThen fun out hout => ?_
      obtain rfl : SpaRuntime.Out.receipt (.ok ()) = out := hok.symm.trans (Except.ok.inj hout)
      exact aside_pure ()
    · exact (aside_others _).bind fun _ _ => mirrors_stage _

/-- **The turn of the participant** is the one of a session that was given its answers. -/
theorem mirrors_participate (hsound : w.runtime.Sound cfg.runtime) (hlive : w.connection.Live)
    (frames : List Frame) (sent : Bool) :
    ∃ recovery outbound, ∀ busy, Mirrors w (participate cfg i frames sent)
      (Connection.participate cfg.connection (i.iteration busy recovery outbound) frames sent) := by
  have hturn : ∀ j : Iteration, Connection.participate cfg.connection j frames sent =
      if j.recovery = true then .raise .resynchronization
      else Connection.offer cfg.connection j frames sent := by
    intro j
    unfold Connection.participate
    exact if_pos rfl
  -- the connection stays as it is until the participant is asked for a frame
  set w₁ : Link ρ := (mirror cfg w).1 with hw₁
  set w₂ : Link ρ := (perform cfg (.update i.now) w₁).1 with hw₂
  have hconnection : w₂.connection = w.connection := rfl
  have hsound₂ : w₂.runtime.Sound cfg.runtime :=
    SpaRuntime.step_sound (SpaRuntime.step_sound hsound (.publish w.connection.snapshot) rfl)
      (.update i.now) rfl
  suffices hsuff : ∃ recovery outbound, ∀ busy, Mirrors w₂
      (if w₂.runtime.commands.engine.resyncEpoch = some w₂.connection.epoch then
        .raise (.connection .resynchronization)
      else Proc.when (w₂.connection.state = .ready) (offer cfg i frames sent))
      (Connection.participate cfg.connection (i.iteration busy recovery outbound) frames sent) by
    obtain ⟨recovery, outbound, h⟩ := hsuff
    refine ⟨recovery, outbound, fun busy => ?_⟩
    have hassert : Proc.when (Undated w₁.connection) (.raise .assertion : LinkProc ρ Unit) = pure () :=
      if_neg fun hundated => hlive.dated hundated.2.1 hundated.2.2
    refine aside_mirror.bind fun _ _ => mirrors_link_get ?_
    rw [hassert]
    exact (aside_pure ()).bind fun _ _ => (aside_perform _).bind fun _ _ => mirrors_link_get (h busy)
  by_cases hresync : w₂.runtime.commands.engine.resyncEpoch = some w₂.connection.epoch
  · refine ⟨true, none, fun busy => ?_⟩
    rw [if_pos hresync, hturn]
    exact mirrors_raise _
  rw [if_neg hresync]
  by_cases hready : w₂.connection.state = .ready
  · have hoffer : Proc.when (w₂.connection.state = .ready) (offer cfg i frames sent) =
        offer cfg i frames sent := if_pos hready
    rw [hoffer]
    cases hhanded : (w₂.runtime.prepare cfg.runtime i.now).2 with
    | handed message guards =>
      have hout : ∀ out, (perform cfg (.prepare i.now) w₂).2.2 = .ok out →
          out = .handed message guards :=
        fun out h => (Except.ok.inj h).symm.trans hhanded
      cases message with
      | none =>
        refine ⟨false, none, fun busy => ?_⟩
        rw [hturn]
        refine (aside_perform _).bind fun out h => ?_
        rw [hout out h]
        exact mirrors_pure ()
      | some message =>
        refine ⟨false, some message.frame, fun busy => ?_⟩
        rw [hturn]
        refine (aside_perform _).bind fun out h => ?_
        rw [hout out h]
        refine Mirrors.session_get ?_
        exact Mirrors.when (and_iff_right hready).symm (mirrors_transmit hsound₂ hhanded busy false)
    | _ =>
      refine ⟨false, none, fun busy => ?_⟩
      rw [hturn]
      refine (aside_perform _).bind fun out h => ?_
      obtain rfl := (Except.ok.inj h).symm.trans hhanded
      exact mirrors_pure ()
  · refine ⟨false, none, fun busy => ?_⟩
    have hskip : Proc.when (w₂.connection.state = .ready) (offer cfg i frames sent) = pure () :=
      if_neg hready
    rw [hskip, hturn]
    exact Mirrors.session_get (mirrors_pure ())

/-- **An iteration of the link is one of its connection**, for some answers of the
    participant. -/
theorem iteration_mirrors (hsound : w.runtime.Sound cfg.runtime) (hlive : w.connection.Live)
    (i : Input ρ) :
    ∃ busy recovery outbound, Mirrors w (iteration cfg i)
      (Connection.iteration cfg.connection (i.iteration busy recovery outbound)) := by
  -- what is sound in the journal of this step is sound between its stages
  have hjournal : Journal cfg w.runtime Connection.Live [] w := ⟨rfl, rfl, .nil, hsound, hlive⟩
  suffices hsuff : ∃ x : Bool × Bool × Option Frame, Mirrors w (iteration cfg i)
      (Connection.iteration cfg.connection (i.iteration x.1 x.2.1 x.2.2)) by
    obtain ⟨x, h⟩ := hsuff
    exact ⟨_, _, _, h⟩
  refine (mirrors_stage _).bind_exists (false, false, none) fun frames _ => ?_
  have h₁ := ((stage_journals (receive_quiet (c := cfg.connection) (j := i.alone))).run hjournal).1
  refine (mirrors_observe i.now frames).bind_exists (false, false, none) fun _ _ => ?_
  have h₂ := (Keeps.run (observe_journals i.now frames) h₁).1
  refine (mirrors_drainingStage _ _).bind_exists (false, false, none) fun sent _ => ?_
  have h₃ := ((drainingStage_journals (i.calls .management)
    (manage_quiet (c := cfg.connection) (j := i.alone) frames)).run h₂).1
  refine (mirrors_stage _).bind_exists (false, false, none) fun degraded _ => ?_
  have h₄ := ((stage_journals (awaitTraffic_quiet (c := cfg.connection) (j := i.alone))).run h₃).1
  have h₅ := ((progress_journals (i := i) frames degraded sent).run h₄).1
  obtain ⟨recovery, outbound, hturn⟩ := mirrors_participate (i := i) h₅.sound h₅.connection frames sent
  exact ⟨(_, recovery, outbound), (mirrors_progress frames degraded sent recovery outbound).bind
    fun _ _ => (hturn _).bind fun _ _ => mirrors_drainingStage _ _⟩

/-! ## Runs -/

/-- **The participant never ends an iteration**: what does is an exception of the connection. -/
theorem iteration_error (hsound : w.runtime.Sound cfg.runtime) (hlive : w.connection.Live)
    (i : Input ρ) {e : Error} (h : (iteration cfg i w).2.2 = .error e) : e.ofConnection := by
  have hjournal : Journal cfg w.runtime Connection.Live [] w := ⟨rfl, rfl, .nil, hsound, hlive⟩
  exact ((iteration_journals i).run hjournal).2 e h

theorem mirrors_close (phase : Phase) (at_ : ℚ) :
    Mirrors w (close cfg phase at_) (.modify fun c => c.teardown phase) :=
  ⟨rfl, rfl, rfl⟩

theorem iterate_mirrors (hsound : w.runtime.Sound cfg.runtime) (hlive : w.connection.Live)
    (i : Input ρ) :
    ∃ j : Iteration, (iterate cfg i w).1.connection =
        (Connection.iterate cfg.connection j w.connection).1 ∧
      effects (iterate cfg i w).2 = (Connection.iterate cfg.connection j w.connection).2 := by
  obtain ⟨busy, recovery, outbound, hconnection, heffects, hresult⟩ :=
    iteration_mirrors hsound hlive i
  refine ⟨i.iteration busy recovery outbound, ?_⟩
  unfold iterate Connection.iterate
  rcases hr' : Connection.iteration cfg.connection (i.iteration busy recovery outbound)
    w.connection with ⟨c, es, e | ⟨⟩⟩ <;>
    rcases hr : iteration cfg i w with ⟨w', events, r⟩ <;>
    rw [hr, hr'] at hconnection heffects hresult <;>
    dsimp only at hconnection heffects hresult <;> subst hresult
  · subst hconnection
    refine ⟨rfl, ?_⟩
    show effects (events ++ _) = es
    rw [effects_append, (mirrors_close _ _).effects]
    exact (List.append_nil _).trans heffects
  · exact ⟨hconnection, heffects⟩

theorem connect_mirrors (cfg : LinkConfig) (w : Link ρ) (nonce : Nonce)
    (opening : Connection.Opening) (calls : List (Call ρ))
    (closedAt : ℚ) :
    Mirrors w (connect cfg nonce opening calls closedAt)
      (.modify fun _ => w.connection.connect cfg.connection nonce opening) := by
  have hsplit : (.modify fun _ => w.connection.connect cfg.connection nonce opening :
      SessionProc Unit) =
      (.modify fun c => { c with state := .connecting }) >>= fun _ =>
        (.modify fun _ => w.connection.connect cfg.connection nonce opening) >>= fun _ => pure () := rfl
  rw [hsplit]
  refine mirrors_link_get ((mirrors_stage _).bind fun _ _ => (aside_others calls).bind fun _ _ =>
    (mirrors_stage _).bind fun _ _ => ?_)
  split
  · exact mirrors_pure ()
  · exact (aside_perform _).bind fun _ _ => mirrors_pure ()

/-- A step is a step of the connection, or none. -/
theorem step_connection (hsound : w.runtime.Sound cfg.runtime) (hsettled : w.connection.Settled)
    (nonce : Nonce) (op : Op ρ) :
    ∃ l, (step cfg w op).1.connection =
        (Connection.connectionMachine cfg.connection nonce).runFrom w.connection l ∧
      effects (step cfg w op).2 =
        ((Connection.connectionMachine cfg.connection nonce).traceFrom w.connection l).flatMap
          Prod.snd := by
  cases op with
  | connect nonce' opening calls closedAt =>
    simp only [step]
    split
    · next hphase =>
      obtain ⟨hconnection, heffects, -⟩ :=
        connect_mirrors cfg w nonce' opening calls closedAt
      refine ⟨[.connect nonce' opening], hconnection.trans ?_, heffects.trans ?_⟩
      · simp [Connection.connectionMachine, Connection.step, hphase, Proc.modify]
      · simp [Connection.connectionMachine, Connection.step, hphase, Proc.modify]
    · exact ⟨[], rfl, rfl⟩
  | iterate i =>
    simp only [step]
    split
    · next hphase =>
      have hlive : w.connection.Live := hsettled.resolve_right fun hdark => hdark.phase hphase
      obtain ⟨j, hconnection, heffects⟩ := iterate_mirrors hsound hlive i
      refine ⟨[.iterate j], hconnection.trans ?_, heffects.trans ?_⟩
      · simp [Connection.connectionMachine, Connection.step, hphase]
      · simp [Connection.connectionMachine, Connection.step, hphase]
    · exact ⟨[], rfl, rfl⟩
  | call call =>
    have haside : Aside w (others cfg [call]) := aside_others [call]
    obtain ⟨hconnection, heffects, -⟩ := haside
    exact ⟨[], hconnection, heffects⟩

/-! ## Runs -/

/-- What holds of a link between two steps, whatever has happened. -/
def Sane (cfg : LinkConfig) (w : Link ρ) : Prop :=
  w.runtime.Sound cfg.runtime ∧ w.connection.Settled

theorem Sane.step (h : Sane cfg w) (op : Op ρ) : Sane cfg (step cfg w op).1 := by
  have hstart : Journal cfg w.runtime Connection.Settled [] w := ⟨rfl, rfl, .nil, h.1, h.2⟩
  have hafter := step_journal hstart op
  exact ⟨hafter.sound, hafter.connection⟩

theorem sane_init (cfg : LinkConfig) (nonce : Nonce) (world : ρ) :
    Sane cfg (machine cfg nonce world).init :=
  ⟨SpaRuntime.sound_init cfg.runtime world, Or.inr ⟨nofun, rfl⟩⟩

theorem simulates_connection (cfg : LinkConfig) (nonce : Nonce) (world : ρ) :
    (machine cfg nonce world).Simulates (Connection.connectionMachine cfg.connection nonce)
      (fun w c => w.connection = c ∧ Sane cfg w) (fun x => effects x.2) Prod.snd where
  init := ⟨rfl, sane_init cfg nonce world⟩
  step := by
    rintro w _ op ⟨rfl, hsane⟩
    obtain ⟨l, hconnection, heffects⟩ := step_connection hsane.1 hsane.2 nonce op
    exact ⟨l, ⟨hconnection, hsane.step op⟩, heffects⟩

theorem simulates_runtime (cfg : LinkConfig) (nonce : Nonce) (world : ρ) :
    (machine cfg nonce world).Simulates (SpaRuntime.machine cfg.runtime world)
      (fun w r => w.runtime = r ∧ Sane cfg w) (fun x => calls x.2) (fun x => [x]) where
  init := ⟨rfl, sane_init cfg nonce world⟩
  step := by
    rintro w _ op ⟨rfl, hsane⟩
    have hstart : Journal cfg w.runtime Connection.Settled [] w := ⟨rfl, rfl, .nil, hsane.1, hsane.2⟩
    have hafter := step_journal hstart op
    refine ⟨(calls (step cfg w op).2).map Prod.fst, ⟨hafter.state, hsane.step op⟩, ?_⟩
    have hworld : ∀ l, (SpaRuntime.machine cfg.runtime w.runtime.world).traceFrom w.runtime l =
        (SpaRuntime.machine cfg.runtime world).traceFrom w.runtime l :=
      Machine.traceFrom_congr (by rfl) _
    rw [List.flatMap_singleton', ← hworld]
    exact hafter.trace

/-- A run of a link is a run of each of its parts, and no exception of its loop comes from its
    participant. -/
structure Refines (cfg : LinkConfig) (nonce : Nonce) (world : ρ) (run : List (Op ρ)) : Prop where
  /-- The same states, and the same effects on the socket. -/
  connection : ∃ l cut, Machine.Matches (machine cfg nonce world)
    (Connection.connectionMachine cfg.connection nonce) (fun w c => w.connection = c)
    (fun x => effects x.2) Prod.snd run l cut
  /-- The same states, and the same calls with the same answers. -/
  runtime : ∃ l cut, Machine.Matches (machine cfg nonce world)
    (SpaRuntime.machine cfg.runtime world) (fun w r => w.runtime = r) (fun x => calls x.2)
    (fun x => [x]) run l cut
  faults : ∀ n i e, run[n]? = some (.iterate i) →
    (linkAt cfg nonce world run n).connection.phase = .opened →
      (iteration cfg i (linkAt cfg nonce world run n)).2.2 = .error e → e.ofConnection

/-- **A link refines its connection and its runtime.** -/
theorem link_refines (cfg : LinkConfig) (nonce : Nonce) (world : ρ) (run : List (Op ρ)) :
    Refines cfg nonce world run where
  connection := by
    obtain ⟨l, cut, h⟩ := (simulates_connection cfg nonce world).run run
    exact ⟨l, cut, h.mono fun _ _ => And.left⟩
  runtime := by
    obtain ⟨l, cut, h⟩ := (simulates_runtime cfg nonce world).run run
    exact ⟨l, cut, h.mono fun _ _ => And.left⟩
  faults n i e _ hphase h := by
    have hjournal := journal cfg nonce world run n
    exact iteration_error hjournal.sound
      (hjournal.connection.resolve_right fun hdark => hdark.phase hphase) i h

end Link

end BalboaRs485
