import BalboaRs485.Transport.Synchronization

/-!
# Soundness of READY

Over whole runs the fields behind READY have a history in the current epoch: the
last `_begin_sync`, the queries written and the replies received after it, and the
iterations that received the last frame, status and CTS.

* `History`, `history`: the history of the fields of every open connection.
* `ready_sound`: what a READY connection has received, and how fresh it is; a
  refresh replaces the configuration only with both replies.
-/

namespace BalboaRs485

namespace Connection

variable {cfg : ConnectionConfig} {nonce : Nonce} {l : List Op} {b n : ℕ} {i : Iteration}

/-! ## Positions of a run -/

/-- An iteration before `n` in the epoch of `n`. -/
def Earlier (cfg : ConnectionConfig) (nonce : Nonce) (l : List Op) (n j : ℕ) (i : Iteration)
    (effects : List Effect) : Prop :=
  j < n ∧ (connectionAt cfg nonce l j).epoch = (connectionAt cfg nonce l n).epoch ∧
    Iterates cfg nonce l j i effects

/-- An earlier iteration of the epoch that read the clock at `t` and has the property. -/
def Saw (cfg : ConnectionConfig) (nonce : Nonce) (l : List Op) (n : ℕ) (t : ℚ)
    (P : Connection → Iteration → Prop) : Prop :=
  ∃ j i effects, Earlier cfg nonce l n j i effects ∧ i.now = t ∧ P (connectionAt cfg nonce l j) i

/-- Iteration `b` is the last of the epoch before `n` that called `_begin_sync`. -/
def LastBegin (cfg : ConnectionConfig) (nonce : Nonce) (l : List Op) (b n : ℕ) : Prop :=
  (∃ i effects, Earlier cfg nonce l n b i effects ∧ .beginSync ∈ effects) ∧
    ∀ k i effects, b < k → Earlier cfg nonce l n k i effects → .beginSync ∉ effects

/-- The query was written at or after `b`. -/
def Queried (cfg : ConnectionConfig) (nonce : Nonce) (l : List Op) (b n : ℕ) (q : Query) : Prop :=
  ∃ j i effects, b ≤ j ∧ Earlier cfg nonce l n j i effects ∧ Asks effects q

/-- After `b` a message was received while the query, written at or after `b`, was
    pending. -/
def Answered (cfg : ConnectionConfig) (nonce : Nonce) (l : List Op) (b n : ℕ) (q : Query)
    (message : Message) : Prop :=
  ∃ k i effects, b < k ∧ Earlier cfg nonce l n k i effects ∧
    Awaits cfg (connectionAt cfg nonce l k) i q ∧ Decodes (connectionAt cfg nonce l k) i message ∧
    Queried cfg nonce l b k q

/-- After `b` a status was received. -/
def Updated (cfg : ConnectionConfig) (nonce : Nonce) (l : List Op) (b n : ℕ) : Prop :=
  ∃ k i effects m, b < k ∧ Earlier cfg nonce l n k i effects ∧
    Decodes (connectionAt cfg nonce l k) i (.status m)

section

variable (he : (connectionAt cfg nonce l (n + 1)).epoch = (connectionAt cfg nonce l n).epoch)
include he

theorem Earlier.succ {j : ℕ} {effects : List Effect} (h : Earlier cfg nonce l n j i effects) :
    Earlier cfg nonce l (n + 1) j i effects :=
  ⟨h.1.trans (Nat.lt_succ_self n), h.2.1.trans he.symm, h.2.2⟩

theorem Iterates.earlier {effects : List Effect} (h : Iterates cfg nonce l n i effects) :
    Earlier cfg nonce l (n + 1) n i effects :=
  ⟨Nat.lt_succ_self n, he.symm, h⟩

theorem Saw.succ {t : ℚ} {P : Connection → Iteration → Prop} (h : Saw cfg nonce l n t P) :
    Saw cfg nonce l (n + 1) t P := by
  obtain ⟨j, i, effects, hj, hrest⟩ := h
  exact ⟨j, i, effects, hj.succ he, hrest⟩

theorem Queried.succ {q : Query} (h : Queried cfg nonce l b n q) :
    Queried cfg nonce l b (n + 1) q := by
  obtain ⟨j, i, effects, hb, hj, hq⟩ := h
  exact ⟨j, i, effects, hb, hj.succ he, hq⟩

theorem Answered.succ {q : Query} {message : Message} (h : Answered cfg nonce l b n q message) :
    Answered cfg nonce l b (n + 1) q message := by
  obtain ⟨k, i, effects, hb, hk, hrest⟩ := h
  exact ⟨k, i, effects, hb, hk.succ he, hrest⟩

theorem Updated.succ (h : Updated cfg nonce l b n) : Updated cfg nonce l b (n + 1) := by
  obtain ⟨k, i, effects, m, hb, hk, hm⟩ := h
  exact ⟨k, i, effects, m, hb, hk.succ he, hm⟩

/-- The last begin stays the last while nothing begins. -/
theorem LastBegin.succ (h : LastBegin cfg nonce l b n)
    (hn : ∀ i effects, Iterates cfg nonce l n i effects → .beginSync ∉ effects) :
    LastBegin cfg nonce l b (n + 1) := by
  obtain ⟨⟨i, effects, hb, hmem⟩, hlast⟩ := h
  refine ⟨⟨i, effects, hb.succ he, hmem⟩, fun k i' effects' hbk hk => ?_⟩
  rcases Nat.lt_succ_iff_lt_or_eq.mp hk.1 with hlt | rfl
  · exact hlast k i' effects' hbk ⟨hlt, hk.2.1.trans he, hk.2.2⟩
  · exact hn i' effects' hk.2.2

end

/-! ## History -/

/-- The synchronization that is under way or has settled began at `b`. -/
structure Since (cfg : ConnectionConfig) (nonce : Nonce) (l : List Op) (b n : ℕ) (c : Connection) :
    Prop where
  begun : LastBegin cfg nonce l b n
  status : c.syncStatusSequence < c.statusSequence → Updated cfg nonce l b n
  information : ∀ m, c.information = some m →
    Answered cfg nonce l b n .information (.information m)
  capabilities : ∀ m, c.capabilities = some m →
    Answered cfg nonce l b n .capabilities (.capabilities m)
  pending : ∀ q, c.pending = some q → Queried cfg nonce l b n q

/-- Where the fields of an open connection come from after `n` operations. -/
structure History (cfg : ConnectionConfig) (nonce : Nonce) (l : List Op) (n : ℕ) (c : Connection) :
    Prop where
  coherent : Coherent c
  valid : ∀ t, c.lastValid = some t → Saw cfg nonce l n t fun c i => c.batch i ≠ []
  status : ∀ t, c.lastStatus = some t → Saw cfg nonce l n t fun c i => ∃ m, Decodes c i (.status m)
  cts : ∀ t, c.lastReady = some t → Saw cfg nonce l n t fun c i => ∃ frame, Decodes c i (.ready frame)
  sync : c.syncStarted ≠ none → ∃ b, Since cfg nonce l b n c

/-- A connection without a socket. -/
structure AtRest (c : Connection) : Prop where
  state : c.state = .disconnected
  pending : c.pending = none
  configuration : c.configuration = none

/-- An iteration of an open connection returns, or leaves it at rest. -/
theorem iterate_sync {c : Connection} (hmode : c.policy.requested = cfg.requestedMode)
    (h : Coherent c) :
    (Synced cfg i c (Connection.iterate cfg i c).1 (Connection.iterate cfg i c).2 ∧
        (Connection.iterate cfg i c).1.phase = c.phase) ∨
      ((Connection.iterate cfg i c).1.phase ≠ .opened ∧ AtRest (Connection.iterate cfg i c).1) := by
  have hsync := Proc.wp_run (iteration_sync cfg i h)
  have hwrites := Proc.wp_run (iteration_writes (i := i) hmode)
  unfold Connection.iterate
  rcases hr : iteration cfg i c with ⟨d, effects, e | a⟩ <;> rw [hr] at hsync hwrites
  · refine .inr ⟨?_, rfl, rfl, rfl⟩
    cases e <;> exact fun h => by cases h
  · exact .inl ⟨hsync, hwrites.phase⟩

/-- An operation that does nothing extends the history. -/
theorem History.stay (h : History cfg nonce l n (connectionAt cfg nonce l n))
    (hstay : connectionAt cfg nonce l (n + 1) = connectionAt cfg nonce l n)
    (hno : ∀ i effects, ¬ Iterates cfg nonce l n i effects) :
    History cfg nonce l (n + 1) (connectionAt cfg nonce l (n + 1)) := by
  have he : (connectionAt cfg nonce l (n + 1)).epoch = (connectionAt cfg nonce l n).epoch := by
    rw [hstay]
  refine ⟨?_, ?_, ?_, ?_, ?_⟩ <;> rw [hstay]
  · exact h.coherent
  · exact fun t ht => (h.valid t ht).succ he
  · exact fun t ht => (h.status t ht).succ he
  · exact fun t ht => (h.cts t ht).succ he
  · intro hs
    obtain ⟨b, hb⟩ := h.sync hs
    exact ⟨b, hb.begun.succ he fun i effects hi => absurd hi (hno i effects),
      fun hlt => (hb.status hlt).succ he, fun m hm => (hb.information m hm).succ he,
      fun m hm => (hb.capabilities m hm).succ he, fun q hq => (hb.pending q hq).succ he⟩

/-- The synchronization after an iteration that has not begun one. -/
theorem Since.advance {d : Connection} {effects : List Effect}
    (h : Since cfg nonce l b n (connectionAt cfg nonce l n))
    (hi : Iterates cfg nonce l n i effects)
    (he : (connectionAt cfg nonce l (n + 1)).epoch = (connectionAt cfg nonce l n).epoch)
    (ha : Advance cfg i (connectionAt cfg nonce l n) d effects) (hb : .beginSync ∉ effects) :
    Since cfg nonce l b (n + 1) d := by
  have hbn : b < n := by
    obtain ⟨_, _, hb, -⟩ := h.begun.1
    exact hb.1
  have hreply : ∀ q message, Awaits cfg (connectionAt cfg nonce l n) i q →
      Decodes (connectionAt cfg nonce l n) i message → Answered cfg nonce l b (n + 1) q message :=
    fun q message hq hm => ⟨n, i, effects, hbn, hi.earlier he, hq, hm, h.pending q hq.1⟩
  refine ⟨h.begun.succ he ?_, ?_, ?_, ?_, ?_⟩
  · intro i' effects' hi'
    rw [← hi'.effects]
    have hop := hi.op.symm.trans hi'.op
    cases hop
    rwa [hi.effects]
  · intro hlt
    obtain ⟨-, -, hseq, hstatus⟩ := ha.started.resolve_left fun hs => hb hs.1
    rcases hstatus with hsame | ⟨m, hm⟩
    · rw [hseq, hsame] at hlt
      exact (h.status hlt).succ he
    · exact ⟨n, i, effects, m, hbn, hi.earlier he, hm⟩
  · intro m hm
    obtain ⟨-, hold | ⟨hq, hd⟩⟩ := ha.information m hm
    · exact (h.information m hold).succ he
    · exact hreply _ _ hq hd
  · intro m hm
    obtain ⟨-, hold | ⟨hq, hd⟩⟩ := ha.capabilities m hm
    · exact (h.capabilities m hold).succ he
    · exact hreply _ _ hq hd
  · intro q hq
    rcases ha.pending q hq with ⟨-, hold⟩ | hasks
    · exact (h.pending q hold).succ he
    · exact ⟨n, i, effects, hbn.le, hi.earlier he, hasks⟩

/-- The synchronization an iteration has begun. -/
theorem Since.begin {d : Connection} {effects : List Effect}
    (hi : Iterates cfg nonce l n i effects)
    (he : (connectionAt cfg nonce l (n + 1)).epoch = (connectionAt cfg nonce l n).epoch)
    (ha : Advance cfg i (connectionAt cfg nonce l n) d effects) (hb : .beginSync ∈ effects) :
    Since cfg nonce l n (n + 1) d := by
  have hseq : d.syncStatusSequence = d.statusSequence := by
    rcases ha.started with ⟨-, hs⟩ | ⟨hno, -⟩
    · exact hs
    · exact absurd hb hno
  refine ⟨⟨⟨i, effects, hi.earlier he, hb⟩, fun k _ _ hnk hk => absurd hk.1 (by omega)⟩,
    ?_, ?_, ?_, ?_⟩
  · intro hlt
    exact absurd hseq hlt.ne
  · intro m hm
    exact absurd hb (ha.information m hm).1
  · intro m hm
    exact absurd hb (ha.capabilities m hm).1
  · intro q hq
    rcases ha.pending q hq with ⟨hno, -⟩ | hasks
    · exact absurd hb hno
    · exact ⟨n, i, effects, le_refl n, hi.earlier he, hasks⟩

/-- An iteration extends the history by its `Advance`. -/
theorem History.iterate {d : Connection} {effects : List Effect}
    (h : History cfg nonce l n (connectionAt cfg nonce l n))
    (hi : Iterates cfg nonce l n i effects)
    (he : (connectionAt cfg nonce l (n + 1)).epoch = (connectionAt cfg nonce l n).epoch)
    (hd : Synced cfg i (connectionAt cfg nonce l n) d effects) : History cfg nonce l (n + 1) d := by
  have ha := hd.advance
  have hnow : ∀ {P : Connection → Iteration → Prop}, P (connectionAt cfg nonce l n) i →
      Saw cfg nonce l (n + 1) i.now P :=
    fun hP => ⟨n, i, effects, hi.earlier he, rfl, hP⟩
  refine ⟨hd.coherent, ?_, ?_, ?_, ?_⟩
  · intro t ht
    rcases ha.valid with hsame | ⟨hset, hbatch⟩
    · exact (h.valid t (hsame.symm.trans ht)).succ he
    · obtain rfl : i.now = t := Option.some.inj (hset.symm.trans ht)
      exact hnow hbatch
  · intro t ht
    rcases ha.status with hsame | ⟨hset, hm⟩
    · exact (h.status t (hsame.symm.trans ht)).succ he
    · obtain rfl : i.now = t := Option.some.inj (hset.symm.trans ht)
      exact hnow hm
  · intro t ht
    rcases ha.cts with hsame | ⟨hset, hf⟩
    · exact (h.cts t (hsame.symm.trans ht)).succ he
    · obtain rfl : i.now = t := Option.some.inj (hset.symm.trans ht)
      exact hnow hf
  · intro hs
    by_cases hb : .beginSync ∈ effects
    · exact ⟨n, .begin hi he ha hb⟩
    · have hstarted : d.syncStarted = (connectionAt cfg nonce l n).syncStarted := by
        rcases ha.started with ⟨hyes, -⟩ | ⟨-, hsame, -⟩
        · exact absurd hyes hb
        · exact hsame
      obtain ⟨b, hold⟩ := h.sync (by rwa [← hstarted])
      exact ⟨b, hold.advance hi he ha hb⟩

/-- A fresh socket has no history. -/
theorem history_connect {c : Connection} {fresh : Nonce} {now : ℚ} (hpending : c.pending = none) :
    History cfg nonce l n { c.prelude cfg fresh with
      phase := .opened, epoch := c.epoch + 1, openedAt := now, state := .waitingForFrame } where
  coherent := by
    have hp : (c.prelude cfg fresh).pending = none := hpending
    refine ⟨fun h => absurd h (by simp [prelude, BusPolicy.make]), fun h => absurd rfl h,
      fun _ => by simp, fun q hq => ?_, fun _ => rfl, fun _ => ⟨rfl, hp⟩,
      fun h => absurd h (by simp [prelude]), fun _ h => ?_⟩
    · rw [hp] at hq
      cases hq
    · rcases h with h | h
      · exact absurd hp h
      · exact absurd rfl h
  valid _ h := absurd h (by simp [prelude])
  status _ h := absurd h (by simp [prelude])
  cts _ h := absurd h (by simp [prelude])
  sync h := absurd rfl h

/-- Every open connection has its history, and every other one is at rest. -/
theorem history (cfg : ConnectionConfig) (nonce : Nonce) (l : List Op) (n : ℕ) :
    ((connectionAt cfg nonce l n).phase = .opened →
      History cfg nonce l n (connectionAt cfg nonce l n)) ∧
      ((connectionAt cfg nonce l n).phase ≠ .opened → AtRest (connectionAt cfg nonce l n)) := by
  induction n with
  | zero =>
    refine ⟨fun h => ?_, fun _ => ⟨rfl, rfl, rfl⟩⟩
    have h : Phase.closed = .opened := h
    cases h
  | succ n ih =>
    obtain ⟨hopened, hrest⟩ := ih
    -- an operation without effect
    have hstay : connectionAt cfg nonce l (n + 1) = connectionAt cfg nonce l n →
        (∀ i effects, ¬ Iterates cfg nonce l n i effects) →
        ((connectionAt cfg nonce l (n + 1)).phase = .opened →
          History cfg nonce l (n + 1) (connectionAt cfg nonce l (n + 1))) ∧
        ((connectionAt cfg nonce l (n + 1)).phase ≠ .opened →
          AtRest (connectionAt cfg nonce l (n + 1))) := by
      intro hs hno
      exact ⟨fun h => (hopened (by rwa [hs] at h)).stay hs hno, fun h => by
        rw [hs] at h ⊢
        exact hrest h⟩
    cases hop : l[n]? with
    | none =>
      refine hstay (connectionAt_succ_none hop) fun i effects hi => ?_
      have := hi.op
      rw [hop] at this
      cases this
    | some op =>
      have hnext := connectionAt_succ cfg nonce hop
      cases op with
      | connect nonce' opening =>
        have hno : ∀ i effects, ¬ Iterates cfg nonce l n i effects := by
          intro i effects hi
          have := hi.op
          rw [hop] at this
          cases this
        by_cases hclosed : (connectionAt cfg nonce l n).phase = .closed
        · have hr := hrest (by rw [hclosed]; decide)
          cases hfresh : avoidNonces (connectionAt cfg nonce l n).assignmentNonces
              ((connectionAt cfg nonce l n).assignmentNonces.length + 1) nonce' with
          | none =>
            refine hstay ?_ hno
            rw [hnext, step, if_pos hclosed, connect, hfresh]
          | some fresh =>
            rw [hnext, step, if_pos hclosed, connect, hfresh]
            cases opening with
            | opened now => exact ⟨fun _ => history_connect hr.pending, fun h => absurd rfl h⟩
            | failed => exact ⟨fun h => absurd h (by simp [teardown]), fun _ => ⟨rfl, rfl, rfl⟩⟩
            | cancelled => exact ⟨fun h => absurd h (by simp [teardown]), fun _ => ⟨rfl, rfl, rfl⟩⟩
        · refine hstay ?_ hno
          rw [hnext, step, if_neg hclosed]
      | iterate i =>
        by_cases hopen : (connectionAt cfg nonce l n).phase = .opened
        · have hi : Iterates cfg nonce l n i _ := ⟨hop, hopen, rfl⟩
          have h := hopened hopen
          have he : (connectionAt cfg nonce l (n + 1)).epoch =
              (connectionAt cfg nonce l n).epoch := by
            rw [hi.next]
            exact (iterate_cases (requested_eq cfg nonce l n)).1
          rw [hi.next]
          rcases iterate_sync (i := i) (requested_eq cfg nonce l n) h.coherent with
            ⟨hsynced, hphase⟩ | ⟨hphase, hr⟩
          · exact ⟨fun _ => h.iterate hi he hsynced, fun hne => absurd (hphase.trans hopen) hne⟩
          · exact ⟨fun h => absurd h hphase, fun _ => hr⟩
        · refine hstay ?_ fun i' effects hi' => hopen hi'.opened
          rw [hnext, step, if_neg hopen]

/-! ## Soundness -/

/-- Both replies of the synchronization that began at `b` are in the configuration. -/
def Committed (cfg : ConnectionConfig) (nonce : Nonce) (l : List Op) (b n : ℕ)
    (configuration : Option Configuration) : Prop :=
  ∃ information capabilities, configuration = some ⟨information, capabilities⟩ ∧
    Answered cfg nonce l b n .information (.information information) ∧
    Answered cfg nonce l b n .capabilities (.capabilities capabilities)

/-- What a connection has received that is READY after operation `n`, an iteration
    that read `i`. -/
structure ReadySound (cfg : ConnectionConfig) (nonce : Nonce) (l : List Op) (n : ℕ)
    (i : Iteration) : Prop where
  supported : (connectionAt cfg nonce l (n + 1)).policy.supported = true
  /-- Both replies and a status came after the last `_begin_sync` of the epoch. -/
  synchronized : ∃ b, LastBegin cfg nonce l b (n + 1) ∧
    Committed cfg nonce l b (n + 1) (connectionAt cfg nonce l (n + 1)).configuration ∧
    Updated cfg nonce l b (n + 1)
  valid : ∃ t, (connectionAt cfg nonce l (n + 1)).lastValid = some t ∧
    i.now - t < cfg.timing.degradeAfter ∧ Saw cfg nonce l (n + 1) t fun c i => c.batch i ≠ []
  status : ∃ t, (connectionAt cfg nonce l (n + 1)).lastStatus = some t ∧
    i.now - t < cfg.timing.degradeAfter ∧
    Saw cfg nonce l (n + 1) t fun c i => ∃ m, Decodes c i (.status m)
  cts : cfg.requestedMode = .classicRs485 ∨ cfg.requestedMode = .channelRs485 →
    ∃ t, (connectionAt cfg nonce l (n + 1)).lastReady = some t ∧
      i.now - t < cfg.timing.degradeAfter ∧
      Saw cfg nonce l (n + 1) t fun c i => ∃ frame, Decodes c i (.ready frame)

/-- The configuration after operation `n` is that of before, or it is gone because the
    session ended or channels were seen, or both replies of the synchronization under
    way have been received. -/
def Replaced (cfg : ConnectionConfig) (nonce : Nonce) (l : List Op) (n : ℕ) : Prop :=
  (connectionAt cfg nonce l (n + 1)).configuration = (connectionAt cfg nonce l n).configuration ∨
    (connectionAt cfg nonce l (n + 1)).configuration = none ∧
      ((connectionAt cfg nonce l (n + 1)).phase ≠ .opened ∨
        (connectionAt cfg nonce l n).policy.channelSeen = false ∧
          (connectionAt cfg nonce l (n + 1)).policy.channelSeen = true) ∨
    ∃ b, LastBegin cfg nonce l b (n + 1) ∧
      Committed cfg nonce l b (n + 1) (connectionAt cfg nonce l (n + 1)).configuration

/-- What an iteration leaves that ends in an open connection. -/
theorem Iterates.synced {effects : List Effect} (hi : Iterates cfg nonce l n i effects)
    (hopen : (connectionAt cfg nonce l (n + 1)).phase = .opened) :
    Synced cfg i (connectionAt cfg nonce l n) (connectionAt cfg nonce l (n + 1)) effects ∧
      History cfg nonce l (n + 1) (connectionAt cfg nonce l (n + 1)) := by
  refine ⟨?_, (history cfg nonce l (n + 1)).1 hopen⟩
  have h := (history cfg nonce l n).1 hi.opened
  rw [hi.next] at hopen ⊢
  rcases iterate_sync (i := i) (requested_eq cfg nonce l n) h.coherent with ⟨hs, -⟩ | ⟨hne, -⟩
  · rw [hi.effects] at hs
    exact hs
  · exact absurd hopen hne

/-- Both replies behind the fields are replies of the synchronization under way. -/
theorem History.committed {c : Connection} (h : History cfg nonce l n c)
    {information : SystemInformationMessage} {capabilities : CapabilitiesMessage}
    (hi : c.information = some information) (hc : c.capabilities = some capabilities)
    (he : c.configuration = some ⟨information, capabilities⟩) :
    ∃ b, Since cfg nonce l b n c ∧ Committed cfg nonce l b n c.configuration := by
  have hstarted : c.syncStarted ≠ none := by
    intro hn
    rw [(h.coherent.idle hn).1] at hi
    cases hi
  obtain ⟨b, hb⟩ := h.sync hstarted
  exact ⟨b, hb, information, capabilities, he, hb.information _ hi, hb.capabilities _ hc⟩

/-- Without an iteration the configuration does not change: a socket is opened at rest. -/
theorem configuration_idle (h : ¬ ∃ i effects, Iterates cfg nonce l n i effects) :
    (connectionAt cfg nonce l (n + 1)).configuration =
      (connectionAt cfg nonce l n).configuration := by
  cases hop : l[n]? with
  | none => rw [connectionAt_succ_none hop]
  | some op =>
    rw [connectionAt_succ cfg nonce hop]
    cases op with
    | iterate i =>
      have hne : (connectionAt cfg nonce l n).phase ≠ .opened := fun hopen =>
        h ⟨i, _, hop, hopen, rfl⟩
      rw [step, if_neg hne]
    | connect nonce' opening =>
      by_cases hclosed : (connectionAt cfg nonce l n).phase = .closed
      · have hr := (history cfg nonce l n).2 (by rw [hclosed]; decide)
        rw [step, if_pos hclosed, hr.configuration]
        show (connect cfg nonce' opening (connectionAt cfg nonce l n)).configuration = none
        unfold connect
        split
        · exact hr.configuration
        · cases opening with
          | opened now => exact hr.configuration
          | failed => rfl
          | cancelled => rfl
      · rw [step, if_neg hclosed]

/-- **Soundness of READY.** In every run a connection that is READY after an iteration
    has a supported policy, the configuration and a status of the last
    synchronization of its epoch, and fresh traffic; and only both replies of a
    synchronization replace a configuration. -/
theorem ready_sound (cfg : ConnectionConfig) (nonce : Nonce) (l : List Op) :
    (∀ n i, l[n]? = some (.iterate i) → (connectionAt cfg nonce l (n + 1)).state = .ready →
      ReadySound cfg nonce l n i) ∧
      ∀ n, Replaced cfg nonce l n := by
  constructor
  · intro n i hop hready
    -- only an open connection is READY
    have hopen' : (connectionAt cfg nonce l (n + 1)).phase = .opened := by
      by_contra hne
      rw [((history cfg nonce l (n + 1)).2 hne).state] at hready
      cases hready
    have hopen : (connectionAt cfg nonce l n).phase = .opened := by
      by_contra hne
      rw [connectionAt_succ cfg nonce hop, step, if_neg hne] at hopen'
      exact hne hopen'
    have hi : Iterates cfg nonce l n i _ := ⟨hop, hopen, rfl⟩
    obtain ⟨hsynced, hhistory⟩ := hi.synced hopen'
    have hp := hsynced.prompt hready
    obtain ⟨-, information, capabilities, hinfo, hcaps, hconf⟩ :=
      hsynced.coherent.committed hp.committed
    obtain ⟨b, hb, hcommitted⟩ := hhistory.committed hinfo hcaps hconf
    refine ⟨hp.supported, ⟨b, hb.begun, hcommitted, hb.status hp.sequence⟩, ?_, ?_, ?_⟩
    · obtain ⟨t, ht, hage⟩ := hp.valid
      exact ⟨t, ht, hage, hhistory.valid t ht⟩
    · obtain ⟨t, ht, hage⟩ := hp.status
      exact ⟨t, ht, hage, hhistory.status t ht⟩
    · intro hmode
      rw [← requested_eq cfg nonce l (n + 1)] at hmode
      obtain ⟨t, ht, hage⟩ := hp.cts hmode
      exact ⟨t, ht, hage, hhistory.cts t ht⟩
  · intro n
    by_cases hopen' : (connectionAt cfg nonce l (n + 1)).phase = .opened
    · by_cases hi : ∃ i effects, Iterates cfg nonce l n i effects
      · obtain ⟨i, effects, hi⟩ := hi
        obtain ⟨hsynced, hhistory⟩ := hi.synced hopen'
        rcases hsynced.advance.configuration with (hsame | ⟨hnone, hveto⟩) |
          ⟨information, capabilities, hinfo, hcaps, hconf⟩
        · exact .inl hsame
        · exact .inr (.inl ⟨hnone, .inr hveto⟩)
        · obtain ⟨b, hb, hcommitted⟩ := hhistory.committed hinfo hcaps hconf
          exact .inr (.inr ⟨b, hb.begun, hcommitted⟩)
      · exact .inl (configuration_idle hi)
    · exact .inr (.inl ⟨((history cfg nonce l (n + 1)).2 hopen').configuration, .inl hopen'⟩)

/-- Iterations that read the given chunks at the given times. -/
def sampleReads (chunks : List (ℚ × Bytes)) : List Op :=
  chunks.map fun (now, chunk) => .iterate {
    read := .data chunk
    now
    clock := fun _ => now
    drain := fun _ => .done
    busy := false
    recovery := false
    outbound := none }

/-- A status, the replies to both queries and one more status. -/
def readyRun : List Op :=
  .connect ⟨1, 2⟩ (.opened 0) :: sampleReads
    [(1, encodeFrame ⟨255, 0xAF, 0x13, List.replicate 23 0, by decide⟩),
     (2, encodeFrame ⟨10, 0xBF, 0x24, List.replicate 21 1, by decide⟩),
     (3, encodeFrame ⟨10, 0xBF, 0x2E, List.replicate 6 0, by decide⟩),
     (4, encodeFrame ⟨255, 0xAF, 0x13, List.replicate 23 0, by decide⟩)]

example : (connectionAt { requestedMode := .bwaTcp, sha256 := fun _ => [] } ⟨1, 2⟩ readyRun 5).state =
    .ready := by
  decide +kernel

end Connection

end BalboaRs485
