import BalboaRs485.Transport.Slots

/-!
# What READY means

READY is derived from a dozen fields that three places reset. This module separates
what holds between them in every state (`Coherent`) from how one iteration moves
them (`Advance`), and reads the history of a run off the second.

* `Absorbs`, `absorbAll_absorbs`: what the messages of a batch can change.
* `iteration_sync`: an iteration keeps `Coherent` and moves by an `Advance`; where it
  ends in READY, all that READY is derived from holds.
* `History`, `history`: the begin of the synchronization, the replies and the
  times behind the fields of an open connection.
* `ready_sound`, `configuration_replaced`: soundness of READY, and of refreshes.
-/

namespace BalboaRs485

namespace Connection

open Proc

variable {cfg : ConnectionConfig} {i : Iteration} {c d : Connection} {out : List Effect}

/-! ## Messages of a batch -/

/-- The batch of an iteration has a frame that decodes to `message`. -/
def Decodes (c : Connection) (i : Iteration) (message : Message) : Prop :=
  ∃ frame ∈ c.batch i,
    decodeMessage frame c.policy.address c.policy.ctsAddress = .ok message

/-- The iteration finds the query pending, and it has not timed out. -/
def Awaits (cfg : ConnectionConfig) (c : Connection) (i : Iteration) (q : Query) : Prop :=
  c.pending = some q ∧ ¬ c.queryTimedOut cfg i.now

/-- What messages can change; `tell` are the messages. A pending query takes one
    reply. -/
structure Absorbs (now : ℚ) (tell : Message → Prop) (c d : Connection) : Prop where
  state : d.state = c.state
  configuration : d.configuration = c.configuration
  syncStatusSequence : d.syncStatusSequence = c.syncStatusSequence
  syncStarted : d.syncStarted = c.syncStarted
  syncCommitted : d.syncCommitted = c.syncCommitted
  lastValid : d.lastValid = c.lastValid
  openedAt : d.openedAt = c.openedAt
  status : (d.lastStatus = c.lastStatus ∧ d.statusSequence = c.statusSequence) ∨
    (d.lastStatus = some now ∧ c.statusSequence < d.statusSequence ∧ ∃ m, tell (.status m))
  cts : d.lastReady = c.lastReady ∨ d.lastReady = some now ∧ ∃ frame, tell (.ready frame)
  seen : d.policy.statusSeen = true → c.policy.statusSeen = true ∨ d.lastStatus = some now
  reply : (d.information = c.information ∧ d.capabilities = c.capabilities ∧ d.pending = c.pending) ∨
    (c.pending = some .information ∧ d.pending = none ∧ d.capabilities = c.capabilities ∧
      ∃ m, d.information = some m ∧ tell (.information m)) ∨
    (c.pending = some .capabilities ∧ d.pending = none ∧ d.information = c.information ∧
      ∃ m, d.capabilities = some m ∧ tell (.capabilities m))

variable {now : ℚ} {tell tell' : Message → Prop}

theorem Absorbs.refl (c : Connection) : Absorbs now tell c c :=
  ⟨rfl, rfl, rfl, rfl, rfl, rfl, rfl, .inl ⟨rfl, rfl⟩, .inl rfl, .inl, .inl ⟨rfl, rfl, rfl⟩⟩

theorem Absorbs.mono (h : Absorbs now tell c d) (ht : ∀ m, tell m → tell' m) :
    Absorbs now tell' c d where
  state := h.state
  configuration := h.configuration
  syncStatusSequence := h.syncStatusSequence
  syncStarted := h.syncStarted
  syncCommitted := h.syncCommitted
  lastValid := h.lastValid
  openedAt := h.openedAt
  status := h.status.imp_right fun ⟨h1, h2, m, hm⟩ => ⟨h1, h2, m, ht _ hm⟩
  cts := h.cts.imp_right fun ⟨h1, frame, hf⟩ => ⟨h1, frame, ht _ hf⟩
  seen := h.seen
  reply := h.reply.imp_right <| .imp
    (fun ⟨h1, h2, h3, m, h4, hm⟩ => ⟨h1, h2, h3, m, h4, ht _ hm⟩)
    (fun ⟨h1, h2, h3, m, h4, hm⟩ => ⟨h1, h2, h3, m, h4, ht _ hm⟩)

theorem Absorbs.trans {e : Connection} (h : Absorbs now tell c d) (h' : Absorbs now tell d e) :
    Absorbs now tell c e where
  state := h'.state.trans h.state
  configuration := h'.configuration.trans h.configuration
  syncStatusSequence := h'.syncStatusSequence.trans h.syncStatusSequence
  syncStarted := h'.syncStarted.trans h.syncStarted
  syncCommitted := h'.syncCommitted.trans h.syncCommitted
  lastValid := h'.lastValid.trans h.lastValid
  openedAt := h'.openedAt.trans h.openedAt
  status := by
    rcases h'.status with ⟨h1, h2⟩ | ⟨h1, h2, h3⟩
    · rw [h1, h2]
      exact h.status
    · rcases h.status with ⟨-, h4⟩ | ⟨-, h4, -⟩
      · exact .inr ⟨h1, h4 ▸ h2, h3⟩
      · exact .inr ⟨h1, h4.trans h2, h3⟩
  cts := by
    rcases h'.cts with h1 | h1
    · rw [h1]
      exact h.cts
    · exact .inr h1
  seen hs := by
    rcases h'.seen hs with h1 | h1
    · refine (h.seen h1).imp_right fun h2 => ?_
      rcases h'.status with ⟨h3, -⟩ | ⟨h3, -⟩
      · rw [h3, h2]
      · exact h3
    · exact .inr h1
  reply := by
    rcases h.reply with ⟨h1, h2, h3⟩ | ⟨h1, h2, h3, h4⟩ | ⟨h1, h2, h3, h4⟩
    · rw [← h1, ← h2, ← h3]
      exact h'.reply
    · -- the query is answered: the rest of the batch cannot answer it again
      rcases h'.reply with ⟨h5, h6, h7⟩ | ⟨h5, -⟩ | ⟨h5, -⟩
      · rw [h5, h6, h7]
        exact .inr (.inl ⟨h1, h2, h3, h4⟩)
      · rw [h2] at h5
        cases h5
      · rw [h2] at h5
        cases h5
    · rcases h'.reply with ⟨h5, h6, h7⟩ | ⟨h5, -⟩ | ⟨h5, -⟩
      · rw [h5, h6, h7]
        exact .inr (.inr ⟨h1, h2, h3, h4⟩)
      · rw [h2] at h5
        cases h5
      · rw [h2] at h5
        cases h5

/-- A frame with the header of a status decodes to a status or not at all. -/
theorem decodeMessage_statusHeader {frame : Frame} {responseAddress readyAddress : UInt8}
    {message : Message} (hs : frame.statusHeader = true)
    (h : decodeMessage frame responseAddress readyAddress = .ok message) :
    ∃ m, message = .status m := by
  obtain ⟨address, family, messageType, payload, short⟩ := frame
  obtain ⟨rfl, rfl, rfl⟩ := of_decide_eq_true hs
  have hd : decodeMessage ⟨255, 175, 19, payload, short⟩ responseAddress readyAddress =
      decodeStatus ⟨255, 175, 19, payload, short⟩ := by
    simp [decodeMessage]
  rw [hd] at h
  unfold decodeStatus at h
  dsimp only at h
  split at h
  · cases h
    exact ⟨_, rfl⟩
  · cases h

/-- The empty CTS is a `ReadyMessage` for a client that listens on its address. -/
theorem decodeMessage_cts (responseAddress address : UInt8) :
    decodeMessage (.cts address) responseAddress address = .ok (.ready (.cts address)) := by
  simp [decodeMessage, Frame.cts, Frame.bare]

theorem take_absorbs {message : Message} (htell : tell message) {p : BusPolicy}
    (hseen : p.statusSeen = true → c.policy.statusSeen = true ∨ ∃ m, message = .status m) :
    Absorbs now tell c ({ c with policy := p }.take now message) := by
  cases message with
  | status m =>
    exact ⟨rfl, rfl, rfl, rfl, rfl, rfl, rfl, .inr ⟨rfl, Nat.lt_succ_self _, m, htell⟩, .inl rfl,
      fun _ => .inr rfl, .inl ⟨rfl, rfl, rfl⟩⟩
  | ready frame =>
    refine ⟨rfl, rfl, rfl, rfl, rfl, rfl, rfl, .inl ⟨rfl, rfl⟩, .inr ⟨rfl, frame, htell⟩, ?_,
      .inl ⟨rfl, rfl, rfl⟩⟩
    intro hs
    refine (hseen hs).imp_right ?_
    rintro ⟨m, hm⟩
    cases hm
  | information m =>
    have hs : p.statusSeen = true → c.policy.statusSeen = true := by
      intro hs
      rcases hseen hs with h | ⟨m, hm⟩
      · exact h
      · cases hm
    simp only [take]
    split
    · rename_i hp
      exact ⟨rfl, rfl, rfl, rfl, rfl, rfl, rfl, .inl ⟨rfl, rfl⟩, .inl rfl, fun h => .inl (hs h),
        .inr (.inl ⟨hp, rfl, rfl, m, rfl, htell⟩)⟩
    · exact ⟨rfl, rfl, rfl, rfl, rfl, rfl, rfl, .inl ⟨rfl, rfl⟩, .inl rfl, fun h => .inl (hs h),
        .inl ⟨rfl, rfl, rfl⟩⟩
  | capabilities m =>
    have hs : p.statusSeen = true → c.policy.statusSeen = true := by
      intro hs
      rcases hseen hs with h | ⟨m, hm⟩
      · exact h
      · cases hm
    simp only [take]
    split
    · rename_i hp
      exact ⟨rfl, rfl, rfl, rfl, rfl, rfl, rfl, .inl ⟨rfl, rfl⟩, .inl rfl, fun h => .inl (hs h),
        .inr (.inr ⟨hp, rfl, rfl, m, rfl, htell⟩)⟩
    · exact ⟨rfl, rfl, rfl, rfl, rfl, rfl, rfl, .inl ⟨rfl, rfl⟩, .inl rfl, fun h => .inl (hs h),
        .inl ⟨rfl, rfl, rfl⟩⟩
  | unknown _ | setup _ | filterCycles _ | faultLog _ =>
    refine ⟨rfl, rfl, rfl, rfl, rfl, rfl, rfl, .inl ⟨rfl, rfl⟩, .inl rfl, ?_, .inl ⟨rfl, rfl, rfl⟩⟩
    intro hs
    refine (hseen hs).imp_right ?_
    rintro ⟨m, hm⟩
    cases hm

theorem absorb_absorbs (frame : Frame)
    (htell : ∀ message, decodeMessage frame c.policy.address c.policy.ctsAddress = .ok message →
      tell message) : Absorbs now tell c (absorb now c frame) := by
  unfold absorb
  split
  · exact .refl c
  · rename_i message hm
    refine take_absorbs (htell message hm) fun hs => ?_
    by_cases hc : c.policy.statusSeen = true
    · exact .inl hc
    · have hheader : frame.statusHeader = true := by
        simpa [BusPolicy.observe, hc] using hs
      exact .inr (decodeMessage_statusHeader hheader hm)

/-- The messages of a batch, decoded with the addresses from before it. -/
theorem absorbAll_absorbs (now : ℚ) (c : Connection) (frames : List Frame) :
    Absorbs now (fun message => ∃ frame ∈ frames,
      decodeMessage frame c.policy.address c.policy.ctsAddress = .ok message) c
      (c.absorbAll now frames) := by
  induction frames generalizing c with
  | nil => exact .refl c
  | cons first frames ih =>
    have hl := (absorb_hears now c first).latches
    have hfirst : Absorbs now (fun message => ∃ frame ∈ first :: frames,
        decodeMessage frame c.policy.address c.policy.ctsAddress = .ok message) c
        (absorb now c first) :=
      absorb_absorbs first fun message hm => ⟨first, List.mem_cons_self, hm⟩
    refine hfirst.trans ((ih (absorb now c first)).mono ?_)
    rintro message ⟨frame, hmem, hm⟩
    rw [hl.address, hl.ctsAddress] at hm
    exact ⟨frame, List.mem_cons_of_mem _ hmem, hm⟩

/-- A CTS in the batch has been heard. -/
theorem lastReady_of_cts (now : ℚ) {frames : List Frame} (h : .cts c.policy.ctsAddress ∈ frames) :
    (c.absorbAll now frames).lastReady ≠ none := by
  induction frames generalizing c with
  | nil => cases h
  | cons first frames ih =>
    have hl := (absorb_hears now c first).latches
    show ((absorb now c first).absorbAll now frames).lastReady ≠ none
    rcases List.mem_cons.mp h with rfl | hmem
    · have hfirst : (absorb now c (.cts c.policy.ctsAddress)).lastReady = some now := by
        unfold absorb
        rw [decodeMessage_cts]
        rfl
      rcases (absorbAll_absorbs now (absorb now c (.cts c.policy.ctsAddress)) frames).cts
        with hsame | ⟨hset, -⟩
      · rw [hsame, hfirst]
        simp
      · rw [hset]
        simp
    · apply ih
      rw [hl.ctsAddress]
      exact hmem

/-! ## What holds in every state -/

/-- What holds between the fields behind READY. -/
structure Coherent (c : Connection) : Prop where
  seen : c.policy.statusSeen = true → c.lastStatus ≠ none
  valid : c.lastStatus ≠ none → c.lastValid ≠ none
  early : c.lastValid = none → c.state ≠ .ready
  /-- The query that is pending asks for what is missing next. -/
  asked : ∀ q, c.pending = some q → (q = .information ∧ c.information = none) ∨
    (q = .capabilities ∧ c.information ≠ none ∧ c.capabilities = none)
  ordered : c.information = none → c.capabilities = none
  idle : c.syncStarted = none → c.information = none ∧ c.pending = none
  committed : c.syncCommitted = true → c.pending = none ∧ ∃ information capabilities,
    c.information = some information ∧ c.capabilities = some capabilities ∧
      c.configuration = some ⟨information, capabilities⟩
  /-- On a shared bus nothing was asked without a CTS. -/
  slotted : c.policy.requested = .classicRs485 ∨ c.policy.requested = .channelRs485 →
    c.pending ≠ none ∨ c.information ≠ none → c.lastReady ≠ none

/-- The account of management, and the parts of the policy that are not evidence, do
    not matter. -/
theorem Coherent.rebase (h : Coherent c) {p : BusPolicy} (requests : ℕ) (nonces : List Nonce)
    (hs : p.statusSeen = c.policy.statusSeen) (hr : p.requested = c.policy.requested) :
    Coherent { c with policy := p, assignmentRequests := requests, assignmentNonces := nonces } where
  seen hp := h.seen (hs.symm.trans hp)
  valid := h.valid
  early := h.early
  asked := h.asked
  ordered := h.ordered
  idle := h.idle
  committed := h.committed
  slotted hp := h.slotted (by rwa [← hr])

theorem Coherent.receiveChunk (h : Coherent c) (now : ℚ) (chunk : Bytes) :
    Coherent (c.receiveChunk now chunk).1 where
  seen := h.seen
  valid hs := by
    show (if (c.parser.feed chunk).1 ≠ [] then some now else c.lastValid) ≠ none
    split
    · simp
    · exact h.valid hs
  early hv := by
    have hv : (if (c.parser.feed chunk).1 ≠ [] then some now else c.lastValid) = none := hv
    show (if (c.parser.feed chunk).1 ≠ [] ∧ c.state = .waitingForFrame then .detectingProtocol
      else c.state) ≠ ConnectionState.ready
    split
    · decide
    · split at hv
      · cases hv
      · exact h.early hv
  asked := h.asked
  ordered := h.ordered
  idle := h.idle
  committed := h.committed
  slotted := h.slotted

theorem Coherent.received (h : Coherent c) (i : Iteration) : Coherent (c.received i) := by
  unfold Connection.received
  split
  · split
    · exact h
    · exact h.receiveChunk i.now _
  · exact h

theorem Coherent.withoutOldQuery (h : Coherent c) (cfg : ConnectionConfig) (now : ℚ) :
    Coherent (c.withoutOldQuery cfg now) := by
  unfold Connection.withoutOldQuery
  split
  · exact ⟨h.seen, h.valid, h.early, fun _ hp => absurd hp (by simp), h.ordered,
      fun hs => ⟨(h.idle hs).1, rfl⟩, fun hc => ⟨rfl, (h.committed hc).2⟩,
      fun hr hp => h.slotted hr (.inr (hp.resolve_left (by simp)))⟩
  · exact h

/-- A status in a batch comes with the time of the batch. -/
theorem Coherent.absorbs (h : Coherent c) (ha : Absorbs now tell c d)
    (hr : d.policy.requested = c.policy.requested)
    (hvalid : (∃ m, tell m) → c.lastValid ≠ none) : Coherent d where
  seen hs := by
    rcases ha.seen hs with hc | hn
    · rcases ha.status with ⟨he, -⟩ | ⟨he, -⟩
      · rw [he]
        exact h.seen hc
      · rw [he]
        simp
    · rw [hn]
      simp
  valid hs := by
    rw [ha.lastValid]
    rcases ha.status with ⟨he, -⟩ | ⟨-, -, m, hm⟩
    · rw [he] at hs
      exact h.valid hs
    · exact hvalid ⟨_, hm⟩
  early hv := by
    rw [ha.state]
    exact h.early (ha.lastValid.symm.trans hv)
  asked q hq := by
    rcases ha.reply with ⟨h1, h2, h3⟩ | ⟨-, h2, -⟩ | ⟨-, h2, -⟩
    · rw [h1, h2]
      exact h.asked q (h3.symm.trans hq)
    · rw [h2] at hq
      cases hq
    · rw [h2] at hq
      cases hq
  ordered hi := by
    rcases ha.reply with ⟨h1, h2, -⟩ | ⟨-, -, -, m, hm, -⟩ | ⟨hp, -, h3, -⟩
    · rw [h2]
      exact h.ordered (h1.symm.trans hi)
    · rw [hm] at hi
      cases hi
    · rcases h.asked _ hp with ⟨hq, -⟩ | ⟨-, hne, -⟩
      · cases hq
      · exact absurd (h3.symm.trans hi) hne
  idle hs := by
    obtain ⟨h4, h5⟩ := h.idle (ha.syncStarted.symm.trans hs)
    rcases ha.reply with ⟨h1, -, h3⟩ | ⟨hp, -⟩ | ⟨hp, -⟩
    · exact ⟨h1.trans h4, h3.trans h5⟩
    · rw [h5] at hp
      cases hp
    · rw [h5] at hp
      cases hp
  committed hc := by
    obtain ⟨h4, information, capabilities, h5, h6, h7⟩ :=
      h.committed (ha.syncCommitted.symm.trans hc)
    rcases ha.reply with ⟨h1, h2, h3⟩ | ⟨hp, -⟩ | ⟨hp, -⟩
    · exact ⟨h3.trans h4, information, capabilities, h1.trans h5, h2.trans h6,
        ha.configuration.trans h7⟩
    · rw [h4] at hp
      cases hp
    · rw [h4] at hp
      cases hp
  slotted hreq hp := by
    rw [hr] at hreq
    have hold : c.pending ≠ none ∨ c.information ≠ none := by
      rcases ha.reply with ⟨h1, -, h3⟩ | ⟨hq, -⟩ | ⟨hq, -⟩
      · rwa [h1, h3] at hp
      · exact .inl (by rw [hq]; simp)
      · exact .inl (by rw [hq]; simp)
    rcases ha.cts with he | ⟨he, -⟩
    · rw [he]
      exact h.slotted hreq hold
    · rw [he]
      simp

theorem Coherent.veto (h : Coherent c) (cfg : ConnectionConfig) (previous : Bool) :
    Coherent (c.veto cfg previous) := by
  unfold Connection.veto
  split
  · exact ⟨h.seen, h.valid, h.early, fun _ hp => absurd hp (by simp), fun _ => rfl,
      fun _ => ⟨rfl, rfl⟩, fun hc => absurd hc (by simp), fun _ hp => absurd hp (by simp)⟩
  · exact h

theorem Coherent.beginSync (h : Coherent c) (now : ℚ) : Coherent (c.beginSync now) where
  seen := h.seen
  valid := h.valid
  early _ := by
    show ConnectionState.synchronizing ≠ .ready
    decide
  asked _ hp := absurd hp (by simp [Connection.beginSync])
  ordered _ := rfl
  idle _ := ⟨rfl, rfl⟩
  committed hc := absurd hc (by simp [Connection.beginSync])
  slotted _ hp := absurd hp (by simp [Connection.beginSync])

/-- `commit` takes both replies, or changes nothing. -/
theorem commit_cases (cfg : ConnectionConfig) (c : Connection) :
    (c.commit cfg = c ∧ (c.syncCommitted = true ∨ c.information = none ∨ c.capabilities = none)) ∨
      ∃ information capabilities revision signature, c.information = some information ∧
        c.capabilities = some capabilities ∧ c.syncCommitted = false ∧
        c.commit cfg = { c with
          configuration := some ⟨information, capabilities⟩
          revision := revision
          lastSignature := signature
          syncCommitted := true } := by
  unfold commit
  split
  · rename_i information capabilities hi hc
    split
    · rename_i hcommitted
      exact .inl ⟨rfl, .inl hcommitted⟩
    · rename_i hcommitted
      exact .inr ⟨information, capabilities, _, _, hi, hc, by simpa using hcommitted, rfl⟩
  · rename_i hno
    refine .inl ⟨rfl, .inr ?_⟩
    cases hi : c.information with
    | none => exact .inl rfl
    | some information =>
      cases hc : c.capabilities with
      | none => exact .inr rfl
      | some capabilities => exact absurd hc (hno information capabilities hi)

theorem Coherent.commit (h : Coherent c) (cfg : ConnectionConfig) : Coherent (c.commit cfg) := by
  rcases commit_cases cfg c with ⟨he, -⟩ | ⟨information, capabilities, _, _, hi, hc, -, he⟩
  · rw [he]
    exact h
  · have hp : c.pending = none := by
      cases hq : c.pending with
      | none => rfl
      | some q =>
        rcases h.asked q hq with ⟨-, hn⟩ | ⟨-, -, hn⟩
        · rw [hi] at hn
          cases hn
        · rw [hc] at hn
          cases hn
    rw [he]
    exact ⟨h.seen, h.valid, h.early, h.asked, h.ordered, h.idle,
      fun _ => ⟨hp, information, capabilities, hi, hc, rfl⟩, h.slotted⟩

theorem settle_eq (cfg : ConnectionConfig) (c : Connection) (now : ℚ) :
    ∃ active at_, c.settle cfg now = { c with syncActive := active, refreshAt := at_ } := by
  unfold settle
  split
  · exact ⟨_, _, rfl⟩
  · exact ⟨c.syncActive, c.refreshAt, rfl⟩

theorem Coherent.settle (h : Coherent c) (cfg : ConnectionConfig) (now : ℚ) :
    Coherent (c.settle cfg now) := by
  obtain ⟨active, at_, he⟩ := settle_eq cfg c now
  rw [he]
  exact ⟨h.seen, h.valid, h.early, h.asked, h.ordered, h.idle, h.committed, h.slotted⟩

/-- Whether a connection is READY is decided by frames that have been received. -/
theorem Coherent.enter (h : Coherent c) (degraded : Bool) (hv : c.lastValid ≠ none) :
    Coherent (c.enter degraded) :=
  ⟨h.seen, h.valid, fun hn => absurd hn hv, h.asked, h.ordered, h.idle, h.committed, h.slotted⟩

theorem Coherent.detect (h : Coherent c) (degraded : Bool) : Coherent (c.detect degraded) := by
  unfold Connection.detect
  split
  · rename_i hv
    exact ⟨h.seen, h.valid, fun hn => absurd hn hv, h.asked, h.ordered, h.idle, h.committed,
      h.slotted⟩
  · exact h

theorem Coherent.synced (h : Coherent c) (cfg : ConnectionConfig) (i : Iteration) :
    Coherent (c.synced cfg i) := by
  unfold Connection.synced
  refine (Coherent.commit ?_ cfg).settle cfg i.now
  split
  · exact h.beginSync i.now
  · exact h

/-! ## How one iteration moves the fields -/

/-- A query was written. -/
def Asks (out : List Effect) (q : Query) : Prop :=
  ∃ w ∈ writes out, w.site = .query ∧ ∃ address, w.frame = (encodeQuery q).readdress address

/-- The configuration is still there, or the veto has dropped it. -/
def Retained (c d : Connection) : Prop :=
  d.configuration = c.configuration ∨
    d.configuration = none ∧ c.policy.channelSeen = false ∧ d.policy.channelSeen = true

/-- How an iteration that starts in `c` and leaves `out` has moved the fields behind
    READY. -/
structure Advance (cfg : ConnectionConfig) (i : Iteration) (c d : Connection) (out : List Effect) :
    Prop where
  valid : d.lastValid = c.lastValid ∨ d.lastValid = some i.now ∧ c.batch i ≠ []
  status : d.lastStatus = c.lastStatus ∨ d.lastStatus = some i.now ∧ ∃ m, Decodes c i (.status m)
  cts : d.lastReady = c.lastReady ∨ d.lastReady = some i.now ∧ ∃ f, Decodes c i (.ready f)
  started : (.beginSync ∈ out ∧ d.syncStatusSequence = d.statusSequence) ∨
    (.beginSync ∉ out ∧ d.syncStarted = c.syncStarted ∧
      d.syncStatusSequence = c.syncStatusSequence ∧
      (d.statusSequence = c.statusSequence ∨ ∃ m, Decodes c i (.status m)))
  information : ∀ m, d.information = some m → .beginSync ∉ out ∧
    (c.information = some m ∨ Awaits cfg c i .information ∧ Decodes c i (.information m))
  capabilities : ∀ m, d.capabilities = some m → .beginSync ∉ out ∧
    (c.capabilities = some m ∨ Awaits cfg c i .capabilities ∧ Decodes c i (.capabilities m))
  pending : ∀ q, d.pending = some q → (.beginSync ∉ out ∧ c.pending = some q) ∨ Asks out q
  configuration : Retained c d ∨ ∃ information capabilities, d.information = some information ∧
    d.capabilities = some capabilities ∧ d.configuration = some ⟨information, capabilities⟩

/-- What a connection has been when it is READY at the end of the iteration. -/
structure Prompt (cfg : ConnectionConfig) (i : Iteration) (d : Connection) : Prop where
  supported : d.policy.supported = true
  committed : d.syncCommitted = true
  sequence : d.syncStatusSequence < d.statusSequence
  valid : ∃ t, d.lastValid = some t ∧ i.now - t < cfg.timing.degradeAfter
  status : ∃ t, d.lastStatus = some t ∧ i.now - t < cfg.timing.degradeAfter
  cts : d.policy.requested = .classicRs485 ∨ d.policy.requested = .channelRs485 →
    ∃ t, d.lastReady = some t ∧ i.now - t < cfg.timing.degradeAfter

/-- The state of an iteration, seen from its start. -/
structure Synced (cfg : ConnectionConfig) (i : Iteration) (c d : Connection) (out : List Effect) :
    Prop where
  coherent : Coherent d
  advance : Advance cfg i c d out
  prompt : d.state = .ready → Prompt cfg i d

/-- Only `beginSync` and queries are read off the outputs. -/
theorem Advance.outputs {out' : List Effect} (h : Advance cfg i c d out)
    (hb : .beginSync ∈ out' ↔ .beginSync ∈ out) (ha : ∀ q, Asks out q → Asks out' q) :
    Advance cfg i c d out' where
  valid := h.valid
  status := h.status
  cts := h.cts
  started := by rw [hb]; exact h.started
  information := by rw [hb]; exact h.information
  capabilities := by rw [hb]; exact h.capabilities
  pending q hq := by
    rw [hb]
    exact (h.pending q hq).imp_right (ha q)
  configuration := h.configuration

theorem Advance.write (h : Advance cfg i c d out) (w : Write) :
    Advance cfg i c d (out ++ [.write w]) :=
  h.outputs (by simp) fun q ⟨w', hw', hq⟩ => ⟨w', by simp [hw'], hq⟩

theorem Advance.rebase (h : Advance cfg i c d out) {p : BusPolicy} (requests : ℕ)
    (nonces : List Nonce) (hc : p.channelSeen = d.policy.channelSeen) : Advance cfg i c
      { d with policy := p, assignmentRequests := requests, assignmentNonces := nonces } out where
  valid := h.valid
  status := h.status
  cts := h.cts
  started := h.started
  information := h.information
  capabilities := h.capabilities
  pending := h.pending
  configuration := h.configuration.imp_left <| .imp_right
    fun ⟨h1, h2, h3⟩ => ⟨h1, h2, hc.trans h3⟩

/-- The fields at the start of the loop over the frames. -/
theorem start_eq (cfg : ConnectionConfig) (c : Connection) (i : Iteration) :
    ∃ parser wireTail valid state pending, (c.received i).withoutOldQuery cfg i.now =
        { c with parser, wireTail, lastValid := valid, state, pending } ∧
      (valid = c.lastValid ∨ valid = some i.now ∧ c.batch i ≠ []) ∧
      (c.batch i ≠ [] → valid = some i.now) ∧
      ∀ q, pending = some q → Awaits cfg c i q := by
  have hreceived : ∃ parser wireTail valid state, c.received i =
        { c with parser, wireTail, lastValid := valid, state } ∧
      (valid = c.lastValid ∨ valid = some i.now ∧ c.batch i ≠ []) ∧
      (c.batch i ≠ [] → valid = some i.now) := by
    unfold received batch
    split
    · rename_i chunk _
      by_cases hchunk : chunk = []
      · rw [if_pos hchunk, if_pos hchunk]
        exact ⟨_, _, _, _, rfl, .inl rfl, fun h => absurd rfl h⟩
      · rw [if_neg hchunk, if_neg hchunk]
        refine ⟨_, _, _, _, rfl, ?_, fun h => if_pos h⟩
        show (if (c.receiveChunk i.now chunk).2 ≠ [] then some i.now else c.lastValid) =
          c.lastValid ∨ (if (c.receiveChunk i.now chunk).2 ≠ [] then some i.now else c.lastValid) =
            some i.now ∧ (c.receiveChunk i.now chunk).2 ≠ []
        by_cases hframes : (c.receiveChunk i.now chunk).2 ≠ []
        · rw [if_pos hframes]
          exact .inr ⟨rfl, hframes⟩
        · rw [if_neg hframes]
          exact .inl rfl
    · exact ⟨_, _, _, _, rfl, .inl rfl, fun h => absurd rfl h⟩
  obtain ⟨parser, wireTail, valid, state, he, hvalid, hbatch⟩ := hreceived
  rw [he]
  unfold withoutOldQuery
  split
  · exact ⟨_, _, _, _, none, rfl, hvalid, hbatch, fun q hq => absurd hq (by simp)⟩
  · rename_i hwait
    exact ⟨_, _, _, _, c.pending, rfl, hvalid, hbatch, fun q hq => ⟨hq, hwait⟩⟩

/-- The messages of a batch advance what a query waits for, the status and the CTS. -/
theorem Absorbs.advance {parser : FrameParser} {wireTail : Bytes} {valid : Option ℚ}
    {state : ConnectionState} {pending : Option Query}
    (ha : Absorbs i.now (Decodes c i)
      { c with parser, wireTail, lastValid := valid, state, pending } d)
    (hvalid : valid = c.lastValid ∨ valid = some i.now ∧ c.batch i ≠ [])
    (hpending : ∀ q, pending = some q → Awaits cfg c i q) : Advance cfg i c d [] := by
  refine ⟨?_, ?_, ha.cts, ?_, ?_, ?_, ?_, .inl (.inl ha.configuration)⟩
  · rw [ha.lastValid]
    exact hvalid
  · rcases ha.status with ⟨h1, -⟩ | ⟨h1, -, h2⟩
    · exact .inl h1
    · exact .inr ⟨h1, h2⟩
  · refine .inr ⟨by simp, ha.syncStarted, ha.syncStatusSequence, ?_⟩
    rcases ha.status with ⟨-, h1⟩ | ⟨-, -, h2⟩
    · exact .inl h1
    · exact .inr h2
  · intro m hm
    refine ⟨by simp, ?_⟩
    rcases ha.reply with ⟨h1, -⟩ | ⟨hp, -, -, m', h1, hd⟩ | ⟨-, -, h1, -⟩
    · exact .inl (h1.symm.trans hm)
    · rw [h1] at hm
      cases hm
      exact .inr ⟨hpending _ hp, hd⟩
    · exact .inl (h1.symm.trans hm)
  · intro m hm
    refine ⟨by simp, ?_⟩
    rcases ha.reply with ⟨-, h1, -⟩ | ⟨-, -, h1, -⟩ | ⟨hp, -, -, m', h1, hd⟩
    · exact .inl (h1.symm.trans hm)
    · exact .inl (h1.symm.trans hm)
    · rw [h1] at hm
      cases hm
      exact .inr ⟨hpending _ hp, hd⟩
  · intro q hq
    rcases ha.reply with ⟨-, -, h1⟩ | ⟨-, h1, -⟩ | ⟨-, h1, -⟩
    · exact .inl ⟨by simp, (hpending q (h1.symm.trans hq)).1⟩
    · rw [h1] at hq
      cases hq
    · rw [h1] at hq
      cases hq

/-- The batch has been received, its messages taken and the veto applied. -/
theorem synced_received (cfg : ConnectionConfig) (i : Iteration) (h : Coherent c) :
    Coherent (observeFrames cfg i.now (c.batch i) ((c.received i).withoutOldQuery cfg i.now)) ∧
      Advance cfg i c
        (observeFrames cfg i.now (c.batch i) ((c.received i).withoutOldQuery cfg i.now)) [] ∧
      Retained c (observeFrames cfg i.now (c.batch i)
        ((c.received i).withoutOldQuery cfg i.now)) ∧
      ((c.batch i).getLast? = some (.cts c.policy.ctsAddress) → (observeFrames cfg i.now (c.batch i)
        ((c.received i).withoutOldQuery cfg i.now)).lastReady ≠ none) := by
  have hstart := (h.received i).withoutOldQuery cfg i.now
  obtain ⟨parser, wireTail, valid, state, pending, he, hvalid, hbatch, hpending⟩ := start_eq cfg c i
  rw [he] at hstart ⊢
  generalize hc1 : ({ c with parser, wireTail, lastValid := valid, state, pending } : Connection) =
    c1 at hstart ⊢
  have hpolicy : c1.policy = c.policy := by rw [← hc1]
  have ha : Absorbs i.now (Decodes c i) c1 (c1.absorbAll i.now (c.batch i)) := by
    have ha := absorbAll_absorbs i.now c1 (c.batch i)
    rw [hpolicy] at ha
    exact ha
  have hl := (absorbAll_hears i.now c1 (c.batch i)).latches
  have hcoherent : Coherent (c1.absorbAll i.now (c.batch i)) := by
    refine hstart.absorbs ha hl.requested ?_
    rintro ⟨m, frame, hmem, -⟩
    rw [← hc1]
    show valid ≠ none
    rw [hbatch (List.ne_nil_of_mem hmem)]
    simp
  have hadvance : Advance cfg i c (c1.absorbAll i.now (c.batch i)) [] := by
    subst hc1
    exact ha.advance hvalid hpending
  have hretained : Retained c (observeFrames cfg i.now (c.batch i) c1) := by
    unfold observeFrames veto
    split
    · rename_i hveto
      rw [hpolicy] at hveto
      exact .inr ⟨rfl, by simpa using hveto.2.1, hveto.1⟩
    · exact .inl (ha.configuration.trans (by rw [← hc1]))
  refine ⟨hcoherent.veto cfg _, ?_, hretained, ?_⟩
  · unfold observeFrames veto at hretained ⊢
    split
    · rename_i hveto
      rw [if_pos hveto] at hretained
      exact ⟨hadvance.valid, hadvance.status, hadvance.cts, hadvance.started,
        fun m hm => absurd hm (by simp), fun m hm => absurd hm (by simp),
        fun q hq => absurd hq (by simp), .inl hretained⟩
    · exact hadvance
  · intro hlast
    have hmem := List.mem_of_getLast? hlast
    rw [← hpolicy] at hmem
    have hready := lastReady_of_cts i.now hmem
    unfold observeFrames veto
    split <;> exact hready

theorem Synced.rebase (h : Synced cfg i c d out) {p : BusPolicy} (requests : ℕ)
    (nonces : List Nonce) (hs : p.statusSeen = d.policy.statusSeen)
    (hr : p.requested = d.policy.requested) (hc : p.channelSeen = d.policy.channelSeen)
    (hsupp : p.supported = d.policy.supported) : Synced cfg i c
      { d with policy := p, assignmentRequests := requests, assignmentNonces := nonces } out where
  coherent := h.coherent.rebase requests nonces hs hr
  advance := h.advance.rebase requests nonces hc
  prompt hready := by
    have hp := h.prompt hready
    exact ⟨hsupp.trans hp.supported, hp.committed, hp.sequence, hp.valid, hp.status,
      fun hreq => hp.cts (by rwa [← hr])⟩

/-- A transmission of the participant or an idle reply. -/
theorem Synced.transmitted {site : Site} {frame : Connection → Frame} {e : Connection}
    {out' : List Effect} {frames : List Frame} (h : Synced cfg i c d out)
    (ht : Transmitted cfg i frames site frame id d e out out') : Synced cfg i c e out' := by
  obtain ⟨p, hadm, rfl⟩ := ht.admitted
  obtain rfl := ht.written
  obtain ⟨-, -, hp⟩ := BusPolicy.allowsQuery_some hadm
  have hsupp : p.supported = d.policy.supported := by
    unfold BusPolicy.supported BusPolicy.mode
    rw [hp.requested, hp.statusSeen, hp.channelSeen, hp.directBlocked, hp.channel]
  have hbase := h.rebase d.assignmentRequests d.assignmentNonces hp.statusSeen hp.requested
    hp.channelSeen hsupp
  exact ⟨hbase.coherent, hbase.advance.write _, hbase.prompt⟩

/-! ## Synchronization -/

/-- A supported policy is in the mode that was requested. -/
theorem mode_of_supported {p : BusPolicy} (h : p.supported = true) : p.mode = p.requested := by
  rcases p.mode_cases with ⟨hm, hr, -⟩ | ⟨-, hm, -⟩ | ⟨hm, hr⟩ | ⟨hm, hr, -⟩ | hm
  · rw [hm, hr]
  · exact hm
  · rw [hm, hr]
  · rw [hm, hr]
  · simp [BusPolicy.supported, hm, Mode.direct] at h

/-- A supported connection that is not overdue has heard what it needs in time. -/
theorem prompt_of_ages {limit : ℚ} (h : Coherent d) (hsupp : d.policy.supported = true)
    (hages : d.overdue i.now limit = false) :
    (∃ t, d.lastValid = some t ∧ i.now - t < limit) ∧
      (∃ t, d.lastStatus = some t ∧ i.now - t < limit) ∧
      (d.policy.requested = .classicRs485 ∨ d.policy.requested = .channelRs485 →
        d.lastReady ≠ none → ∃ t, d.lastReady = some t ∧ i.now - t < limit) := by
  have hall : ∀ age ∈ d.ages i.now, age < limit := by
    intro age hmem
    have hage := List.any_eq_false.mp hages age hmem
    simpa using hage
  have hage : ∀ last : Option ℚ, i.now - last.getD d.openedAt ∈ d.ages i.now → last ≠ none →
      ∃ t, last = some t ∧ i.now - t < limit := by
    intro last hmem hne
    obtain ⟨t, rfl⟩ := Option.ne_none_iff_exists'.mp hne
    exact ⟨t, rfl, hall _ hmem⟩
  have hstatus : d.lastStatus ≠ none := h.seen (BusPolicy.supported_cases hsupp).1
  refine ⟨hage _ (by simp [ages]) (h.valid hstatus), hage _ (by simp [ages, hsupp]) hstatus, ?_⟩
  intro hreq hne
  refine hage _ ?_ hne
  rw [← mode_of_supported hsupp] at hreq
  simp [ages, hsupp, hreq]

/-- A synchronization that is due starts with nothing to commit. -/
theorem synced_of_wants (h : d.wantsSync cfg i) : d.synced cfg i = d.beginSync i.now := by
  unfold synced
  rw [if_pos h]
  simp [commit, settle, synchronized, beginSync]

theorem beginSync_mem {p : Prop} [Decidable p] (hb : .beginSync ∉ out) :
    .beginSync ∈ (out ++ if p then [.beginSync] else []) ↔ p := by
  split <;> simp_all

theorem Advance.synced (h : Advance cfg i c d out) (hb : .beginSync ∉ out) (hr : Retained c d)
    (degraded : Bool) :
    Advance cfg i c ((d.synced cfg i).enter degraded)
      (out ++ if d.wantsSync cfg i then [.beginSync] else []) := by
  have hmem := beginSync_mem (p := d.wantsSync cfg i) hb
  by_cases hw : d.wantsSync cfg i
  · rw [synced_of_wants hw]
    exact ⟨h.valid, h.status, h.cts, .inl ⟨hmem.mpr hw, rfl⟩,
      fun m hm => absurd hm (by simp [enter, beginSync]),
      fun m hm => absurd hm (by simp [enter, beginSync]),
      fun q hq => absurd hq (by simp [enter, beginSync]), .inl hr⟩
  · -- nothing starts; `commit` and `settle` only touch the configuration here
    have hsame : Advance cfg i c d (out ++ if d.wantsSync cfg i then [.beginSync] else []) := by
      rw [if_neg hw, List.append_nil]
      exact h
    obtain ⟨active, at_, hsettle⟩ := settle_eq cfg (d.commit cfg) i.now
    have hs : d.synced cfg i = { d.commit cfg with syncActive := active, refreshAt := at_ } := by
      rw [← hsettle, Connection.synced, if_neg hw]
    rw [hs]
    rcases commit_cases cfg d with ⟨he, -⟩ | ⟨information, capabilities, _, _, hi, hc, -, he⟩
    · rw [he]
      exact ⟨hsame.valid, hsame.status, hsame.cts, hsame.started, hsame.information,
        hsame.capabilities, hsame.pending, hsame.configuration⟩
    · rw [he]
      exact ⟨hsame.valid, hsame.status, hsame.cts, hsame.started, hsame.information,
        hsame.capabilities, hsame.pending, .inr ⟨information, capabilities, hi, hc, rfl⟩⟩

/-- After `synchronize` a synchronization has started, and an uncommitted one misses a
    reply. -/
theorem synced_started (cfg : ConnectionConfig) (i : Iteration) (d : Connection) :
    (d.synced cfg i).syncStarted ≠ none ∧
      ((d.synced cfg i).syncCommitted = false →
        (d.synced cfg i).information = none ∨ (d.synced cfg i).capabilities = none) := by
  by_cases hw : d.wantsSync cfg i
  · rw [synced_of_wants hw]
    exact ⟨by simp [beginSync], fun _ => .inl rfl⟩
  · obtain ⟨active, at_, hsettle⟩ := settle_eq cfg (d.commit cfg) i.now
    have hs : d.synced cfg i = { d.commit cfg with syncActive := active, refreshAt := at_ } := by
      rw [← hsettle, Connection.synced, if_neg hw]
    have hstarted : d.syncStarted ≠ none := fun hn => hw (.inl hn)
    rw [hs]
    rcases commit_cases cfg d with ⟨he, hno⟩ | ⟨information, capabilities, _, _, -, -, -, he⟩
    · rw [he]
      refine ⟨hstarted, fun hc => hno.resolve_left ?_⟩
      have hc : d.syncCommitted = false := hc
      rw [hc]
      simp
    · rw [he]
      exact ⟨hstarted, fun hc => absurd hc (by simp)⟩

/-- `synchronize` leaves the times of the last messages as they are. -/
theorem synced_lasts (cfg : ConnectionConfig) (i : Iteration) (d : Connection) :
    (d.synced cfg i).lastValid = d.lastValid ∧ (d.synced cfg i).lastStatus = d.lastStatus ∧
      (d.synced cfg i).lastReady = d.lastReady := by
  by_cases hw : d.wantsSync cfg i
  · rw [synced_of_wants hw]
    exact ⟨rfl, rfl, rfl⟩
  · obtain ⟨active, at_, hsettle⟩ := settle_eq cfg (d.commit cfg) i.now
    have hs : d.synced cfg i = { d.commit cfg with syncActive := active, refreshAt := at_ } := by
      rw [← hsettle, Connection.synced, if_neg hw]
    rw [hs]
    rcases commit_cases cfg d with ⟨he, -⟩ | ⟨_, _, _, _, -, -, -, he⟩ <;> rw [he] <;>
      exact ⟨rfl, rfl, rfl⟩

/-- The connection after `synchronize`. -/
theorem Synced.enter {degraded : Bool} (h : Coherent d) (ha : Advance cfg i c d out)
    (hb : .beginSync ∉ out) (hr : Retained c d) (hsupp : d.policy.supported = true)
    (hages : degraded = false → d.overdue i.now cfg.timing.degradeAfter = false) :
    Synced cfg i c ((d.synced cfg i).enter degraded)
      (out ++ if d.wantsSync cfg i then [.beginSync] else []) := by
  have hstatus : d.lastStatus ≠ none := h.seen (BusPolicy.supported_cases hsupp).1
  have hkeep := ha.synced hb hr degraded
  have hcoherent := h.synced cfg i
  obtain ⟨hvalid, hlast, hcts⟩ := synced_lasts cfg i d
  have hpolicy := (synced_stays cfg i d).policy
  refine ⟨hcoherent.enter degraded ?_, hkeep, fun hready => ?_⟩
  · rw [hvalid]
    exact h.valid hstatus
  · have hready : (if degraded = true then ConnectionState.degraded
        else if (d.synced cfg i).synchronized = true then .ready else .synchronizing) = .ready :=
      hready
    cases degraded with
    | true => cases hready
    | false =>
      have hsync : (d.synced cfg i).syncCommitted = true ∧
          (d.synced cfg i).syncStatusSequence < (d.synced cfg i).statusSequence := by
        by_contra hne
        have hno : (d.synced cfg i).synchronized = false := decide_eq_false hne
        rw [hno] at hready
        cases hready
      obtain ⟨hyoung, hyoungStatus, hyoungCts⟩ := prompt_of_ages h hsupp (hages rfl)
      refine ⟨?_, hsync.1, hsync.2, ?_, ?_, ?_⟩
      · show (d.synced cfg i).policy.supported = true
        rw [hpolicy, hsupp]
      · show ∃ t, (d.synced cfg i).lastValid = some t ∧ _
        rw [hvalid]
        exact hyoung
      · show ∃ t, (d.synced cfg i).lastStatus = some t ∧ _
        rw [hlast]
        exact hyoungStatus
      · intro hreq
        have hreq : (d.synced cfg i).policy.requested = .classicRs485 ∨
            (d.synced cfg i).policy.requested = .channelRs485 := hreq
        obtain ⟨-, information, _, hi, -⟩ := hcoherent.committed hsync.1
        have hheard := hcoherent.slotted hreq (.inr (by rw [hi]; simp))
        rw [hpolicy] at hreq
        rw [hcts] at hheard
        show ∃ t, (d.synced cfg i).lastReady = some t ∧ _
        rw [hcts]
        exact hyoungCts hreq hheard

/-! ## The whole iteration -/

theorem asks_write {q : Query} {address : UInt8} {t : ℚ} :
    Asks (out ++ [.write ⟨.query, (encodeQuery q).readdress address, t⟩]) q :=
  ⟨⟨.query, (encodeQuery q).readdress address, t⟩, by simp, rfl, address, rfl⟩

/-- The query asks for the reply that is missing. -/
theorem query_sync {degraded sent : Bool} (h : Synced cfg i c d out) (hstarted : d.syncStarted ≠ none)
    (hmissing : d.syncCommitted = false → d.information = none ∨ d.capabilities = none)
    (hready : degraded = false → d.syncCommitted = false → d.state ≠ .ready)
    (hheard : sent = false → (c.batch i).getLast? = some (.cts d.policy.ctsAddress) →
      d.lastReady ≠ none) :
    wp (query cfg i (c.batch i) degraded sent) (fun _ e out' => Synced cfg i c e out')
      (fun _ _ _ => True) d out := by
  unfold query
  rw [wp_bind, wp_get]
  refine wp_when (fun hguard => ?_) (fun _ => h)
  obtain ⟨hdegraded, hsent, hcommitted, -⟩ := hguard
  refine wp_mono transmit_spec ?_ fun _ _ _ _ => trivial
  rintro _ e out' (⟨-, rfl, rfl⟩ | ht)
  · exact h
  obtain ⟨p, hadm, rfl⟩ := ht.admitted
  obtain rfl := ht.written
  obtain ⟨-, hadmits, hp⟩ := BusPolicy.allowsQuery_some hadm
  have hbase := h.coherent.rebase d.assignmentRequests d.assignmentNonces hp.statusSeen hp.requested
  have hadvance := (h.advance.rebase d.assignmentRequests d.assignmentNonces hp.channelSeen).write
      ⟨.query, (encodeQuery d.nextQuery).readdress p.address, i.clock .query⟩
  refine ⟨?_, ?_, fun hr => absurd hr (hready hdegraded hcommitted)⟩
  · refine ⟨hbase.seen, hbase.valid, hbase.early, ?_, hbase.ordered,
      fun hn => absurd hn hstarted, fun hc => ?_, ?_⟩
    · intro q hq
      have hq : some d.nextQuery = some q := hq
      cases hq
      show (d.nextQuery = .information ∧ d.information = none) ∨
        (d.nextQuery = .capabilities ∧ d.information ≠ none ∧ d.capabilities = none)
      unfold nextQuery
      by_cases hi : d.information = none
      · rw [if_pos hi]
        exact .inl ⟨rfl, hi⟩
      · rw [if_neg hi]
        exact .inr ⟨rfl, hi, (hmissing hcommitted).resolve_left hi⟩
    · have hc : d.syncCommitted = true := hc
      rw [hcommitted] at hc
      cases hc
    · intro hreq _
      have hreq : p.requested = .classicRs485 ∨ p.requested = .channelRs485 := hreq
      rw [hp.requested] at hreq
      exact hheard hsent (hadmits.slot hreq).1
  · refine ⟨hadvance.valid, hadvance.status, hadvance.cts, hadvance.started, hadvance.information,
      hadvance.capabilities, fun q hq => .inr ?_, hadvance.configuration⟩
    have hq : some d.nextQuery = some q := hq
    cases hq
    exact asks_write

theorem progress_sync {degraded sent : Bool} (h : Coherent d) (ha : Advance cfg i c d out)
    (hb : .beginSync ∉ out) (hr : Retained c d)
    (hages : degraded = false → d.overdue i.now cfg.timing.degradeAfter = false)
    (hheard : sent = false → (c.batch i).getLast? = some (.cts d.policy.ctsAddress) →
      d.lastReady ≠ none) :
    wp (progress cfg i (c.batch i) degraded sent) (fun _ e out' => Synced cfg i c e out')
      (fun _ _ _ => True) d out := by
  unfold progress
  rw [wp_bind, wp_get]
  refine wp_ite (fun hsupp => ?_) (fun _ => ?_)
  · rw [wp_bind]
    refine wp_mono synchronize_spec ?_ fun _ _ _ _ => trivial
    rintro _ e out' ⟨rfl, rfl⟩
    have hsynced := Synced.enter h ha hb hr hsupp hages
    obtain ⟨hstarted, hmissing⟩ := synced_started cfg i d
    have hpolicy := (synced_stays cfg i d).policy
    refine query_sync hsynced hstarted hmissing enter_not_ready fun hsent hlast => ?_
    have hlast : (c.batch i).getLast? = some (.cts (d.synced cfg i).policy.ctsAddress) := hlast
    rw [hpolicy] at hlast
    show (d.synced cfg i).lastReady ≠ none
    rw [(synced_lasts cfg i d).2.2]
    exact hheard hsent hlast
  · rw [wp_modify]
    refine ⟨h.detect degraded, ?_, fun hready => ?_⟩
    · unfold detect
      split
      · exact ⟨ha.valid, ha.status, ha.cts, ha.started, ha.information, ha.capabilities, ha.pending,
          ha.configuration⟩
      · exact ha
    · unfold detect at hready
      split at hready
      · cases degraded <;> cases hready
      · rename_i hv
        exact absurd hready (h.early (not_not.mp hv))

theorem transmit_sync {site : Site} {frame : Connection → Frame} {frames : List Frame}
    (h : Synced cfg i c d out) :
    wp (transmit cfg i frames site frame id) (fun _ e out' => Synced cfg i c e out')
      (fun _ _ _ => True) d out := by
  refine wp_mono transmit_spec ?_ fun _ _ _ _ => trivial
  rintro _ e out' (⟨-, rfl, rfl⟩ | ht)
  · exact h
  · exact h.transmitted ht

theorem participate_sync {sent : Bool} {frames : List Frame} (h : Synced cfg i c d out) :
    wp (participate cfg i frames sent) (fun _ e out' => Synced cfg i c e out')
      (fun _ _ _ => True) d out := by
  unfold participate
  refine wp_when (fun _ => wp_ite (fun _ => (wp_raise _).mpr trivial) (fun _ => ?_)) (fun _ => h)
  unfold offer
  rw [wp_bind, wp_get]
  cases i.outbound with
  | none => exact (wp_pure _).mpr h
  | some outbound => exact wp_when (fun _ => transmit_sync h) (fun _ => h)

theorem idle_sync {sent : Bool} {frames : List Frame} (h : Synced cfg i c d out) :
    wp (Connection.idle cfg i frames sent) (fun _ e out' => Synced cfg i c e out')
      (fun _ _ _ => True) d out := by
  unfold Connection.idle
  rw [wp_bind, wp_get]
  cases d.policy.channel.idleReply frames with
  | none => exact (wp_pure _).mpr h
  | some reply => exact wp_when (fun _ => transmit_sync h) (fun _ => h)

/-- Channel management does not touch what READY is derived from. -/
theorem Managed.sync {e : Connection} {sent : Bool} (hm : Managed cfg d e sent [] out)
    (h : Coherent d) (ha : Advance cfg i c d []) (hr : Retained c d) :
    Coherent e ∧ Advance cfg i c e out ∧ .beginSync ∉ out ∧ Retained c e ∧
      e.lastReady = d.lastReady ∧
      (sent = false → e.policy.ctsAddress = d.policy.ctsAddress) := by
  have hb : .beginSync ∉ out ∧ ∀ q, Asks [] q → Asks out q := by
    cases sent with
    | false =>
      rw [(hm.unsent rfl).2]
      exact ⟨by simp, fun _ => id⟩
    | true =>
      obtain ⟨-, -, w, -, rfl⟩ := hm.written rfl
      exact ⟨by simp, fun q ⟨w', hw', _⟩ => absurd hw' (by simp)⟩
  have hcts : sent = false → d.policy.channel.channel = e.policy.channel.channel :=
    fun hsent => (hm.unsent hsent).1.symm
  obtain ⟨channel, requests, nonces, rfl⟩ := hm.shape
  have hadvance := (ha.rebase (p := { d.policy with channel }) requests nonces rfl).outputs
    (by simp [hb.1]) hb.2
  refine ⟨h.rebase (p := { d.policy with channel }) requests nonces rfl rfl, hadvance, hb.1, hr, rfl,
    fun hsent => ?_⟩
  rw [BusPolicy.ctsAddress, BusPolicy.ctsAddress, BusPolicy.address, BusPolicy.address, hcts hsent]
  rfl

/-- **One iteration.** Where it returns, the fields behind READY are coherent and have
    moved by an `Advance`. -/
theorem iteration_sync (cfg : ConnectionConfig) (i : Iteration) (h : Coherent c) :
    wp (iteration cfg i) (fun _ d out => Synced cfg i c d out) (fun _ _ _ => True) c [] := by
  unfold iteration
  rw [wp_bind]
  refine wp_mono receive_spec ?_ fun _ _ _ _ => trivial
  rintro _ _ _ ⟨rfl, rfl, rfl⟩
  rw [wp_bind, wp_modify, wp_bind]
  obtain ⟨hcoherent, hadvance, hretained, hheard⟩ := synced_received cfg i h
  have hk := (received_keeps c i).trans (withoutOldQuery_stays cfg (c.received i) i.now).toKeeps
  have hl := (observeFrames_hears cfg i.now (c.batch i)
    ((c.received i).withoutOldQuery cfg i.now)).latches
  have haddress := hl.ctsAddress
  rw [hk.policy] at haddress
  generalize observeFrames cfg i.now (c.batch i) ((c.received i).withoutOldQuery cfg i.now) = d
    at hcoherent hadvance hretained hheard haddress
  refine wp_mono manage_spec ?_ fun _ _ _ _ => trivial
  intro sent e out hm
  obtain ⟨hcoherent, hadvance, hb, hretained, hready, hcts⟩ := hm.sync hcoherent hadvance hretained
  rw [wp_bind, awaitTraffic, wp_bind, wp_get]
  refine wp_ite (fun _ => (wp_raise _).mpr trivial) (fun _ => ?_)
  rw [wp_pure, wp_bind]
  refine wp_mono (progress_sync hcoherent hadvance hb hretained (fun h => h) ?_) ?_
    fun _ _ _ _ => trivial
  · intro hsent hlast
    -- without a management reply the address is that of the batch
    rw [hcts hsent, haddress] at hlast
    rw [hready]
    exact hheard hlast
  · intro _ e out hs
    rw [wp_bind]
    refine wp_mono (participate_sync hs) ?_ fun _ _ _ _ => trivial
    intro _ e out hs
    exact wp_mono (idle_sync hs) (fun _ _ _ h => h) fun _ _ _ _ => trivial

end Connection

end BalboaRs485
