import BalboaRs485.Transport.Connection

/-!
# What the stages of an iteration do

One specification for each stage of `iteration`. They say what a stage returns,
which state and outputs it leaves, and the same for its exceptions, so that no
later proof unfolds a stage.

* `receive_spec`, `manage_spec`, `synchronize_spec`, `transmit_spec`.
* `Keeps`: the fields that synchronization does not touch.
* `absorbAll_latches`, `absorbAll_evidence`: what the frames of a batch do to the
  policy; frames that are evidence always decode.
-/

namespace BalboaRs485

namespace Connection

open Proc

variable {cfg : ConnectionConfig} {i : Iteration} {c d : Connection} {out : List Effect}

/-! ## Receiving -/

/-- The frames of the batch an iteration reads. -/
def batch (c : Connection) (i : Iteration) : List Frame :=
  match i.read with
  | .data chunk => if chunk = [] then [] else (c.receiveChunk i.now chunk).2
  | _ => []

/-- The connection with the batch in its parser. -/
def received (c : Connection) (i : Iteration) : Connection :=
  match i.read with
  | .data chunk => if chunk = [] then c else (c.receiveChunk i.now chunk).1
  | _ => c

/-- The connection after the query timeout. -/
def withoutOldQuery (cfg : ConnectionConfig) (c : Connection) (now : ℚ) : Connection :=
  if c.queryTimedOut cfg now then { c with pending := none } else c

/-- The fields that neither the parser nor synchronization touches. -/
structure Keeps (c d : Connection) : Prop where
  phase : d.phase = c.phase
  epoch : d.epoch = c.epoch
  policy : d.policy = c.policy
  requests : d.assignmentRequests = c.assignmentRequests
  nonces : d.assignmentNonces = c.assignmentNonces

theorem Keeps.refl (c : Connection) : Keeps c c := ⟨rfl, rfl, rfl, rfl, rfl⟩

theorem Keeps.trans {e : Connection} (h : Keeps c d) (h' : Keeps d e) : Keeps c e :=
  ⟨h'.phase.trans h.phase, h'.epoch.trans h.epoch, h'.policy.trans h.policy,
    h'.requests.trans h.requests, h'.nonces.trans h.nonces⟩

theorem received_keeps (c : Connection) (i : Iteration) : Keeps c (c.received i) := by
  unfold received
  split
  · split
    · exact .refl c
    · exact ⟨rfl, rfl, rfl, rfl, rfl⟩
  · exact .refl c

/-- The fields that synchronization does not touch. -/
structure Stays (c d : Connection) : Prop extends Keeps c d where
  parser : d.parser = c.parser
  wireTail : d.wireTail = c.wireTail

theorem Stays.refl (c : Connection) : Stays c c := ⟨.refl c, rfl, rfl⟩

theorem Stays.trans {e : Connection} (h : Stays c d) (h' : Stays d e) : Stays c e :=
  ⟨h.toKeeps.trans h'.toKeeps, h'.parser.trans h.parser, h'.wireTail.trans h.wireTail⟩

theorem withoutOldQuery_stays (cfg : ConnectionConfig) (c : Connection) (now : ℚ) :
    Stays c (c.withoutOldQuery cfg now) := by
  unfold withoutOldQuery
  split
  · exact ⟨⟨rfl, rfl, rfl, rfl, rfl⟩, rfl, rfl⟩
  · exact .refl c

theorem expireQuery_spec : wp (expireQuery cfg i)
    (fun _ d out' => d = c.withoutOldQuery cfg i.now ∧ out' = out)
    (fun _ d out' => Keeps c d ∧ out' = out) c out := by
  unfold expireQuery
  rw [wp_bind, wp_get]
  refine wp_ite (fun ht => ?_) (fun ht => ?_)
  · rw [wp_bind, wp_modify]
    have hd : c.withoutOldQuery cfg i.now = { c with pending := none } := if_pos ht
    refine wp_when (fun _ => ?_) (fun _ => ⟨hd.symm, rfl⟩)
    rw [wp_raise]
    exact ⟨⟨rfl, rfl, rfl, rfl, rfl⟩, rfl⟩
  · have hd : c.withoutOldQuery cfg i.now = c := if_neg ht
    rw [wp_pure]
    exact ⟨hd.symm, rfl⟩

theorem feed_spec {chunk : Bytes}
    (hd : d.batch i = if chunk = [] then [] else (d.receiveChunk i.now chunk).2)
    (hr : d.received i = if chunk = [] then d else (d.receiveChunk i.now chunk).1) :
    wp (feed i chunk)
      (fun frames d' out' => frames = d.batch i ∧ d' = d.received i ∧ out' = out)
      (fun _ _ _ => False) d out := by
  unfold feed
  rw [wp_bind, wp_get]
  refine wp_ite (fun h => ?_) (fun h => ?_)
  · rw [wp_pure, hd, hr, if_pos h, if_pos h]
    exact ⟨rfl, rfl, rfl⟩
  · rw [wp_bind, wp_modify, wp_pure, hd, hr, if_neg h, if_neg h]
    exact ⟨rfl, rfl, rfl⟩

/-- `receive` returns the batch and only changes what the batch and the query timeout
    change; where it raises it has written nothing. -/
theorem receive_spec : wp (receive cfg i)
    (fun frames d out' =>
      frames = c.batch i ∧ d = (c.received i).withoutOldQuery cfg i.now ∧ out' = out)
    (fun _ d out' => Keeps c d ∧ out' = out) c out := by
  unfold receive
  rw [wp_bind]
  -- whatever was read, the chunk determines the batch
  have hchunk : wp (readChunk i)
      (fun chunk d out' => d = c ∧ out' = out ∧
        c.batch i = (if chunk = [] then [] else (c.receiveChunk i.now chunk).2) ∧
        c.received i = if chunk = [] then c else (c.receiveChunk i.now chunk).1)
      (fun _ d out' => Keeps c d ∧ out' = out) c out := by
    unfold readChunk batch received
    cases i.read with
    | timedOut => exact (wp_pure _).mpr ⟨rfl, rfl, rfl, rfl⟩
    | failed => exact (wp_raise _).mpr ⟨.refl c, rfl⟩
    | cancelled => exact (wp_raise _).mpr ⟨.refl c, rfl⟩
    | data chunk =>
      cases chunk with
      | nil => exact (wp_raise _).mpr ⟨.refl c, rfl⟩
      | cons b chunk => exact (wp_pure _).mpr ⟨rfl, rfl, rfl, rfl⟩
  refine wp_mono hchunk ?_ fun _ _ _ h => h
  rintro chunk _ _ ⟨rfl, rfl, hb, hr⟩
  rw [wp_bind, awaitFirstFrame, wp_bind, wp_get]
  refine wp_when (fun _ => (wp_raise _).mpr ⟨.refl _, rfl⟩) (fun _ => ?_)
  rw [wp_bind]
  refine wp_mono (feed_spec hb hr) ?_ fun _ _ _ h => h.elim
  rintro frames _ _ ⟨rfl, rfl, rfl⟩
  rw [wp_bind]
  refine wp_mono expireQuery_spec ?_ ?_
  · rintro _ _ _ ⟨rfl, rfl⟩
    exact (wp_pure _).mpr ⟨rfl, rfl, rfl⟩
  · rintro _ d' _ ⟨hd', rfl⟩
    exact ⟨(received_keeps _ i).trans hd', rfl⟩

/-! ## Messages -/

/-- The only frames that do not decode: malformed replies to queries, a CTS with a
    payload, and malformed statuses. -/
theorem decodeMessage_error {frame : Frame} {responseAddress readyAddress : UInt8}
    {e : MessageDecodeError} (h : decodeMessage frame responseAddress readyAddress = .error e) :
    (frame.family = 0xBF ∧ (frame.messageType = 0x25 ∨ frame.messageType = 0x23 ∨
      frame.messageType = 0x28 ∨ frame.messageType = 0x24 ∨ frame.messageType = 0x2E)) ∨
    (frame.address = readyAddress ∧ frame.family = 0xBF ∧ frame.messageType = 0x06) ∨
    (frame.family = 0xAF ∧ frame.messageType = 0x13) := by
  unfold decodeMessage at h
  dsimp only at h
  split at h
  · rename_i hc; exact .inl ⟨hc.1.2, .inl hc.2⟩
  split at h
  · rename_i hc; exact .inl ⟨hc.1.2, .inr (.inl hc.2)⟩
  split at h
  · rename_i hc; exact .inl ⟨hc.1.2, .inr (.inr (.inl hc.2))⟩
  split at h
  · rename_i hc; exact .inl ⟨hc.1.2, .inr (.inr (.inr (.inl hc.2)))⟩
  split at h
  · rename_i hc; exact .inl ⟨hc.1.2, .inr (.inr (.inr (.inr hc.2)))⟩
  split at h
  · rename_i hc; exact .inr (.inl hc)
  split at h
  · rename_i hc; exact .inr (.inr hc.2)
  · cases h

/-- A frame that does not decode is no evidence of channels, and does not block the direct
    modes. -/
theorem decodeMessage_error_evidence {frame : Frame} {responseAddress : UInt8}
    {e : MessageDecodeError} (h : decodeMessage frame responseAddress 16 = .error e) :
    frame.channelEvidence = false ∧ frame.blocksDirect = false := by
  obtain ⟨address, family, messageType, payload, short⟩ := frame
  unfold Frame.channelEvidence Frame.blocksDirect Frame.alternateFamily
  rcases decodeMessage_error h with ⟨rfl, ht⟩ | ⟨rfl, rfl, rfl⟩ | ⟨rfl, rfl⟩
  · rcases ht with rfl | rfl | rfl | rfl | rfl <;> simp
  · simp
  · simp

/-- Evidence of channels decodes, whatever it carries. -/
theorem decodeMessage_of_channelEvidence {frame : Frame} (responseAddress : UInt8)
    (h : frame.channelEvidence = true) :
    ∃ message, decodeMessage frame responseAddress 16 = .ok message := by
  cases hd : decodeMessage frame responseAddress 16 with
  | ok message => exact ⟨message, rfl⟩
  | error e =>
    rw [(decodeMessage_error_evidence hd).1] at h
    cases h

/-- So do the frames that block the direct modes. -/
theorem decodeMessage_of_blocksDirect {frame : Frame} (responseAddress : UInt8)
    (h : frame.blocksDirect = true) :
    ∃ message, decodeMessage frame responseAddress 16 = .ok message := by
  cases hd : decodeMessage frame responseAddress 16 with
  | ok message => exact ⟨message, rfl⟩
  | error e =>
    rw [(decodeMessage_error_evidence hd).2] at h
    cases h

/-- What a batch of frames does: the bytes stay as they are, and the policy only
    gains evidence. -/
structure Hears (c d : Connection) : Prop where
  phase : d.phase = c.phase
  epoch : d.epoch = c.epoch
  parser : d.parser = c.parser
  wireTail : d.wireTail = c.wireTail
  latches : BusPolicy.Latches c.policy d.policy

theorem Hears.trans {e : Connection} (h : Hears c d) (h' : Hears d e) : Hears c e where
  phase := h'.phase.trans h.phase
  epoch := h'.epoch.trans h.epoch
  parser := h'.parser.trans h.parser
  wireTail := h'.wireTail.trans h.wireTail
  latches := h.latches.trans h'.latches

theorem take_hears (c : Connection) (now : ℚ) (message : Message) : Hears c (c.take now message) := by
  cases message <;> simp only [take] <;>
    first
    | exact ⟨rfl, rfl, rfl, rfl, .refl _⟩
    | split <;> exact ⟨rfl, rfl, rfl, rfl, .refl _⟩

theorem take_policy (c : Connection) (now : ℚ) (message : Message) :
    (c.take now message).policy = c.policy := by
  cases message <;> simp only [take] <;> split <;> rfl

theorem absorb_hears (now : ℚ) (c : Connection) (frame : Frame) : Hears c (absorb now c frame) := by
  unfold absorb
  split
  · exact ⟨rfl, rfl, rfl, rfl, .refl _⟩
  · have hobs : Hears c { c with policy := c.policy.observe frame } :=
      ⟨rfl, rfl, rfl, rfl, BusPolicy.observe_latches c.policy frame⟩
    exact hobs.trans (take_hears _ now _)

theorem absorbAll_hears (now : ℚ) (c : Connection) (frames : List Frame) :
    Hears c (c.absorbAll now frames) := by
  unfold absorbAll
  induction frames generalizing c with
  | nil => exact ⟨rfl, rfl, rfl, rfl, .refl _⟩
  | cons frame frames ih => exact (absorb_hears now c frame).trans (ih _)

theorem veto_hears (cfg : ConnectionConfig) (previous : Bool) (c : Connection) :
    Hears c (c.veto cfg previous) := by
  unfold veto
  split <;> exact ⟨rfl, rfl, rfl, rfl, .refl _⟩

theorem observeFrames_hears (cfg : ConnectionConfig) (now : ℚ) (frames : List Frame)
    (c : Connection) : Hears c (observeFrames cfg now frames c) :=
  (absorbAll_hears now c frames).trans (veto_hears cfg _ _)

theorem veto_policy (cfg : ConnectionConfig) (previous : Bool) (c : Connection) :
    (c.veto cfg previous).policy = c.policy := by
  unfold veto
  split <;> rfl

/-- A frame that decodes is observed. -/
theorem absorb_policy {now : ℚ} {frame : Frame} {message : Message}
    (h : decodeMessage frame c.policy.address c.policy.ctsAddress = .ok message) :
    (absorb now c frame).policy = c.policy.observe frame := by
  unfold absorb
  rw [h]
  exact take_policy _ now message

/-- Outside channel mode no evidence in a batch is lost. -/
theorem absorbAll_evidence {now : ℚ} {frames : List Frame}
    (hr : c.policy.requested ≠ .channelRs485) {frame : Frame} (hmem : frame ∈ frames) :
    (frame.channelEvidence = true → (c.absorbAll now frames).policy.channelSeen = true) ∧
      (c.policy.requested.direct = true → frame.blocksDirect = true →
        (c.absorbAll now frames).policy.directBlocked = true) := by
  induction frames generalizing c with
  | nil => cases hmem
  | cons first frames ih =>
    have hfirst := (absorb_hears now c first).latches
    have hrest := (absorbAll_hears now (absorb now c first) frames).latches
    have hcts : c.policy.ctsAddress = 16 := if_neg hr
    show (_ → ((absorb now c first).absorbAll now frames).policy.channelSeen = true) ∧
      (_ → _ → ((absorb now c first).absorbAll now frames).policy.directBlocked = true)
    rcases List.mem_cons.mp hmem with rfl | hmem
    · constructor
      · intro hev
        obtain ⟨message, hm⟩ := decodeMessage_of_channelEvidence c.policy.address hev
        rw [← hcts] at hm
        apply hrest.channelSeen
        rw [absorb_policy hm]
        simp [BusPolicy.observe, hev]
      · intro hd hev
        obtain ⟨message, hm⟩ := decodeMessage_of_blocksDirect c.policy.address hev
        rw [← hcts] at hm
        apply hrest.directBlocked
        rw [absorb_policy hm]
        simp [BusPolicy.observe, hd, hev]
    · have hr' : (absorb now c first).policy.requested ≠ .channelRs485 := by
        rw [hfirst.requested]
        exact hr
      obtain ⟨h1, h2⟩ := ih hr' hmem
      refine ⟨h1, fun hd => h2 ?_⟩
      rw [hfirst.requested]
      exact hd

/-! ## Channel management -/

/-- What channel management does: only the channel session and the account of the
    requests change, and a frame goes out exactly where `management_sent` is set. -/
structure Managed (cfg : ConnectionConfig) (c d : Connection) (sent : Bool) (out out' : List Effect) :
    Prop where
  shape : ∃ channel requests nonces, d =
    { c.setChannel channel with assignmentRequests := requests, assignmentNonces := nonces }
  sound : c.policy.channel.Sound → d.policy.channel.Sound
  failed : c.policy.channel.failure ≠ none → d.policy.channel.failure ≠ none
  unsent : sent = false → d.policy.channel.channel = c.policy.channel.channel ∧ out' = out
  written : sent = true → cfg.requestedMode = .channelRs485 ∧ d.policy.channel.failure = none ∧
    ∃ w, w.site = .management ∧ out' = out ++ [.write w]

theorem awaitDrain_spec {site : Site} :
    wp (awaitDrain i site) (fun _ d out' => d = c ∧ out' = out) (fun _ d out' => d = c ∧ out' = out)
      c out := by
  unfold awaitDrain
  split
  · exact (wp_pure _).mpr ⟨rfl, rfl⟩
  · exact (wp_raise _).mpr ⟨rfl, rfl⟩
  · exact (wp_raise _).mpr ⟨rfl, rfl⟩

/-- What looking at a batch does to the candidate: it is old, or the batch offers it. -/
structure Looks (frames : List Frame) (s s' : ChannelSession) : Prop extends
    ChannelSession.Considers s s' where
  candidate : ∀ x, s'.pendingChannel = some x → s.pendingChannel = some x ∨
    ChannelSession.assignable x ∧ .assignment x s.nonce ∈ frames

theorem considerFrames_candidate {s : ChannelSession} {frames : List Frame} {x : UInt8}
    (h : (s.considerFrames frames).pendingChannel = some x) : s.pendingChannel = some x ∨
      ChannelSession.assignable x ∧ .assignment x s.nonce ∈ frames := by
  induction frames generalizing s with
  | nil => exact Or.inl h
  | cons frame frames ih =>
    unfold ChannelSession.considerFrames at h
    split at h
    · next hc =>
      split at h
      · exact Or.inl h
      · split at h
        · next hfree =>
          rcases ih h with hold | ⟨hx, hmem⟩
          · obtain rfl : frame.offer = x := Option.some.inj hold
            refine Or.inr ⟨hfree.1, ?_⟩
            rw [← Frame.correlated_iff.mp hc]
            exact List.mem_cons_self
          · exact Or.inr ⟨hx, List.mem_cons_of_mem _ hmem⟩
        · exact (ih h).imp_right fun ho => ⟨ho.1, List.mem_cons_of_mem _ ho.2⟩
    · exact (ih h).imp_right fun ho => ⟨ho.1, List.mem_cons_of_mem _ ho.2⟩

theorem considerAssignments_looks (s : ChannelSession) (frames : List Frame) (t : ℚ) :
    Looks frames s (s.considerAssignments frames t) where
  toConsiders := ChannelSession.considerAssignments_considers s frames t
  candidate x h := by
    have hexpire := ChannelSession.expire_considers s t
    unfold ChannelSession.considerAssignments at h
    split at h
    · rw [← hexpire.nonce, ← ChannelSession.expire_pendingChannel s t]
      exact considerFrames_candidate h
    · rw [ChannelSession.expire_pendingChannel] at h
      exact Or.inl h

theorem Looks.trans {frames : List Frame} {s s' s'' : ChannelSession} (h : Looks frames s s')
    (h' : Looks frames s' s'') : Looks frames s s'' where
  toConsiders := h.toConsiders.trans h'.toConsiders
  candidate x hx := by
    rcases h'.candidate x hx with hold | hnew
    · exact h.candidate x hold
    · rw [h.nonce] at hnew
      exact Or.inr hnew

/-- The ways through channel management, with what is written on them. -/
inductive Manages (cfg : ConnectionConfig) (i : Iteration) (frames : List Frame) (c : Connection) :
    Connection → Bool → List Effect → Prop where
  /-- The batch was looked at. -/
  | looked {channel : ChannelSession} (hlooks : Looks frames c.policy.channel channel) :
      Manages cfg i frames c (c.setChannel channel) false []
  /-- A request past the budget. -/
  | refused {channel : ChannelSession} {frame response : Frame}
      (hlooks : Looks frames c.policy.channel channel) (hf : channel.failure = none)
      (ha : channel.Answers frame i.now response) (ht : response.messageType = 1) :
      Manages cfg i frames c (c.setChannel { channel with failure := some .budget }) false []
  /-- The answer to the last frame goes out. -/
  | answered {channel : ChannelSession} {frame response : Frame}
      (hmode : cfg.requestedMode = .channelRs485)
      (hlooks : Looks frames c.policy.channel channel) (hlast : frames.getLast? = some frame)
      (hf : channel.failure = none) (ha : channel.Answers frame i.now response)
      (hbudget : response.messageType = 1 → c.assignmentRequests < 3) :
      Manages cfg i frames c ((c.setChannel channel).managementSent response i.now) true
        [.write ⟨.management, response, i.clock .management⟩]

/-- The answer of the channel session goes out, or the budget fails the session. -/
theorem answerManagement_cases {channel : ChannelSession} {frames : List Frame}
    {frame response : Frame}
    (hmode : cfg.requestedMode = .channelRs485) (hlooks : Looks frames c.policy.channel channel)
    (hlast : frames.getLast? = some frame) (hf : channel.failure = none)
    (ha : channel.Answers frame i.now response) :
    wp (answerManagement cfg i response)
      (fun sent d out' => ∃ new, out' = out ++ new ∧ Manages cfg i frames c d sent new)
      (fun _ d out' => ∃ sent new, out' = out ++ new ∧ Manages cfg i frames c d sent new)
      (c.setChannel channel) out := by
  unfold answerManagement
  rw [wp_bind, wp_get]
  refine wp_ite (fun _ => ?_) (fun _ => ?_)
  · refine wp_ite (fun hbudget => ?_) (fun hbudget => ?_)
    · rw [wp_bind, wp_modify, wp_pure]
      exact ⟨[], (List.append_nil _).symm, .refused hlooks hf ha hbudget.1⟩
    · rw [wp_bind, wp_emit, wp_bind, wp_modify, wp_bind]
      have hless : response.messageType = 1 → c.assignmentRequests < 3 := by
        intro ht
        by_contra hge
        exact hbudget ⟨ht, not_lt.mp hge⟩
      refine wp_mono awaitDrain_spec ?_ ?_
      · rintro _ _ _ ⟨rfl, rfl⟩
        exact (wp_pure _).mpr ⟨_, rfl, .answered hmode hlooks hlast hf ha hless⟩
      · rintro _ _ _ ⟨rfl, rfl⟩
        exact ⟨true, _, rfl, .answered hmode hlooks hlast hf ha hless⟩
  · exact (wp_pure _).mpr ⟨[], (List.append_nil _).symm, .looked hlooks⟩

/-- Every way through `manage`. -/
theorem manage_cases {frames : List Frame} : wp (manage cfg i frames)
    (fun sent d out' => ∃ new, out' = out ++ new ∧ Manages cfg i frames c d sent new)
    (fun _ d out' => ∃ sent new, out' = out ++ new ∧ Manages cfg i frames c d sent new) c out := by
  have hlooks := considerAssignments_looks c.policy.channel frames i.now
  unfold manage
  rw [wp_bind, wp_modify, wp_bind, wp_get]
  refine wp_ite (fun _ => ?_) (fun _ => wp_ite (fun hmode => ?_) (fun _ => ?_))
  · exact (wp_raise _).mpr ⟨false, [], (List.append_nil _).symm, .looked hlooks⟩
  · rw [wp_bind, wp_modify]
    -- `reply` looks at the batch once more
    have hlooks' := hlooks.trans (considerAssignments_looks
      (c.policy.channel.considerAssignments frames i.now) frames i.now)
    rw [← ChannelSession.reply_fst] at hlooks'
    cases hresponse : ((c.policy.channel.considerAssignments frames i.now).reply frames i.now).2 with
    | none =>
      simp only [setChannel, hresponse]
      exact (wp_pure _).mpr ⟨[], (List.append_nil _).symm, .looked hlooks'⟩
    | some response =>
      simp only [setChannel, hresponse]
      obtain ⟨frame, hlast, hf, ha⟩ := ChannelSession.reply_some hresponse
      rw [← ChannelSession.reply_fst] at hf ha
      exact answerManagement_cases hmode.1 hlooks' hlast hf ha
  · exact (wp_pure _).mpr ⟨[], (List.append_nil _).symm, .looked hlooks⟩

theorem Manages.managed {frames : List Frame} {sent : Bool} {new : List Effect}
    (h : Manages cfg i frames c d sent new) : Managed cfg c d sent out (out ++ new) := by
  cases h with
  | @looked channel hlooks =>
    refine ⟨⟨channel, _, _, rfl⟩, fun hs => hs.considers hlooks.toConsiders, fun hf => ?_,
      fun _ => ⟨hlooks.channel, List.append_nil _⟩, fun hs => by cases hs⟩
    show channel.failure ≠ none
    rw [hlooks.toConsiders.failed hf]
    exact hf
  | @refused channel frame response hlooks hf ha ht =>
    refine ⟨⟨{ channel with failure := some .budget }, _, _, rfl⟩, fun hs => ?_,
      fun _ => by simp [setChannel], fun _ => ⟨hlooks.channel, List.append_nil _⟩,
      fun hs => by cases hs⟩
    -- nothing has been requested, so the session is not ready
    have hnone := (ha.of_request ht).1
    have hsound := hs.considers hlooks.toConsiders
    refine ⟨fun hready => ?_, hsound.channel, hsound.requested⟩
    exact absurd hnone (hsound.requested (hsound.channel (hsound.ready hready).2))
  | @answered channel frame response hmode hlooks hlast hf ha =>
    have hsent : (channel.sent response i.now).failure = none := by
      unfold ChannelSession.sent
      split
      · exact hf
      · split <;> exact hf
    refine ⟨⟨channel.sent response i.now, _, _, rfl⟩, fun hs => ?_, fun hne => ?_,
      fun hs => absurd hs (by decide), fun _ => ⟨hmode, hsent, _, rfl, rfl⟩⟩
    · exact (hs.considers hlooks.toConsiders).sent hf ha
    · exact absurd hf (by rw [hlooks.toConsiders.failed hne]; exact hne)

theorem manage_spec {frames : List Frame} : wp (manage cfg i frames)
    (fun sent d out' => Managed cfg c d sent out out')
    (fun _ d out' => ∃ sent, Managed cfg c d sent out out') c out := by
  refine wp_mono manage_cases ?_ ?_
  · rintro sent d _ ⟨new, rfl, h⟩
    exact h.managed
  · rintro _ d _ ⟨sent, new, rfl, h⟩
    exact ⟨sent, h.managed⟩

/-! ## Synchronization -/

theorem beginSync_stays (c : Connection) (now : ℚ) : Stays c (c.beginSync now) :=
  ⟨⟨rfl, rfl, rfl, rfl, rfl⟩, rfl, rfl⟩

theorem commit_stays (cfg : ConnectionConfig) (c : Connection) : Stays c (c.commit cfg) := by
  unfold commit
  split
  · split
    · exact .refl c
    · exact ⟨⟨rfl, rfl, rfl, rfl, rfl⟩, rfl, rfl⟩
  · exact .refl c

theorem settle_stays (cfg : ConnectionConfig) (c : Connection) (now : ℚ) :
    Stays c (c.settle cfg now) := by
  unfold settle
  split
  · exact ⟨⟨rfl, rfl, rfl, rfl, rfl⟩, rfl, rfl⟩
  · exact .refl c

theorem detect_stays (c : Connection) (degraded : Bool) : Stays c (c.detect degraded) := by
  unfold detect
  split
  · exact ⟨⟨rfl, rfl, rfl, rfl, rfl⟩, rfl, rfl⟩
  · exact .refl c

/-- The connection before its state is entered: a synchronization may have started,
    been committed and settled. -/
def synced (cfg : ConnectionConfig) (i : Iteration) (c : Connection) : Connection :=
  ((if c.wantsSync cfg i then c.beginSync i.now else c).commit cfg).settle cfg i.now

theorem synced_stays (cfg : ConnectionConfig) (i : Iteration) (c : Connection) :
    Stays c (c.synced cfg i) := by
  unfold synced
  refine .trans ?_ ((commit_stays cfg _).trans (settle_stays cfg _ i.now))
  split
  · exact beginSync_stays c i.now
  · exact .refl c

theorem startSync_spec : wp (startSync cfg i)
    (fun _ d out' => d = (if c.wantsSync cfg i then c.beginSync i.now else c) ∧
      out' = out ++ if c.wantsSync cfg i then [.beginSync] else [])
    (fun _ _ _ => False) c out := by
  unfold startSync
  rw [wp_bind, wp_get]
  refine wp_ite (fun h => ?_) (fun h => ?_)
  · rw [wp_bind, wp_modify, wp_emit, if_pos h, if_pos h]
    exact ⟨rfl, rfl⟩
  · rw [wp_pure, if_neg h, if_neg h]
    exact ⟨rfl, (List.append_nil out).symm⟩

theorem entered_stays (cfg : ConnectionConfig) (i : Iteration) (c : Connection) (degraded : Bool) :
    Stays c ((c.synced cfg i).enter degraded) :=
  (synced_stays cfg i c).trans ⟨⟨rfl, rfl, rfl, rfl, rfl⟩, rfl, rfl⟩

/-- A connection that has not synchronized does not enter READY. -/
theorem enter_not_ready {degraded : Bool} (hdegraded : degraded = false)
    (hcommitted : (c.enter degraded).syncCommitted = false) :
    (c.enter degraded).state ≠ .ready := by
  have hc : c.syncCommitted = false := hcommitted
  have hsync : c.synchronized = false := by simp [synchronized, hc]
  show (if degraded = true then ConnectionState.degraded
    else if c.synchronized = true then .ready else .synchronizing) ≠ .ready
  rw [hdegraded, hsync]
  decide

theorem synchronize_spec {degraded : Bool} : wp (synchronize cfg i degraded)
    (fun _ d out' => d = (c.synced cfg i).enter degraded ∧
      out' = out ++ if c.wantsSync cfg i then [.beginSync] else [])
    (fun _ d out' => Stays c d ∧ out' = out ++ if c.wantsSync cfg i then [.beginSync] else []) c
    out := by
  unfold synchronize
  rw [wp_bind]
  refine wp_mono startSync_spec ?_ fun _ _ _ h => h.elim
  rintro _ d out' ⟨hd, hout⟩
  rw [wp_bind, wp_modify, wp_bind, awaitSync, wp_bind, wp_get]
  have hsynced : (d.commit cfg).settle cfg i.now = c.synced cfg i := by rw [hd]; rfl
  rw [hsynced]
  refine wp_when (fun _ => (wp_raise _).mpr ⟨synced_stays cfg i c, hout⟩) (fun _ => ?_)
  rw [wp_modify]
  exact ⟨rfl, hout⟩

/-! ## Writing -/

/-- What an admitted transmission leaves: the opportunity is used up and one frame is
    written. -/
structure Transmitted (cfg : ConnectionConfig) (i : Iteration) (frames : List Frame) (site : Site)
    (frame : Connection → Frame) (update : Connection → Connection) (c d : Connection)
    (out out' : List Effect) : Prop where
  admitted : ∃ policy, c.admission cfg i frames site = some policy ∧ d = update { c with policy }
  written : out' = out ++ [.write ⟨site, frame d, i.clock site⟩]

theorem transmit_spec {frames : List Frame} {site : Site} {frame : Connection → Frame}
    {update : Connection → Connection} : wp (transmit cfg i frames site frame update)
    (fun _ d out' => (c.admission cfg i frames site = none ∧ d = c ∧ out' = out) ∨
      Transmitted cfg i frames site frame update c d out out')
    (fun _ d out' => Transmitted cfg i frames site frame update c d out out') c out := by
  unfold transmit
  rw [wp_bind, wp_get]
  cases h : c.admission cfg i frames site with
  | none => exact (wp_pure _).mpr (.inl ⟨rfl, rfl, rfl⟩)
  | some policy =>
    show wp (Proc.modify _ >>= _) _ _ _ _
    rw [wp_bind, wp_modify, wp_bind, wp_get, wp_bind, wp_emit]
    have ht : Transmitted cfg i frames site frame update c (update { c with policy }) out
        (out ++ [.write ⟨site, frame (update { c with policy }), i.clock site⟩]) :=
      ⟨⟨policy, h, rfl⟩, rfl⟩
    refine wp_mono awaitDrain_spec ?_ ?_
    · rintro _ _ _ ⟨rfl, rfl⟩
      exact .inr ht
    · rintro _ _ _ ⟨rfl, rfl⟩
      exact ht

end Connection

end BalboaRs485
