import BalboaRs485.Protocol.Frames
import Mathlib.Data.Finset.Insert
import Mathlib.Data.Rat.Defs
import Mathlib.Algebra.Order.Field.Rat

/-!
# Channel assignment

Model of `transport/channel.py`. A client asks for a channel of its own with a
nonce, an assignment that echoes the nonce makes a channel the candidate, and
one acknowledgement in the right slot takes it. The counters that only
`assignment_status` reports are left out.

* `ChannelSession.Considers`, `considerAssignments_considers`: what looking at a
  batch can change.
* `ChannelSession.reply_some`: the three answers and when each is given.
* `ChannelSession.Sound` and its step lemmas: a session that is ready owns an
  acknowledged channel and has not failed.
-/

namespace BalboaRs485

/-- `ChannelSession.nonce`: the constructor insists on two bytes. -/
structure Nonce where
  high : UInt8
  low : UInt8
deriving DecidableEq

/-- The nonce as `bytes`. -/
def Nonce.bytes (nonce : Nonce) : Bytes := [nonce.high, nonce.low]

/-- The texts `ChannelSession.failure` is set to; the last one by
    `transport/connection.py` line 421. -/
inductive ChannelFailure where
  | conflicting
  | timedOut
  | alternative
  | collision
  | budget
deriving DecidableEq

/-- The value of `ChannelSession.failure`. -/
def ChannelFailure.text : ChannelFailure → String
  | conflicting => "Conflicting correlated channel assignments"
  | timedOut => "Channel assignment timed out; physical controls remain blocked"
  | alternative => "Alternative status/control family unsupported"
  | collision => "Client traffic on owned channel (collision or echo)"
  | budget => "Lifetime assignment budget exhausted; restart explicitly"

/-! ## Frames of the handshake -/

/-- `Frame(254, 191, 1, b"\x02" + nonce)`: a request for a channel. -/
def Frame.channelRequest (nonce : Nonce) : Frame := ⟨254, 191, 1, [2, nonce.high, nonce.low], by simp⟩

/-- `Frame(254, 191, 2, bytes((channel,)) + nonce)`: the offer of a channel. -/
def Frame.assignment (channel : UInt8) (nonce : Nonce) : Frame :=
  ⟨254, 191, 2, [channel, nonce.high, nonce.low], by simp⟩

/-- `Frame(channel, 191, 3)`: the acknowledgement. -/
def Frame.channelAck (channel : UInt8) : Frame := .bare channel 191 3

/-- `Frame(address, 191, 5, b"\x04\x08\0")`: the answer to a probe. -/
def Frame.probeReply (address : UInt8) : Frame := ⟨address, 191, 5, [4, 8, 0], by simp⟩

/-- `Frame(address, 191, 6)`: clear to send. -/
def Frame.cts (address : UInt8) : Frame := .bare address 191 6

/-- The frames that carry another status or control family (lines 140 and, in
    `policy.py`, 104). -/
def Frame.alternateFamily (frame : Frame) : Bool :=
  (frame.family = 175 ∨ frame.family = 191) ∧
    (frame.messageType = 0xC4 ∨ frame.messageType = 0xCA ∨ frame.messageType = 0xCC ∨
      frame.messageType = 0x16)

/-- The frames only a client sends (line 143). -/
def Frame.clientType (frame : Frame) : Bool :=
  frame.family = 191 ∧
    (frame.messageType = 3 ∨ frame.messageType = 5 ∨ frame.messageType = 7 ∨
      frame.messageType = 17 ∨ frame.messageType = 32 ∨ frame.messageType = 34)

/-- A two-byte nonce correlates an offer (lines 68–72). -/
def Frame.correlated (frame : Frame) (nonce : Nonce) : Bool :=
  (frame.address = 254 ∧ frame.family = 191 ∧ frame.messageType = 2) ∧
    frame.payload.length = 3 ∧ frame.payload.drop 1 = nonce.bytes

/-- The channel an offer names, `frame.payload[0]`. -/
def Frame.offer (frame : Frame) : UInt8 := frame.payload.getD 0 0

/-- A correlated offer is the assignment of the channel it names. -/
theorem Frame.correlated_iff {frame : Frame} {nonce : Nonce} :
    frame.correlated nonce = true ↔ frame = .assignment frame.offer nonce := by
  obtain ⟨address, family, messageType, payload, short⟩ := frame
  constructor
  · intro h
    obtain ⟨⟨rfl, rfl, rfl⟩, hlen, hdrop⟩ := of_decide_eq_true h
    obtain ⟨a, b, c, rfl⟩ := List.length_eq_three.mp hlen
    obtain ⟨rfl, rfl⟩ : b = nonce.high ∧ c = nonce.low := by
      simpa [Nonce.bytes] using hdrop
    rfl
  · intro h
    rw [h]
    simp [correlated, assignment, Nonce.bytes]

/-! ## The session -/

/-- `ChannelSession` (lines 22–44). -/
structure ChannelSession where
  nonce : Nonce
  channel : Option UInt8 := none
  ready : Bool := false
  requestedAt : Option ℚ := none
  acked : Bool := false
  failure : Option ChannelFailure := none
  assignmentExpired : Bool := false
  clients : Finset UInt8 := ∅
  pendingChannel : Option UInt8 := none
deriving DecidableEq

namespace ChannelSession

/-- The window in which a request may be answered, `0 <= at - requested_at < 2`. -/
def inWindow (requestedAt t : ℚ) : Prop := 0 ≤ t - requestedAt ∧ t - requestedAt < 2

instance (r t : ℚ) : Decidable (inWindow r t) := inferInstanceAs (Decidable (_ ∧ _))

/-- `expire` (lines 79–88). -/
def expire (s : ChannelSession) (t : ℚ) : ChannelSession :=
  match s.requestedAt with
  | none => s
  | some r =>
    if s.failure = none ∧ s.acked = false ∧ 2 ≤ t - r then
      { s with assignmentExpired := true, failure := some .timedOut }
    else s

/-- The channels that may be offered, `0x10 <= channel <= 0x2F`. -/
def assignable (channel : UInt8) : Prop := 0x10 ≤ channel ∧ channel ≤ 0x2F

instance (channel : UInt8) : Decidable (assignable channel) := inferInstanceAs (Decidable (_ ∧ _))

/-- The loop of `consider_assignments` (lines 67–77). -/
def considerFrames (s : ChannelSession) : List Frame → ChannelSession
  | [] => s
  | frame :: frames =>
    if frame.correlated s.nonce then
      if s.pendingChannel ≠ none ∧ s.pendingChannel ≠ some frame.offer then
        { s with failure := some .conflicting }
      else if assignable frame.offer ∧ frame.offer ∉ s.clients then
        considerFrames { s with pendingChannel := some frame.offer } frames
      else considerFrames s frames
    else considerFrames s frames

/-- The request is open, so that the offers of a batch read at `t` are looked at
    (lines 63–66). -/
def listening (s : ChannelSession) (t : ℚ) : Prop :=
  s.failure = none ∧ s.acked = false ∧ ∃ r, s.requestedAt = some r ∧ inWindow r t

instance (s : ChannelSession) (t : ℚ) : Decidable (s.listening t) :=
  match h : s.requestedAt with
  | none => isFalse (by rintro ⟨-, -, r, hr, -⟩; simp [h] at hr)
  | some r =>
    decidable_of_iff (s.failure = none ∧ s.acked = false ∧ inWindow r t) (by simp [listening, h])

/-- `consider_assignments` (lines 55–77). -/
def considerAssignments (s : ChannelSession) (frames : List Frame) (t : ℚ) : ChannelSession :=
  if (s.expire t).listening t then (s.expire t).considerFrames frames else s.expire t

/-- `reply` after `consider_assignments`, on the last frame of the batch
    (lines 94–111). -/
def answer (s : ChannelSession) (frame : Frame) (t : ℚ) : Option Frame :=
  if s.acked = true ∧ s.channel = some frame.address ∧ frame = .bare frame.address 191 4 then
    some (.probeReply frame.address)
  else
    match s.requestedAt with
    | none => if frame = .bare 254 191 0 then some (.channelRequest s.nonce) else none
    | some r =>
      match s.pendingChannel with
      | none => none
      | some x =>
        if s.acked = false ∧ inWindow r t ∧ x ∉ s.clients ∧
            (frame = .assignment x s.nonce ∨ frame = .cts x) then
          some (.channelAck x)
        else none

/-- `reply` (lines 90–111). -/
def reply (s : ChannelSession) (frames : List Frame) (t : ℚ) : ChannelSession × Option Frame :=
  let s := s.considerAssignments frames t
  match frames.getLast? with
  | none => (s, none)
  | some frame => (s, if s.failure = none then s.answer frame t else none)

/-- `idle_reply` (lines 113–122). -/
def idleReply (s : ChannelSession) (frames : List Frame) : Option Frame :=
  match s.channel, frames.getLast? with
  | some x, some frame =>
    if s.acked = true ∧ s.failure = none ∧ frame = .cts x then some (.bare x 191 7) else none
  | _, _ => none

/-- `sent` (lines 124–130). -/
def sent (s : ChannelSession) (frame : Frame) (t : ℚ) : ChannelSession :=
  if frame.messageType = 1 then { s with requestedAt := some t }
  else if frame.messageType = 3 then { s with channel := some frame.address, acked := true }
  else s

/-- Another control family fails the session (lines 140–142). -/
def noteFamily (s : ChannelSession) (frame : Frame) : ChannelSession :=
  if frame.alternateFamily then { s with failure := some .alternative, ready := false } else s

/-- The channel of another client is occupied (lines 143–145). -/
def noteClient (s : ChannelSession) (frame : Frame) : ChannelSession :=
  if frame.clientType ∧ assignable frame.address then
    { s with clients := insert frame.address s.clients }
  else s

/-- A client on the channel of the session fails it (lines 143, 146–148). -/
def noteCollision (s : ChannelSession) (frame : Frame) : ChannelSession :=
  if frame.clientType ∧ s.channel = some frame.address then
    { s with failure := some .collision, ready := false }
  else s

/-- A CTS for the channel of the session makes it ready (lines 150–151). -/
def noteCts (s : ChannelSession) (frame : Frame) : ChannelSession :=
  if s.failure = none ∧ s.channel = some frame.address ∧ frame = .cts frame.address then
    { s with ready := true }
  else s

/-- `observe` (lines 132–151). -/
def observe (s : ChannelSession) (frame : Frame) : ChannelSession :=
  (((s.noteFamily frame).noteClient frame).noteCollision frame).noteCts frame

/-! ## What a batch can change -/

/-- What `consider_assignments` leaves as it is: all but the candidate and the
    failure, and a failure only while nothing is acknowledged. -/
structure Considers (s s' : ChannelSession) : Prop where
  nonce : s'.nonce = s.nonce
  channel : s'.channel = s.channel
  ready : s'.ready = s.ready
  requestedAt : s'.requestedAt = s.requestedAt
  acked : s'.acked = s.acked
  clients : s'.clients = s.clients
  failure : s'.failure = s.failure ∨ s.acked = false ∧ s.failure = none

theorem Considers.refl (s : ChannelSession) : Considers s s :=
  ⟨rfl, rfl, rfl, rfl, rfl, rfl, .inl rfl⟩

theorem Considers.trans {s s' s'' : ChannelSession} (h : Considers s s') (h' : Considers s' s'') :
    Considers s s'' where
  nonce := h'.nonce.trans h.nonce
  channel := h'.channel.trans h.channel
  ready := h'.ready.trans h.ready
  requestedAt := h'.requestedAt.trans h.requestedAt
  acked := h'.acked.trans h.acked
  clients := h'.clients.trans h.clients
  failure := by
    rcases h.failure with hf | hf
    · rw [← hf, ← h.acked]
      exact h'.failure
    · exact .inr hf

/-- A failure stays. -/
theorem Considers.failed {s s' : ChannelSession} (h : Considers s s') (hf : s.failure ≠ none) :
    s'.failure = s.failure :=
  h.failure.resolve_right fun hc => hf hc.2

theorem expire_considers (s : ChannelSession) (t : ℚ) : Considers s (s.expire t) := by
  unfold expire
  split
  · exact .refl s
  · split
    · rename_i hc
      exact ⟨rfl, rfl, rfl, rfl, rfl, rfl, .inr ⟨hc.2.1, hc.1⟩⟩
    · exact .refl s

@[simp] theorem expire_pendingChannel (s : ChannelSession) (t : ℚ) :
    (s.expire t).pendingChannel = s.pendingChannel := by
  unfold expire
  split
  · rfl
  · split <;> rfl

/-- The loop runs on a session that has neither acknowledged nor failed. -/
theorem considerFrames_considers {s : ChannelSession} {frames : List Frame}
    (hf : s.failure = none) (ha : s.acked = false) : Considers s (s.considerFrames frames) := by
  induction frames generalizing s with
  | nil => exact .refl s
  | cons frame frames ih =>
    unfold considerFrames
    split
    · split
      · exact ⟨rfl, rfl, rfl, rfl, rfl, rfl, .inr ⟨ha, hf⟩⟩
      · split
        · have hnext : Considers s { s with pendingChannel := some frame.offer } :=
            ⟨rfl, rfl, rfl, rfl, rfl, rfl, .inl rfl⟩
          exact hnext.trans (ih hf ha)
        · exact ih hf ha
    · exact ih hf ha

/-- What looking at the offers of a batch can change. -/
theorem considerAssignments_considers (s : ChannelSession) (frames : List Frame) (t : ℚ) :
    Considers s (s.considerAssignments frames t) := by
  unfold considerAssignments
  have hexp := expire_considers s t
  by_cases hl : (s.expire t).listening t
  · rw [if_pos hl]
    exact hexp.trans (considerFrames_considers hl.1 hl.2.1)
  · rw [if_neg hl]
    exact hexp

theorem reply_fst (s : ChannelSession) (frames : List Frame) (t : ℚ) :
    (s.reply frames t).1 = s.considerAssignments frames t := by
  unfold reply
  split <;> rfl

/-! ## The answers of `reply` -/

/-- The three answers `reply` gives, on the session after it has looked at the
    batch, whose last frame is `frame`. -/
inductive Answers (s : ChannelSession) (frame : Frame) (t : ℚ) : Frame → Prop where
  | probe (hacked : s.acked = true) (hchannel : s.channel = some frame.address)
      (hframe : frame = .bare frame.address 191 4) : Answers s frame t (.probeReply frame.address)
  | request (hnone : s.requestedAt = none) (hframe : frame = .bare 254 191 0) :
      Answers s frame t (.channelRequest s.nonce)
  | ack (r : ℚ) (x : UInt8) (hrequested : s.requestedAt = some r) (hpending : s.pendingChannel = some x)
      (hacked : s.acked = false) (hwindow : inWindow r t) (hfree : x ∉ s.clients)
      (hframe : frame = .assignment x s.nonce ∨ frame = .cts x) : Answers s frame t (.channelAck x)

/-- `reply` only answers while the session has not failed. -/
theorem reply_some {s : ChannelSession} {frames : List Frame} {t : ℚ} {response : Frame}
    (h : (s.reply frames t).2 = some response) :
    ∃ frame, frames.getLast? = some frame ∧ (s.considerAssignments frames t).failure = none ∧
      Answers (s.considerAssignments frames t) frame t response := by
  unfold reply at h
  split at h
  · cases h
  rename_i frame hlast
  refine ⟨frame, hlast, ?_⟩
  generalize s.considerAssignments frames t = s' at h ⊢
  by_cases hf : s'.failure = none
  · refine ⟨hf, ?_⟩
    simp only [hf, if_true] at h
    unfold answer at h
    split at h
    · rename_i hp
      cases h
      exact .probe hp.1 hp.2.1 hp.2.2
    · split at h
      · rename_i hnone
        split at h
        · rename_i hframe
          cases h
          exact .request hnone hframe
        · cases h
      · rename_i r hr
        split at h
        · cases h
        · rename_i x hx
          split at h
          · rename_i hc
            cases h
            exact .ack r x hr hx hc.1 hc.2.1 hc.2.2.1 hc.2.2.2
          · cases h
  · simp only [hf, if_false] at h
    cases h

/-- A request is the only answer of type 1. -/
theorem Answers.of_request {s : ChannelSession} {frame response : Frame} {t : ℚ}
    (h : Answers s frame t response) (ht : response.messageType = 1) :
    s.requestedAt = none ∧ response = .channelRequest s.nonce := by
  cases h with
  | probe => exact absurd ht (by simp [Frame.probeReply])
  | request hnone => exact ⟨hnone, rfl⟩
  | ack => exact absurd ht (by simp [Frame.channelAck, Frame.bare])

/-- An acknowledgement is the only answer of type 3. -/
theorem Answers.of_ack {s : ChannelSession} {frame response : Frame} {t : ℚ}
    (h : Answers s frame t response) (ht : response.messageType = 3) :
    ∃ r x, response = .channelAck x ∧ s.requestedAt = some r ∧ s.pendingChannel = some x ∧
      s.acked = false ∧ inWindow r t ∧ x ∉ s.clients ∧
      (frame = .assignment x s.nonce ∨ frame = .cts x) := by
  cases h with
  | probe => exact absurd ht (by simp [Frame.probeReply])
  | request => exact absurd ht (by simp [Frame.channelRequest])
  | ack r x hr hp ha hw hfree hframe => exact ⟨r, x, rfl, hr, hp, ha, hw, hfree, hframe⟩

/-! ## What `sent` and `observe` change -/

/-- What `observe` leaves as it is: everything but `ready`, `failure` and the
    known clients. -/
structure Observes (s s' : ChannelSession) : Prop where
  nonce : s'.nonce = s.nonce
  channel : s'.channel = s.channel
  requestedAt : s'.requestedAt = s.requestedAt
  acked : s'.acked = s.acked
  pendingChannel : s'.pendingChannel = s.pendingChannel
  assignmentExpired : s'.assignmentExpired = s.assignmentExpired
  clients : s.clients ⊆ s'.clients
  failed : s.failure ≠ none → s'.failure ≠ none

theorem Observes.refl (s : ChannelSession) : Observes s s :=
  ⟨rfl, rfl, rfl, rfl, rfl, rfl, Finset.Subset.refl _, id⟩

theorem Observes.trans {s s' s'' : ChannelSession} (h : Observes s s') (h' : Observes s' s'') :
    Observes s s'' where
  nonce := h'.nonce.trans h.nonce
  channel := h'.channel.trans h.channel
  requestedAt := h'.requestedAt.trans h.requestedAt
  acked := h'.acked.trans h.acked
  pendingChannel := h'.pendingChannel.trans h.pendingChannel
  assignmentExpired := h'.assignmentExpired.trans h.assignmentExpired
  clients := h.clients.trans h'.clients
  failed hf := h'.failed (h.failed hf)

theorem noteFamily_observes (s : ChannelSession) (frame : Frame) :
    Observes s (s.noteFamily frame) := by
  unfold noteFamily
  split
  · exact ⟨rfl, rfl, rfl, rfl, rfl, rfl, Finset.Subset.refl _, fun _ => by simp⟩
  · exact .refl s

theorem noteClient_observes (s : ChannelSession) (frame : Frame) :
    Observes s (s.noteClient frame) := by
  unfold noteClient
  split
  · exact ⟨rfl, rfl, rfl, rfl, rfl, rfl, Finset.subset_insert _ _, id⟩
  · exact .refl s

theorem noteCollision_observes (s : ChannelSession) (frame : Frame) :
    Observes s (s.noteCollision frame) := by
  unfold noteCollision
  split
  · exact ⟨rfl, rfl, rfl, rfl, rfl, rfl, Finset.Subset.refl _, fun _ => by simp⟩
  · exact .refl s

theorem noteCts_observes (s : ChannelSession) (frame : Frame) : Observes s (s.noteCts frame) := by
  unfold noteCts
  split
  · exact ⟨rfl, rfl, rfl, rfl, rfl, rfl, Finset.Subset.refl _, id⟩
  · exact .refl s

theorem observe_observes (s : ChannelSession) (frame : Frame) : Observes s (s.observe frame) :=
  (((noteFamily_observes s frame).trans (noteClient_observes _ frame)).trans
    (noteCollision_observes _ frame)).trans (noteCts_observes _ frame)

/-- A client that was seen is remembered. -/
theorem mem_clients_observe {s : ChannelSession} {frame : Frame} (hc : frame.clientType = true)
    (ha : assignable frame.address) : frame.address ∈ (s.observe frame).clients := by
  have hmem : frame.address ∈ ((s.noteFamily frame).noteClient frame).clients := by
    rw [noteClient, if_pos ⟨hc, ha⟩]
    exact Finset.mem_insert_self _ _
  exact ((noteCollision_observes _ frame).trans (noteCts_observes _ frame)).clients hmem

/-- Another control family fails the session. -/
theorem failure_observe {s : ChannelSession} {frame : Frame} (hf : frame.alternateFamily = true) :
    (s.observe frame).failure ≠ none := by
  have hfam : (s.noteFamily frame).failure ≠ none := by
    rw [noteFamily, if_pos hf]
    simp
  exact (((noteClient_observes _ frame).trans (noteCollision_observes _ frame)).trans
    (noteCts_observes _ frame)).failed hfam

/-- `ready` is only set by a CTS for the channel of the session. -/
theorem ready_observe {s : ChannelSession} {frame : Frame} (h : (s.observe frame).ready = true) :
    s.ready = true ∨ ∃ x, s.channel = some x ∧ frame = .cts x := by
  have hfam : (s.noteFamily frame).ready = true → s.ready = true := by
    unfold noteFamily
    split
    · intro h; cases h
    · exact id
  have hclient : ((s.noteFamily frame).noteClient frame).ready = true → s.ready = true := by
    intro h
    apply hfam
    unfold noteClient at h
    split at h <;> exact h
  have hcollision : (((s.noteFamily frame).noteClient frame).noteCollision frame).ready = true →
      s.ready = true := by
    intro h
    apply hclient
    unfold noteCollision at h
    split at h
    · cases h
    · exact h
  have hch := (((noteFamily_observes s frame).trans (noteClient_observes _ frame)).trans
    (noteCollision_observes _ frame)).channel
  unfold observe noteCts at h
  split at h
  · rename_i hc
    exact .inr ⟨frame.address, hch.symm.trans hc.2.1, hc.2.2⟩
  · exact .inl (hcollision h)

/-! ## Soundness -/

/-- A session that is ready has not failed, and owns an acknowledged channel. -/
structure Sound (s : ChannelSession) : Prop where
  ready : s.ready = true → s.failure = none ∧ s.channel ≠ none
  channel : s.channel ≠ none → s.acked = true
  requested : s.acked = true → s.requestedAt ≠ none

theorem sound_make (nonce : Nonce) : Sound { nonce := nonce } :=
  ⟨fun h => absurd h (by simp), fun h => absurd rfl h, fun h => absurd h (by simp)⟩

/-- A batch can only fail a session without a channel, which is not ready. -/
theorem Sound.considers {s s' : ChannelSession} (h : Sound s) (hc : Considers s s') : Sound s' where
  ready hr := by
    rw [hc.ready] at hr
    obtain ⟨hf, hch⟩ := h.ready hr
    rw [hc.channel]
    refine ⟨?_, hch⟩
    rcases hc.failure with hf' | ⟨ha, -⟩
    · rw [hf', hf]
    · rw [h.channel hch] at ha
      cases ha
  channel hch := by
    rw [hc.channel] at hch
    rw [hc.acked]
    exact h.channel hch
  requested ha := by
    rw [hc.acked] at ha
    rw [hc.requestedAt]
    exact h.requested ha

theorem Sound.observe {s : ChannelSession} (h : Sound s) (frame : Frame) :
    Sound (s.observe frame) := by
  have hfam : Sound (s.noteFamily frame) := by
    unfold noteFamily
    split
    · exact ⟨fun hr => absurd hr (by simp), h.channel, h.requested⟩
    · exact h
  have hclient : Sound ((s.noteFamily frame).noteClient frame) := by
    unfold noteClient
    split
    · exact ⟨hfam.ready, hfam.channel, hfam.requested⟩
    · exact hfam
  have hcollision : Sound (((s.noteFamily frame).noteClient frame).noteCollision frame) := by
    unfold noteCollision
    split
    · exact ⟨fun hr => absurd hr (by simp), hclient.channel, hclient.requested⟩
    · exact hclient
  unfold ChannelSession.observe noteCts
  split
  · rename_i hc
    exact ⟨fun _ => ⟨hc.1, by rw [hc.2.1]; simp⟩, hcollision.channel, hcollision.requested⟩
  · exact hcollision

/-- `sent` for what `reply` has just answered. -/
theorem Sound.sent {s : ChannelSession} {frame response : Frame} {t : ℚ} (h : Sound s)
    (hf : s.failure = none) (ha : Answers s frame t response) : Sound (s.sent response t) := by
  cases ha with
  | probe => exact h
  | request hnone =>
    exact ⟨h.ready, h.channel, fun _ => by simp [ChannelSession.sent, Frame.channelRequest]⟩
  | ack r x hr =>
    refine ⟨fun hready => ?_, fun _ => rfl, fun _ => ?_⟩
    · exact ⟨hf, by simp [ChannelSession.sent, Frame.channelAck, Frame.bare]⟩
    · show s.requestedAt ≠ none
      rw [hr]
      simp

end ChannelSession

end BalboaRs485
