import BalboaRs485.Lib.Machine
import BalboaRs485.Transport.Channel

/-!
# Safety of the channel assignment

The calls on one `ChannelSession` in any order and at any clock readings, also
backwards ones; `sent` is only called with what `reply` has just returned and at
the same time, which is the flag of `ChannelOp.reply`.

* `considerFrames_spec`: what a batch does to the candidate.
* `History`, `history`: where the request, the candidate, the known clients and
  `ready` come from.
* `assignment_safe`: one request and one acknowledgement are sent, and what an
  acknowledgement implies.
-/

namespace BalboaRs485

/-- A call on a `ChannelSession`. -/
inductive ChannelOp where
  | observe (frame : Frame)
  | consider (frames : List Frame) (t : ℚ)
  /-- `reply`, and `sent` at once where `send` is set. -/
  | reply (frames : List Frame) (t : ℚ) (send : Bool)
  | idleReply (frames : List Frame)
  | expire (t : ℚ)

namespace ChannelSession

/-- One call and the frame it returns. -/
def step (s : ChannelSession) : ChannelOp → ChannelSession × Option Frame
  | .observe frame => (s.observe frame, none)
  | .consider frames t => (s.considerAssignments frames t, none)
  | .reply frames t send =>
    let (s, response) := s.reply frames t
    match response, send with
    | some frame, true => (s.sent frame t, some frame)
    | _, _ => (s, response)
  | .idleReply frames => (s, s.idleReply frames)
  | .expire t => (s.expire t, none)

/-- The machine of one session. -/
def channelMachine (nonce : Nonce) : Machine ChannelSession ChannelOp (Option Frame) where
  init := { nonce := nonce }
  step := step

/-- The session after the first `n` calls. -/
def sessionAt (nonce : Nonce) (l : List ChannelOp) (n : ℕ) : ChannelSession :=
  (channelMachine nonce).stateAt l n

/-- Call `n` is a `reply` to the batch `frames` at `t` and returns `response`. -/
def Replied (nonce : Nonce) (l : List ChannelOp) (n : ℕ) (frames : List Frame) (t : ℚ)
    (response : Frame) : Prop :=
  ∃ send, l[n]? = some (.reply frames t send) ∧
    (channelMachine nonce).outAt l n = some (some response)

/-- Call `n` is a `reply` whose answer is sent. -/
def Sent (nonce : Nonce) (l : List ChannelOp) (n : ℕ) (frames : List Frame) (t : ℚ)
    (response : Frame) : Prop :=
  l[n]? = some (.reply frames t true) ∧ (channelMachine nonce).outAt l n = some (some response)

/-- Call `n` passes a batch to `consider_assignments`. -/
def Passes (l : List ChannelOp) (n : ℕ) (frames : List Frame) (t : ℚ) : Prop :=
  l[n]? = some (.consider frames t) ∨ ∃ send, l[n]? = some (.reply frames t send)

/-- Call `k` makes `x` the candidate of the request sent at `r`: inside the window it
    looks at an assignment of `x` while there is no candidate, and the offers
    behind it in the batch name no other channel. -/
def Nominated (nonce : Nonce) (l : List ChannelOp) (k : ℕ) (r : ℚ) (x : UInt8) : Prop :=
  ∃ before after t, Passes l k (before ++ .assignment x nonce :: after) t ∧ inWindow r t ∧
    ((sessionAt nonce l k).considerFrames before).pendingChannel = none ∧
    (sessionAt nonce l (k + 1)).pendingChannel = some x ∧
    ∀ frame ∈ after, frame.correlated nonce = true → frame.offer = x

/-- Among the first `n` calls the request was sent at `r`, a later one made `x` the
    candidate, and no offer looked at since names another channel. -/
def Candidate (nonce : Nonce) (l : List ChannelOp) (n : ℕ) (r : ℚ) (x : UInt8) : Prop :=
  ∃ m k frames, Sent nonce l m frames r (.channelRequest nonce) ∧ m < k ∧ k < n ∧
    Nominated nonce l k r x ∧
    ∀ j frames t, k < j → j < n → Passes l j frames t → inWindow r t →
      ∀ frame ∈ frames, frame.correlated nonce = true → frame.offer = x

/-- What an acknowledgement of `x` returned by call `n` for the batch `frames` at `t`
    rests on. -/
structure AckJustified (nonce : Nonce) (l : List ChannelOp) (n : ℕ) (frames : List Frame) (t : ℚ)
    (x : UInt8) : Prop where
  candidate : ∃ r, inWindow r t ∧ Candidate nonce l (n + 1) r x
  range : assignable x
  free : ∀ j frame, j < n → l[j]? = some (.observe frame) →
    ¬ (frame.clientType = true ∧ frame.address = x)
  family : ∀ j frame, j < n → l[j]? = some (.observe frame) → frame.alternateFamily = false
  slot : frames.getLast? = some (.assignment x nonce) ∨ frames.getLast? = some (.cts x)

/-! ## Candidates -/

/-- With a candidate, a batch that does not fail the session only names it. -/
theorem considerFrames_of_some {s : ChannelSession} {frames : List Frame} {x : UInt8}
    (hx : s.pendingChannel = some x) (hf : (s.considerFrames frames).failure = none) :
    (s.considerFrames frames).pendingChannel = some x ∧
      ∀ frame ∈ frames, frame.correlated s.nonce = true → frame.offer = x := by
  induction frames with
  | nil => exact ⟨hx, fun _ h => by cases h⟩
  | cons frame frames ih =>
    unfold considerFrames at hf ⊢
    by_cases hc : frame.correlated s.nonce = true
    · rw [if_pos hc] at hf ⊢
      by_cases hother : s.pendingChannel ≠ none ∧ s.pendingChannel ≠ some frame.offer
      · rw [if_pos hother] at hf
        cases hf
      · rw [if_neg hother] at hf ⊢
        have hoffer : frame.offer = x := by
          by_contra hne
          refine hother ⟨by simp [hx], ?_⟩
          rw [hx]
          exact fun h => hne (Option.some.inj h).symm
        -- accepting the same offer again changes nothing
        have hsame : ({ s with pendingChannel := some frame.offer } : ChannelSession) = s := by
          rw [hoffer, ← hx]
        rw [hsame, ite_self] at hf ⊢
        obtain ⟨hpending, hall⟩ := ih hf
        refine ⟨hpending, fun frame' hmem hc' => ?_⟩
        rcases List.mem_cons.mp hmem with rfl | hmem
        · exact hoffer
        · exact hall frame' hmem hc'
    · rw [if_neg hc] at hf ⊢
      obtain ⟨hpending, hall⟩ := ih hf
      refine ⟨hpending, fun frame' hmem hc' => ?_⟩
      rcases List.mem_cons.mp hmem with rfl | hmem
      · exact absurd hc' hc
      · exact hall frame' hmem hc'

/-- The batch nominates a free channel, and names no other behind it. -/
def Nominates (s : ChannelSession) (frames : List Frame) : Prop :=
  ∃ x before after, frames = before ++ .assignment x s.nonce :: after ∧
    (s.considerFrames before).pendingChannel = none ∧ assignable x ∧ x ∉ s.clients ∧
    (s.considerFrames frames).pendingChannel = some x ∧
    ∀ frame ∈ after, frame.correlated s.nonce = true → frame.offer = x

/-- A frame that is skipped changes nothing about that. -/
theorem Nominates.skip {s : ChannelSession} {frame : Frame} {frames : List Frame}
    (h : Nominates s frames)
    (hskip : ∀ frames, s.considerFrames (frame :: frames) = s.considerFrames frames) :
    Nominates s (frame :: frames) := by
  obtain ⟨x, before, after, rfl, hbefore, hx, hfree, hpending, hall⟩ := h
  refine ⟨x, frame :: before, after, rfl, ?_, hx, hfree, ?_, hall⟩
  · rw [hskip, hbefore]
  · rw [hskip, hpending]

/-- Without one, a batch that does not fail the session leaves it without, or
    nominates a free channel and names no other behind it. -/
theorem considerFrames_of_none {s : ChannelSession} {frames : List Frame}
    (hx : s.pendingChannel = none) (hf : (s.considerFrames frames).failure = none) :
    (s.considerFrames frames).pendingChannel = none ∨ Nominates s frames := by
  induction frames with
  | nil => exact .inl hx
  | cons frame frames ih =>
    have hskips : (∀ frames, s.considerFrames (frame :: frames) = s.considerFrames frames) →
        (s.considerFrames (frame :: frames)).pendingChannel = none ∨
          Nominates s (frame :: frames) := by
      intro hskip
      rw [hskip] at hf ⊢
      exact (ih hf).imp_right fun h => h.skip hskip
    by_cases hc : frame.correlated s.nonce = true
    · by_cases hfree : assignable frame.offer ∧ frame.offer ∉ s.clients
      · have hstep : s.considerFrames (frame :: frames) =
            considerFrames { s with pendingChannel := some frame.offer } frames := by
          conv_lhs => unfold considerFrames
          rw [if_pos hc, if_neg (by simp [hx]), if_pos hfree]
        rw [hstep] at hf
        obtain ⟨hpending, hall⟩ := considerFrames_of_some rfl hf
        rw [← hstep] at hpending
        refine .inr ⟨frame.offer, [], frames, ?_, hx, hfree.1, hfree.2, hpending, hall⟩
        rw [List.nil_append, ← Frame.correlated_iff.mp hc]
      · refine hskips fun frames => ?_
        conv_lhs => unfold considerFrames
        rw [if_pos hc, if_neg (by simp [hx]), if_neg hfree]
    · refine hskips fun frames => ?_
      conv_lhs => unfold considerFrames
      rw [if_neg hc]

/-- A call that passes a batch and leaves the session alive has looked at it in
    the window of the request, or the candidate is the same. -/
theorem considerAssignments_cases {s : ChannelSession} {frames : List Frame} {t : ℚ}
    (hf : (s.considerAssignments frames t).failure = none) :
    s.failure = none ∧
      ((s.listening t ∧ s.considerAssignments frames t = s.considerFrames frames) ∨
        ((∀ r, s.requestedAt = some r → s.acked = false → ¬ inWindow r t) ∧
          (s.considerAssignments frames t).pendingChannel = s.pendingChannel)) := by
  have hcons := considerAssignments_considers s frames t
  have hs : s.failure = none := by
    by_contra hne
    exact hne ((hcons.failed hne).symm.trans hf)
  refine ⟨hs, ?_⟩
  unfold considerAssignments at hf ⊢
  by_cases hl : s.listening t
  · -- inside the window nothing expires
    have hsame : s.expire t = s := by
      obtain ⟨-, -, r, hr, hw⟩ := hl
      unfold expire
      rw [hr]
      exact if_neg fun h => absurd h.2.2 (not_le.mpr hw.2)
    left
    rw [hsame, if_pos hl]
    exact ⟨hl, rfl⟩
  · right
    refine ⟨fun r hr ha hw => hl ⟨hs, ha, r, hr, hw⟩, ?_⟩
    have hexp := expire_considers s t
    split
    · rename_i hl'
      refine absurd ⟨hs, hexp.acked.symm.trans hl'.2.1, ?_⟩ hl
      rw [← hexp.requestedAt]
      exact hl'.2.2
    · exact expire_pendingChannel s t

/-! ## History -/

/-- Where the values of a session come from after the first `n` calls. -/
structure History (nonce : Nonce) (l : List ChannelOp) (n : ℕ) (s : ChannelSession) : Prop where
  same : s.nonce = nonce
  sound : s.Sound
  requested : ∀ r, s.requestedAt = some r →
    ∃ m frames, m < n ∧ Sent nonce l m frames r (.channelRequest nonce)
  pending : ∀ x, s.pendingChannel = some x → s.failure = none →
    s.requestedAt ≠ none ∧ assignable x
  candidate : ∀ x r, s.pendingChannel = some x → s.requestedAt = some r → s.failure = none →
    s.acked = false → Candidate nonce l n r x
  clients : ∀ j frame, j < n → l[j]? = some (.observe frame) → frame.clientType = true →
    assignable frame.address → frame.address ∈ s.clients
  family : ∀ j frame, j < n → l[j]? = some (.observe frame) → frame.alternateFamily = true →
    s.failure ≠ none
  channel : ∀ x, s.channel = some x →
    ∃ k frames t, k < n ∧ Sent nonce l k frames t (.channelAck x)
  ready : s.ready = true → ∃ k m x frames t, k < m ∧ m < n ∧ s.channel = some x ∧
    Sent nonce l k frames t (.channelAck x) ∧ l[m]? = some (.observe (.cts x))

variable {nonce : Nonce} {l : List ChannelOp} {n : ℕ} {s : ChannelSession}

/-- A candidate lasts over a call that looks at no offer of another channel. -/
theorem Candidate.succ {r : ℚ} {x : UInt8} (h : Candidate nonce l n r x)
    (hn : ∀ frames t, Passes l n frames t → inWindow r t →
      ∀ frame ∈ frames, frame.correlated nonce = true → frame.offer = x) :
    Candidate nonce l (n + 1) r x := by
  obtain ⟨m, k, frames, hm, hmk, hkn, hnom, hall⟩ := h
  refine ⟨m, k, frames, hm, hmk, hkn.trans (Nat.lt_succ_self n), hnom, ?_⟩
  intro j frames t hkj hjn
  rcases Nat.lt_succ_iff_lt_or_eq.mp hjn with hlt | rfl
  · exact hall j frames t hkj hlt
  · exact hn frames t

/-- One call passes one batch. -/
theorem Passes.unique {frames frames' : List Frame} {t t' : ℚ} (h : Passes l n frames t)
    (h' : Passes l n frames' t') : frames' = frames ∧ t' = t := by
  rcases h with h | ⟨_, h⟩ <;> rcases h' with h' | ⟨_, h'⟩ <;> rw [h] at h' <;> cases h' <;>
    exact ⟨rfl, rfl⟩

/-- An old candidate stays: the offers of a batch name it, or are not looked at. -/
theorem History.old_candidate (h : History nonce l n s) {frames : List Frame} {t : ℚ} {x : UInt8}
    (hx : s.pendingChannel = some x) (hf : (s.considerAssignments frames t).failure = none) :
    (s.considerAssignments frames t).pendingChannel = some x ∧
      ∀ r, s.requestedAt = some r → s.acked = false → inWindow r t →
        ∀ frame ∈ frames, frame.correlated nonce = true → frame.offer = x := by
  obtain ⟨-, ⟨hl, heq⟩ | ⟨hout, heq⟩⟩ := considerAssignments_cases hf
  · rw [heq] at hf ⊢
    obtain ⟨hpending, hall⟩ := considerFrames_of_some hx hf
    rw [h.same] at hall
    exact ⟨hpending, fun _ _ _ _ => hall⟩
  · rw [heq]
    exact ⟨hx, fun r hr ha hw => absurd hw (hout r hr ha)⟩

/-- A new candidate was nominated by the batch, in the window of the request. -/
theorem History.new_candidate (h : History nonce l n (sessionAt nonce l n)) {frames : List Frame}
    {t : ℚ} (hp : Passes l n frames t) {x : UInt8}
    (hnone : (sessionAt nonce l n).pendingChannel = none)
    (hx : ((sessionAt nonce l n).considerAssignments frames t).pendingChannel = some x)
    (hf : ((sessionAt nonce l n).considerAssignments frames t).failure = none)
    (hnext : (sessionAt nonce l (n + 1)).pendingChannel = some x) :
    (sessionAt nonce l n).listening t ∧ assignable x ∧
      ∀ r, (sessionAt nonce l n).requestedAt = some r → inWindow r t → Nominated nonce l n r x := by
  obtain ⟨-, ⟨hl, heq⟩ | ⟨-, heq⟩⟩ := considerAssignments_cases hf
  · rw [heq] at hf hx
    rcases considerFrames_of_none hnone hf with hn | ⟨y, before, after, hfr, hb, ha, -, hy, hall⟩
    · rw [hn] at hx
      cases hx
    · obtain rfl : y = x := Option.some.inj (hy.symm.trans hx)
      refine ⟨hl, ha, fun r hr hw => ?_⟩
      rw [h.same] at hfr hall
      exact ⟨before, after, t, by rwa [← hfr], hw, hb, hnext, hall⟩
  · rw [heq, hnone] at hx
    cases hx

/-- The candidate after a call that has passed a batch. -/
theorem History.candidate_of_passes (h : History nonce l n (sessionAt nonce l n))
    {frames : List Frame} {t : ℚ} (hp : Passes l n frames t) {s' : ChannelSession}
    (hs' : (sessionAt nonce l n).considerAssignments frames t = s')
    (hnext : (sessionAt nonce l (n + 1)).pendingChannel = s'.pendingChannel) :
    (∀ x, s'.pendingChannel = some x → s'.failure = none →
        s'.requestedAt ≠ none ∧ assignable x) ∧
      ∀ x r, s'.pendingChannel = some x → s'.requestedAt = some r → s'.failure = none →
        s'.acked = false → Candidate nonce l (n + 1) r x := by
  subst hs'
  have hcons := considerAssignments_considers (sessionAt nonce l n) frames t
  constructor
  · intro x hx hf
    rw [hcons.requestedAt]
    cases hpend : (sessionAt nonce l n).pendingChannel with
    | some y =>
      obtain ⟨hy, -⟩ := h.old_candidate hpend hf
      rw [hy] at hx
      cases hx
      exact h.pending _ hpend (considerAssignments_cases hf).1
    | none =>
      obtain ⟨hl, ha, -⟩ := h.new_candidate hp hpend hx hf (hnext.trans hx)
      obtain ⟨-, -, r, hr, -⟩ := hl
      exact ⟨by simp [hr], ha⟩
  · intro x r hx hr hf ha
    rw [hcons.requestedAt] at hr
    rw [hcons.acked] at ha
    cases hpend : (sessionAt nonce l n).pendingChannel with
    | some y =>
      obtain ⟨hy, hall⟩ := h.old_candidate hpend hf
      rw [hy] at hx
      cases hx
      refine (h.candidate x r hpend hr (considerAssignments_cases hf).1 ha).succ ?_
      intro frames' t' hp' hw
      obtain ⟨rfl, rfl⟩ := hp.unique hp'
      exact hall r hr ha hw
    | none =>
      obtain ⟨hl, -, hnom⟩ := h.new_candidate hp hpend hx hf (hnext.trans hx)
      obtain ⟨-, -, r', hr', hw⟩ := hl
      obtain rfl : r' = r := Option.some.inj (hr'.symm.trans hr)
      obtain ⟨m, frames₀, hm, hsent⟩ := h.requested r' hr
      refine ⟨m, n, frames₀, hsent, hm, Nat.lt_succ_self n, hnom r' hr hw, ?_⟩
      intro j _ _ hj hjn
      omega

/-- A call that only looks at offers. -/
theorem History.considers {s' : ChannelSession} (h : History nonce l n s) (hc : Considers s s')
    (hop : ∀ frame, l[n]? ≠ some (.observe frame))
    (hp : ∀ x, s'.pendingChannel = some x → s'.failure = none →
      s'.requestedAt ≠ none ∧ assignable x)
    (hcand : ∀ x r, s'.pendingChannel = some x → s'.requestedAt = some r → s'.failure = none →
      s'.acked = false → Candidate nonce l (n + 1) r x) : History nonce l (n + 1) s' where
  same := hc.nonce.trans h.same
  sound := h.sound.considers hc
  requested r hr := by
    obtain ⟨m, frames, hm, hsent⟩ := h.requested r (hc.requestedAt.symm.trans hr)
    exact ⟨m, frames, by omega, hsent⟩
  pending := hp
  candidate := hcand
  clients j frame hj hobs := by
    rcases Nat.lt_succ_iff_lt_or_eq.mp hj with hlt | rfl
    · rw [hc.clients]
      exact h.clients j frame hlt hobs
    · exact absurd hobs (hop frame)
  family j frame hj hobs := by
    rcases Nat.lt_succ_iff_lt_or_eq.mp hj with hlt | rfl
    · intro ha
      rw [hc.failed (h.family j frame hlt hobs ha)]
      exact h.family j frame hlt hobs ha
    · exact absurd hobs (hop frame)
  channel x hx := by
    obtain ⟨k, frames, t, hk, hsent⟩ := h.channel x (hc.channel.symm.trans hx)
    exact ⟨k, frames, t, by omega, hsent⟩
  ready hr := by
    obtain ⟨k, m, x, frames, t, hkm, hm, hch, hsent, hcts⟩ := h.ready (hc.ready.symm.trans hr)
    exact ⟨k, m, x, frames, t, hkm, by omega, hc.channel.trans hch, hsent, hcts⟩

/-- A call that looks at nothing. -/
theorem History.still {s' : ChannelSession} (h : History nonce l n s) (hc : Considers s s')
    (hpending : s'.pendingChannel = s.pendingChannel)
    (hop : ∀ frame, l[n]? ≠ some (.observe frame)) (hnot : ∀ frames t, ¬ Passes l n frames t) :
    History nonce l (n + 1) s' := by
  have hfail : s'.failure = none → s.failure = none := by
    intro hf
    by_contra hne
    exact hne ((hc.failed hne).symm.trans hf)
  refine h.considers hc hop ?_ ?_
  · intro x hx hf
    rw [hc.requestedAt]
    exact h.pending x (hpending.symm.trans hx) (hfail hf)
  · intro x r hx hr hf ha
    exact (h.candidate x r (hpending.symm.trans hx) (hc.requestedAt.symm.trans hr) (hfail hf)
      (hc.acked.symm.trans ha)).succ fun frames t hp => absurd hp (hnot frames t)

/-- A call of `observe`. -/
theorem History.observe (h : History nonce l n s) {frame : Frame}
    (hop : l[n]? = some (.observe frame)) : History nonce l (n + 1) (s.observe frame) := by
  have hobs := observe_observes s frame
  have hfail : (s.observe frame).failure = none → s.failure = none := by
    intro hf
    by_contra hne
    exact hobs.failed hne hf
  have hnot : ∀ frames t, ¬ Passes l n frames t := by
    rintro frames t (hp | ⟨_, hp⟩) <;> · rw [hop] at hp; cases hp
  refine ⟨hobs.nonce.trans h.same, h.sound.observe frame, ?_, ?_, ?_, ?_, ?_, ?_, ?_⟩
  · intro r hr
    obtain ⟨m, frames, hm, hsent⟩ := h.requested r (hobs.requestedAt.symm.trans hr)
    exact ⟨m, frames, by omega, hsent⟩
  · intro x hx hf
    rw [hobs.requestedAt]
    exact h.pending x (hobs.pendingChannel.symm.trans hx) (hfail hf)
  · intro x r hx hr hf ha
    exact (h.candidate x r (hobs.pendingChannel.symm.trans hx) (hobs.requestedAt.symm.trans hr)
      (hfail hf) (hobs.acked.symm.trans ha)).succ fun frames t hp => absurd hp (hnot frames t)
  · intro j frame' hj hj' hc ha
    rcases Nat.lt_succ_iff_lt_or_eq.mp hj with hlt | rfl
    · exact hobs.clients (h.clients j frame' hlt hj' hc ha)
    · rw [hop] at hj'
      cases hj'
      exact mem_clients_observe hc ha
  · intro j frame' hj hj' ha
    rcases Nat.lt_succ_iff_lt_or_eq.mp hj with hlt | rfl
    · exact hobs.failed (h.family j frame' hlt hj' ha)
    · rw [hop] at hj'
      cases hj'
      exact failure_observe ha
  · intro x hx
    obtain ⟨k, frames, t, hk, hsent⟩ := h.channel x (hobs.channel.symm.trans hx)
    exact ⟨k, frames, t, by omega, hsent⟩
  · intro hr
    rcases ready_observe hr with hold | ⟨x, hx, rfl⟩
    · obtain ⟨k, m, x, frames, t, hkm, hm, hch, hsent, hcts⟩ := h.ready hold
      exact ⟨k, m, x, frames, t, hkm, by omega, hobs.channel.trans hch, hsent, hcts⟩
    · obtain ⟨k, frames, t, hk, hsent⟩ := h.channel x hx
      exact ⟨k, n, x, frames, t, hk, Nat.lt_succ_self n, hobs.channel.trans hx, hsent, hop⟩

/-- `sent` after the answer of the same call. -/
theorem History.sent {frames : List Frame} {frame response : Frame} {t : ℚ}
    (h : History nonce l (n + 1) s) (hf : s.failure = none) (ha : Answers s frame t response)
    (hsent : Sent nonce l n frames t response) : History nonce l (n + 1) (s.sent response t) := by
  have hsound := h.sound.sent hf ha
  cases ha with
  | probe => exact h
  | request hnone =>
    refine ⟨h.same, hsound, ?_, ?_, ?_, h.clients, h.family, h.channel, h.ready⟩
    · intro r hr
      obtain rfl : t = r := Option.some.inj hr
      rw [h.same] at hsent
      exact ⟨n, frames, Nat.lt_succ_self n, hsent⟩
    · intro x hx hf'
      exact absurd hnone (h.pending x hx hf').1
    · intro x r hx _ hf'
      exact absurd hnone (h.pending x hx hf').1
  | ack r x hr hp hack hw =>
    refine ⟨h.same, hsound, h.requested, h.pending, ?_, h.clients, h.family, ?_, ?_⟩
    · intro _ _ _ _ _ ha
      cases ha
    · intro y hy
      obtain rfl : x = y := Option.some.inj hy
      exact ⟨n, frames, t, Nat.lt_succ_self n, hsent⟩
    · intro hready
      have hch := (h.sound.ready hready).2
      rw [h.sound.channel hch] at hack
      cases hack

/-- The session after `reply` has looked at its batch. -/
theorem History.reply (h : History nonce l n (sessionAt nonce l n)) {frames : List Frame} {t : ℚ}
    {send : Bool} (hop : l[n]? = some (.reply frames t send)) :
    History nonce l (n + 1) ((sessionAt nonce l n).considerAssignments frames t) := by
  have hpending : (sessionAt nonce l (n + 1)).pendingChannel =
      ((sessionAt nonce l n).considerAssignments frames t).pendingChannel := by
    rw [sessionAt, (channelMachine nonce).stateAt_succ hop]
    show (step (sessionAt nonce l n) (.reply frames t send)).1.pendingChannel = _
    rw [← reply_fst]
    simp only [step]
    split
    · unfold ChannelSession.sent
      split
      · rfl
      · split <;> rfl
    · rfl
  obtain ⟨hp, hcand⟩ := h.candidate_of_passes (.inr ⟨send, hop⟩) rfl hpending
  exact h.considers (considerAssignments_considers _ frames t) (by simp [hop]) hp hcand

/-- Every value of a session has its history. -/
theorem history (nonce : Nonce) (l : List ChannelOp) (n : ℕ) :
    History nonce l n (sessionAt nonce l n) := by
  induction n with
  | zero =>
    refine ⟨rfl, sound_make nonce, ?_, ?_, ?_, ?_, ?_, ?_, ?_⟩ <;>
      simp [sessionAt, channelMachine]
  | succ n ih =>
    cases hop : l[n]? with
    | none =>
      have hstay : sessionAt nonce l (n + 1) = sessionAt nonce l n :=
        (channelMachine nonce).stateAt_succ_none hop
      rw [hstay]
      exact ih.still (.refl _) rfl (by simp [hop]) (by simp [Passes, hop])
    | some op =>
      have hnext : sessionAt nonce l (n + 1) = (step (sessionAt nonce l n) op).1 :=
        (channelMachine nonce).stateAt_succ hop
      cases op with
      | observe frame =>
        rw [hnext]
        exact ih.observe hop
      | consider frames t =>
        obtain ⟨hp, hcand⟩ := ih.candidate_of_passes (.inl hop) rfl (by rw [hnext]; rfl)
        rw [hnext]
        exact ih.considers (considerAssignments_considers _ frames t) (by simp [hop]) hp hcand
      | reply frames t send =>
        have hreply := ih.reply hop
        have hfst := reply_fst (sessionAt nonce l n) frames t
        rw [hnext]
        simp only [step]
        split
        · rename_i response hresponse
          obtain ⟨frame, -, hf, ha⟩ := reply_some hresponse
          rw [hfst]
          refine hreply.sent hf ha ⟨hop, ?_⟩
          rw [(channelMachine nonce).outAt_eq hop]
          show some (step (sessionAt nonce l n) (.reply frames t true)).2 = _
          simp [step, hresponse]
        · rw [hfst]
          exact hreply
      | idleReply frames =>
        rw [hnext]
        exact ih.still (.refl _) rfl (by simp [hop]) (by simp [Passes, hop])
      | expire t =>
        rw [hnext]
        exact ih.still (expire_considers _ t) (expire_pendingChannel _ t) (by simp [hop])
          (by simp [Passes, hop])

/-! ## Once -/

/-- Once a message of this type has been sent, `reply` never returns one again. -/
def SentOnce (nonce : Nonce) (l : List ChannelOp) (messageType : UInt8) : Prop :=
  ∀ j k frames t response frames' t' response', Sent nonce l j frames t response →
    Replied nonce l k frames' t' response' → response.messageType = messageType →
    response'.messageType = messageType → k ≤ j

/-- A returned frame is one of the answers, on the session after the batch. -/
theorem Replied.answers {frames : List Frame} {t : ℚ} {response : Frame}
    (h : Replied nonce l n frames t response) :
    ∃ frame, frames.getLast? = some frame ∧
      ((sessionAt nonce l n).considerAssignments frames t).failure = none ∧
      Answers ((sessionAt nonce l n).considerAssignments frames t) frame t response := by
  obtain ⟨send, hop, hout⟩ := h
  rw [(channelMachine nonce).outAt_eq hop] at hout
  refine reply_some ?_
  have hsnd : (step (sessionAt nonce l n) (.reply frames t send)).2 = some response :=
    Option.some.inj hout
  simp only [step] at hsnd
  split at hsnd
  · rename_i hresponse
    rw [hresponse]
    exact hsnd
  · exact hsnd

/-- No call takes back a request or an acknowledgement. -/
theorem step_mono (s : ChannelSession) (op : ChannelOp) :
    (s.requestedAt ≠ none → (s.step op).1.requestedAt ≠ none) ∧
      (s.acked = true → (s.step op).1.acked = true) := by
  have hsent : ∀ (s : ChannelSession) (frame : Frame) (t : ℚ),
      (s.requestedAt ≠ none → (s.sent frame t).requestedAt ≠ none) ∧
        (s.acked = true → (s.sent frame t).acked = true) := by
    intro s frame t
    unfold sent
    split
    · exact ⟨fun _ => by simp, id⟩
    · split
      · exact ⟨id, fun _ => rfl⟩
      · exact ⟨id, id⟩
  cases op with
  | observe frame =>
    have h := observe_observes s frame
    exact ⟨fun hr => by rwa [← h.requestedAt] at hr, fun ha => h.acked.trans ha⟩
  | consider frames t =>
    have h := considerAssignments_considers s frames t
    exact ⟨fun hr => by rwa [← h.requestedAt] at hr, fun ha => h.acked.trans ha⟩
  | reply frames t send =>
    have h := considerAssignments_considers s frames t
    have hmono : (s.requestedAt ≠ none → (s.reply frames t).1.requestedAt ≠ none) ∧
        (s.acked = true → (s.reply frames t).1.acked = true) := by
      rw [reply_fst]
      exact ⟨fun hr => by rwa [← h.requestedAt] at hr, fun ha => h.acked.trans ha⟩
    simp only [step]
    split
    · exact ⟨fun hr => (hsent _ _ t).1 (hmono.1 hr), fun ha => (hsent _ _ t).2 (hmono.2 ha)⟩
    · exact hmono
  | idleReply frames => exact ⟨id, id⟩
  | expire t =>
    have h := expire_considers s t
    exact ⟨fun hr => by rwa [← h.requestedAt] at hr, fun ha => h.acked.trans ha⟩

/-- What a call that sends leaves behind. -/
theorem Sent.next {frames : List Frame} {t : ℚ} {response : Frame}
    (h : Sent nonce l n frames t response) :
    sessionAt nonce l (n + 1) =
      ((sessionAt nonce l n).considerAssignments frames t).sent response t := by
  obtain ⟨hop, hout⟩ := h
  rw [(channelMachine nonce).outAt_eq hop] at hout
  have hsnd : (step (sessionAt nonce l n) (.reply frames t true)).2 = some response :=
    Option.some.inj hout
  rw [sessionAt, (channelMachine nonce).stateAt_succ hop, ← reply_fst]
  show (step (sessionAt nonce l n) (.reply frames t true)).1 = _
  simp only [step] at hsnd ⊢
  split at hsnd
  · cases hsnd
    rfl
  · rename_i hno
    exact (hno response hsnd rfl).elim

/-- A request is sent once: it is only returned while none has been. -/
theorem request_once (nonce : Nonce) (l : List ChannelOp) : SentOnce nonce l 1 := by
  intro j k frames t response frames' t' response' hsent hreplied htype htype'
  by_contra hlt
  have hset : (sessionAt nonce l (j + 1)).requestedAt ≠ none := by
    rw [hsent.next, sent, if_pos htype]
    simp
  have hkeep := (channelMachine nonce).stateAt_invariant_from hset
    (fun s op => (step_mono s op).1) k (by omega)
  obtain ⟨frame, -, -, ha⟩ := hreplied.answers
  have hnone := (ha.of_request htype').1
  rw [(considerAssignments_considers _ _ _).requestedAt] at hnone
  exact hkeep hnone

/-- An acknowledgement is sent once: it is only returned while none has been. -/
theorem ack_once (nonce : Nonce) (l : List ChannelOp) : SentOnce nonce l 3 := by
  intro j k frames t response frames' t' response' hsent hreplied htype htype'
  by_contra hlt
  have hset : (sessionAt nonce l (j + 1)).acked = true := by
    rw [hsent.next, sent, if_neg (by rw [htype]; decide), if_pos htype]
  have hkeep := (channelMachine nonce).stateAt_invariant_from hset
    (fun s op => (step_mono s op).2) k (by omega)
  obtain ⟨frame, -, -, ha⟩ := hreplied.answers
  obtain ⟨_, _, -, -, -, hack, -⟩ := ha.of_ack htype'
  rw [(considerAssignments_considers _ _ _).acked] at hack
  exact absurd (hkeep.symm.trans hack) (by decide)

/-- What an acknowledgement rests on. -/
theorem ack_justified {frames : List Frame} {t : ℚ} {response : Frame}
    (h : Replied nonce l n frames t response) (htype : response.messageType = 3) :
    ∃ x, response = .channelAck x ∧ AckJustified nonce l n frames t x := by
  obtain ⟨frame, hlast, hf, ha⟩ := h.answers
  obtain ⟨r, x, rfl, hr, hx, hack, hwindow, hfree, hframe⟩ := ha.of_ack htype
  obtain ⟨send, hop, -⟩ := h
  have hist := (history nonce l n).reply hop
  refine ⟨x, rfl, ⟨r, hwindow, hist.candidate x r hx hr hf hack⟩, (hist.pending x hx hf).2, ?_, ?_, ?_⟩
  · rintro j frame' hj hobs ⟨hclient, rfl⟩
    exact hfree (hist.clients j frame' (by omega) hobs hclient (hist.pending _ hx hf).2)
  · intro j frame' hj hobs
    by_contra hne
    exact hist.family j frame' (by omega) hobs (by simpa using hne) hf
  · rw [hist.same] at hframe
    rcases hframe with rfl | rfl
    · exact .inl hlast
    · exact .inr hlast

/-- **Assignment safety.** At most one request and at most one acknowledgement are
    sent, and `reply` returns none after it; an acknowledgement is justified by the
    request, an undisputed candidate and a free channel; `ready` comes after the
    acknowledgement and a later CTS on its channel. -/
theorem assignment_safe (nonce : Nonce) (l : List ChannelOp) :
    SentOnce nonce l 1 ∧ SentOnce nonce l 3 ∧
      (∀ n frames t response, Replied nonce l n frames t response → response.messageType = 3 →
        ∃ x, response = .channelAck x ∧ AckJustified nonce l n frames t x) ∧
      ∀ n, (sessionAt nonce l n).ready = true → ∃ k m x frames t, k < m ∧ m < n ∧
        (sessionAt nonce l n).channel = some x ∧ Sent nonce l k frames t (.channelAck x) ∧
        l[m]? = some (.observe (.cts x)) :=
  ⟨request_once nonce l, ack_once nonce l, fun _ _ _ _ h htype => ack_justified h htype,
    fun n => (history nonce l n).ready⟩

/-- Two probes for new clients, of which the first is not answered in time: both
    times `reply` returns the request. -/
def unsentRun : List ChannelOp :=
  [.reply [.bare 254 191 0] 0 false, .reply [.bare 254 191 0] 1 false]

/-- An answer that was returned but not sent can be returned again. -/
theorem request_returned_twice :
    ¬ ∀ nonce l j k frames t response frames' t' response',
      Replied nonce l j frames t response → Replied nonce l k frames' t' response' →
      response.messageType = 1 → response'.messageType = 1 → j = k := by
  intro h
  have hfirst : Replied ⟨0xEE, 0x14⟩ unsentRun 0 [.bare 254 191 0] 0 (.channelRequest ⟨0xEE, 0x14⟩) :=
    ⟨false, rfl, by decide +kernel⟩
  have hsecond : Replied ⟨0xEE, 0x14⟩ unsentRun 1 [.bare 254 191 0] 1 (.channelRequest ⟨0xEE, 0x14⟩) :=
    ⟨false, rfl, by decide +kernel⟩
  exact absurd (h _ _ _ _ _ _ _ _ _ _ hfirst hsecond rfl rfl) (by decide)

end ChannelSession

end BalboaRs485
