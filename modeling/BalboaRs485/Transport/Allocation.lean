import BalboaRs485.Transport.Slots
import Mathlib.Algebra.Order.BigOperators.Group.Finset
import Mathlib.Data.Fintype.Card
import Mathlib.Logic.Function.Iterate

/-!
# Finite channel allocation

The budget and the nonces of assignment requests live in the connection and survive
its sockets, while each `ChannelSession` decides on its own when to ask.

* `avoidNonces_ne_none`: the loop that avoids old nonces ends.
* `Account`, `iterate_account`: what one iteration does to the requests.
* `Allocated`, `allocated`: the account of a run.
* `finite_allocation`: at most three requests, one for each epoch, with distinct nonces; an
  acknowledgement answers the nonce of its own epoch.
-/

namespace BalboaRs485

/-! ## Avoiding nonces -/

/-- `int.from_bytes(nonce, "big")`. -/
def Nonce.value (nonce : Nonce) : ℕ := nonce.high.toNat * 256 + nonce.low.toNat

namespace Connection

theorem value_nextNonce (nonce : Nonce) : (nextNonce nonce).value = (nonce.value + 1) % 65536 := by
  unfold nextNonce Nonce.value
  simp only [UInt8.toNat_ofNat']
  omega

/-- The nonces the loop tests, one after the other. -/
theorem value_iterate (nonce : Nonce) (k : ℕ) :
    (nextNonce^[k] nonce).value % 65536 = (nonce.value + k) % 65536 := by
  induction k with
  | zero => rw [Function.iterate_zero_apply, Nat.add_zero]
  | succ k ih =>
    rw [Function.iterate_succ_apply', value_nextNonce]
    omega

theorem avoidNonces_none {used : List Nonce} {fuel : ℕ} {nonce : Nonce}
    (h : avoidNonces used fuel nonce = none) : ∀ k < fuel, nextNonce^[k] nonce ∈ used := by
  induction fuel generalizing nonce with
  | zero =>
    intro k hk
    omega
  | succ fuel ih =>
    intro k hk
    unfold avoidNonces at h
    split at h
    · next hmem =>
      cases k with
      | zero => exact hmem
      | succ k => exact ih h k (by omega)
    · cases h

theorem avoidNonces_some {used : List Nonce} {fuel : ℕ} {nonce result : Nonce}
    (h : avoidNonces used fuel nonce = some result) : result ∉ used := by
  induction fuel generalizing nonce with
  | zero => cases h
  | succ fuel ih =>
    unfold avoidNonces at h
    split at h
    · exact ih h
    · next hmem =>
      obtain rfl := Option.some.inj h
      exact hmem

/-- **The loop ends**: of one more nonce than there are old ones, one is new. -/
theorem avoidNonces_ne_none {used : List Nonce} (h : used.length < 65536) (nonce : Nonce) :
    avoidNonces used (used.length + 1) nonce ≠ none := by
  intro hnone
  have hmaps := avoidNonces_none hnone
  have hcard : used.toFinset.card < (Finset.range (used.length + 1)).card := by
    rw [Finset.card_range]
    have := used.toFinset_card_le
    omega
  obtain ⟨a, ha, b, hb, hne, heq⟩ := Finset.exists_ne_map_eq_of_card_lt_of_maps_to hcard
    (f := fun k => nextNonce^[k] nonce) fun k hk => by
      simpa using hmaps k (Finset.mem_range.mp hk)
  have ha := Finset.mem_range.mp ha
  have hb := Finset.mem_range.mp hb
  have hva := value_iterate nonce a
  have hvb := value_iterate nonce b
  have heq : nextNonce^[a] nonce = nextNonce^[b] nonce := heq
  rw [heq] at hva
  omega

open Proc

variable {cfg : ConnectionConfig} {i : Iteration} {c d : Connection} {out : List Effect}

/-! ## The account of an iteration -/

/-- What the account of assignment requests reads of a connection. -/
structure Ledger where
  epoch : ℕ
  requests : ℕ
  nonces : List Nonce
  nonce : Nonce
  requestedAt : Option ℚ
  candidate : Option UInt8
  channel : Option UInt8

def ledger (c : Connection) : Ledger where
  epoch := c.epoch
  requests := c.assignmentRequests
  nonces := c.assignmentNonces
  nonce := c.policy.channel.nonce
  requestedAt := c.policy.channel.requestedAt
  candidate := c.policy.channel.pendingChannel
  channel := c.policy.channel.channel

/-- A request for a channel, `Frame(254, _, 1, _)`. -/
def assignmentRequest (frame : Frame) : Bool := frame.address = 254 ∧ frame.messageType = 1

/-- The assignment requests among the written frames. -/
def requestFrames (out : List Effect) : List Frame :=
  ((writes out).map Write.frame).filter assignmentRequest

theorem requestFrames_append (out new : List Effect) :
    requestFrames (out ++ new) = requestFrames out ++ requestFrames new := by
  rw [requestFrames, writes_append, List.map_append, List.filter_append]
  rfl

theorem requestFrames_write (w : Write) :
    requestFrames [.write w] = if assignmentRequest w.frame then [w.frame] else [] := by
  by_cases h : assignmentRequest w.frame = true
  · rw [if_pos h]
    simp [requestFrames, h]
  · rw [if_neg h]
    simp [requestFrames, h]

/-- Only channels that may be offered are candidates or owned. -/
def Ledger.Assignable (k : Ledger) : Prop :=
  ∀ x, k.candidate = some x ∨ k.channel = some x → ChannelSession.assignable x

/-- The one request of an epoch has been written. -/
structure Requested (k k' : Ledger) (out : List Effect) : Prop where
  frames : requestFrames out = [.channelRequest k.nonce]
  unrequested : k.requestedAt = none
  budget : k.requests < 3
  requests : k'.requests = k.requests + 1
  nonces : k'.nonces = k.nonce :: k.nonces
  requestedAt : k'.requestedAt ≠ none

/-- What a written acknowledgement answers. -/
def Acked (batch : List Frame) (k k' : Ledger) (frame : Frame) : Prop :=
  ∃ x, frame = .channelAck x ∧ k.requestedAt ≠ none ∧ k'.candidate = some x ∧
    (batch.getLast? = some (.assignment x k.nonce) ∨ batch.getLast? = some (.cts x))

/-- What an iteration that reads `batch` does to the account. -/
structure Account (batch : List Frame) (k k' : Ledger) (out : List Effect) : Prop where
  epoch : k'.epoch = k.epoch
  nonce : k'.nonce = k.nonce
  candidate : ∀ x, k'.candidate = some x →
    k.candidate = some x ∨ ChannelSession.assignable x ∧ .assignment x k.nonce ∈ batch
  assignable : k.Assignable → k'.Assignable
  requests : Requested k k' out ∨ requestFrames out = [] ∧ k'.requests = k.requests ∧
    k'.nonces = k.nonces ∧ k'.requestedAt = k.requestedAt
  acks : ∀ w ∈ writes out, w.site = .management → w.frame.messageType = 3 →
    Acked batch k k' w.frame

variable {batch : List Frame} {k k' : Ledger}

theorem Account.refl (batch : List Frame) (k : Ledger) : Account batch k k [] where
  epoch := rfl
  nonce := rfl
  candidate _ h := Or.inl h
  assignable h := h
  requests := Or.inr ⟨rfl, rfl, rfl, rfl⟩
  acks _ h := by cases h

/-- What writes no frame of channel management leaves the account as it is. -/
theorem Account.congr {out' : List Effect} (h : Account batch k k' out)
    (hframes : requestFrames out' = requestFrames out)
    (hacks : ∀ w ∈ writes out', w.site = .management → w ∈ writes out) :
    Account batch k k' out' := by
  refine ⟨h.epoch, h.nonce, h.candidate, h.assignable, ?_, ?_⟩
  · rw [hframes]
    rcases h.requests with hr | hr
    · exact Or.inl ⟨by rw [hframes, hr.frames], hr.unrequested, hr.budget, hr.requests, hr.nonces,
        hr.requestedAt⟩
    · exact Or.inr hr
  · intro w hw hsite
    exact h.acks w (hacks w hw hsite) hsite

/-- A frame that is not channel management leaves the account as it is. -/
theorem Account.emit {w : Write} (h : Account batch k k' out) (hsite : w.site ≠ .management)
    (hframe : assignmentRequest w.frame = false) : Account batch k k' (out ++ [.write w]) := by
  refine h.congr ?_ fun w' hw' hsite' => ?_
  · rw [requestFrames_append, requestFrames_write, hframe]
    exact List.append_nil _
  · rw [writes_append, List.mem_append] at hw'
    rcases hw' with hw' | hw'
    · exact hw'
    · obtain rfl := List.mem_singleton.mp hw'
      exact absurd hsite' hsite

theorem Account.beginSync {p : Prop} [Decidable p] (h : Account batch k k' out) :
    Account batch k k' (out ++ if p then [.beginSync] else []) := by
  have hwrites : writes (out ++ if p then [.beginSync] else []) = writes out := writes_start
  refine h.congr ?_ fun w hw _ => ?_
  · rw [requestFrames, hwrites]
    rfl
  · rw [hwrites] at hw
    exact hw

theorem Keeps.ledger (h : Keeps c d) : d.ledger = c.ledger := by
  rw [Connection.ledger, Connection.ledger, h.epoch, h.requests, h.nonces, h.policy]

theorem observe_ledger (p : BusPolicy) (frame : Frame) :
    ({ c with policy := p.observe frame } : Connection).ledger =
      ({ c with policy := p } : Connection).ledger := by
  have hobs := ChannelSession.observe_observes p.channel frame
  unfold Connection.ledger
  simp only [BusPolicy.observe_channel]
  split
  · rw [hobs.nonce, hobs.requestedAt, hobs.pendingChannel, hobs.channel]
  · rfl

theorem take_ledger (c : Connection) (now : ℚ) (message : Message) :
    (c.take now message).ledger = c.ledger := by
  cases message with
  | information => simp only [Connection.take]; split <;> rfl
  | capabilities => simp only [Connection.take]; split <;> rfl
  | _ => rfl

theorem absorbAll_ledger (now : ℚ) (c : Connection) (frames : List Frame) :
    (c.absorbAll now frames).ledger = c.ledger := by
  unfold absorbAll
  induction frames generalizing c with
  | nil => rfl
  | cons frame frames ih =>
    rw [List.foldl_cons, ih]
    unfold absorb
    split
    · rfl
    · rw [take_ledger, observe_ledger]

/-- The frames of a batch do not change the account. -/
theorem observeFrames_ledger (cfg : ConnectionConfig) (now : ℚ) (frames : List Frame)
    (c : Connection) : (observeFrames cfg now frames c).ledger = c.ledger := by
  rw [observeFrames, ← absorbAll_ledger now c frames]
  unfold veto
  split <;> rfl

/-- A connection whose channel has looked at the batch, and was allocated at most what it
    names. -/
theorem Looks.ledger {channel : ChannelSession} {c d : Connection} {batch : List Frame}
    (h : Looks batch c.policy.channel channel) (hepoch : d.epoch = c.epoch)
    (hnonce : d.policy.channel.nonce = channel.nonce)
    (hcandidate : d.policy.channel.pendingChannel = channel.pendingChannel)
    (hchannel : ∀ x, d.policy.channel.channel = some x →
      c.policy.channel.channel = some x ∨ channel.pendingChannel = some x) :
    d.ledger.epoch = c.ledger.epoch ∧ d.ledger.nonce = c.ledger.nonce ∧
      (∀ x, d.ledger.candidate = some x → c.ledger.candidate = some x ∨
        ChannelSession.assignable x ∧ .assignment x c.ledger.nonce ∈ batch) ∧
      (c.ledger.Assignable → d.ledger.Assignable) := by
  have hcand : ∀ x, d.ledger.candidate = some x → c.ledger.candidate = some x ∨
      ChannelSession.assignable x ∧ .assignment x c.ledger.nonce ∈ batch := fun x hx =>
    h.candidate x (hcandidate.symm.trans hx)
  refine ⟨hepoch, hnonce.trans h.nonce, hcand, fun hassign x hx => ?_⟩
  have hcase : d.ledger.candidate = some x ∨ c.policy.channel.channel = some x := by
    rcases hx with hx | hx
    · exact Or.inl hx
    · exact (hchannel x hx).symm.imp_left hcandidate.trans
  rcases hcase with hx | hx
  · rcases hcand x hx with hold | hnew
    · exact hassign x (Or.inl hold)
    · exact hnew.1
  · exact hassign x (Or.inr hx)

/-- Channel management keeps the account. -/
theorem Manages.account {sent : Bool} {new : List Effect}
    (h : Manages cfg i batch c d sent new) : Account batch c.ledger d.ledger new := by
  cases h with
  | @looked channel hlooks =>
    obtain ⟨he, hn, hc, ha⟩ := hlooks.ledger (d := c.setChannel channel) rfl rfl rfl
      fun x hx => Or.inl (hlooks.channel.symm.trans hx)
    exact ⟨he, hn, hc, ha, Or.inr ⟨rfl, rfl, rfl, hlooks.requestedAt⟩, fun w hw => by cases hw⟩
  | @refused channel frame response hlooks =>
    obtain ⟨he, hn, hc, ha⟩ := hlooks.ledger
      (d := c.setChannel { channel with failure := some .budget }) rfl rfl rfl
      fun x hx => Or.inl (hlooks.channel.symm.trans hx)
    exact ⟨he, hn, hc, ha, Or.inr ⟨rfl, rfl, rfl, hlooks.requestedAt⟩, fun w hw => by cases hw⟩
  | @answered channel frame response hmode hlooks hlast hf hanswer hbudget =>
    cases hanswer with
    | probe hacked hchannel hframe =>
      obtain ⟨he, hn, hc, ha⟩ := hlooks.ledger
        (d := (c.setChannel channel).managementSent (.probeReply frame.address) i.now) rfl rfl rfl
        fun x hx => Or.inl (hlooks.channel.symm.trans hx)
      refine ⟨he, hn, hc, ha, Or.inr ⟨?_, rfl, rfl, hlooks.requestedAt⟩, ?_⟩
      · rw [requestFrames_write, if_neg (by simp [assignmentRequest, Frame.probeReply])]
      · intro w hw hsite htype
        obtain rfl := List.mem_singleton.mp hw
        exact absurd htype (by simp [Frame.probeReply])
    | request hnone hframe =>
      obtain ⟨he, hn, hc, ha⟩ := hlooks.ledger
        (d := (c.setChannel channel).managementSent (.channelRequest channel.nonce) i.now)
        rfl rfl rfl fun x hx => Or.inl (hlooks.channel.symm.trans hx)
      refine ⟨he, hn, hc, ha, Or.inl ⟨?_, ?_, hbudget rfl, rfl, ?_, ?_⟩, ?_⟩
      · show requestFrames [_] = [.channelRequest c.policy.channel.nonce]
        rw [← hlooks.nonce]
        rfl
      · exact hlooks.requestedAt.symm.trans hnone
      · show channel.nonce :: c.assignmentNonces = c.policy.channel.nonce :: c.assignmentNonces
        rw [hlooks.nonce]
      · show (some i.now : Option ℚ) ≠ none
        simp
      · intro w hw hsite htype
        obtain rfl := List.mem_singleton.mp hw
        exact absurd htype (by simp [Frame.channelRequest])
    | ack r x hr hp hacked hw hfree hframe =>
      obtain ⟨he, hn, hc, ha⟩ := hlooks.ledger
        (d := (c.setChannel channel).managementSent (.channelAck x) i.now) rfl rfl rfl
        fun y hy => Or.inr (hp.trans hy)
      refine ⟨he, hn, hc, ha, Or.inr ⟨?_, rfl, rfl, hlooks.requestedAt⟩, ?_⟩
      · rw [requestFrames_write, if_neg (by simp [assignmentRequest, Frame.channelAck, Frame.bare])]
      · intro w hw hsite htype
        obtain rfl := List.mem_singleton.mp hw
        refine ⟨x, rfl, ?_, hp, ?_⟩
        · show c.policy.channel.requestedAt ≠ none
          rw [← hlooks.requestedAt, hr]
          simp
        · show batch.getLast? = some (.assignment x c.policy.channel.nonce) ∨ _
          rw [hlast, ← hlooks.nonce]
          exact hframe.imp (congrArg some) (congrArg some)

/-- A transmission for the address of the policy keeps the account. -/
theorem account_transmit {frames : List Frame} {site : Site} {frame : Connection → Frame}
    {update : Connection → Connection} (h : Account batch k d.ledger out)
    (hsite : site ≠ .management) (hupdate : ∀ c, Stays c (update c))
    (hframe : ∀ p : BusPolicy, p.channel = d.policy.channel →
      assignmentRequest (frame (update { d with policy := p })) = false) :
    wp (transmit cfg i frames site frame update) (fun _ e out' => Account batch k e.ledger out')
      (fun _ e out' => Account batch k e.ledger out') d out := by
  have hdone : ∀ e out', Transmitted cfg i frames site frame update d e out out' →
      Account batch k e.ledger out' := by
    intro e out' ht
    obtain ⟨p, hadm, rfl⟩ := ht.admitted
    obtain ⟨-, -, hconsumed⟩ := BusPolicy.allowsQuery_some hadm
    have hledger : (update { d with policy := p }).ledger = d.ledger := by
      rw [(hupdate _).toKeeps.ledger, Connection.ledger, Connection.ledger]
      simp only [hconsumed.channel]
    rw [ht.written, hledger]
    exact h.emit hsite (hframe p hconsumed.channel)
  refine wp_mono transmit_spec ?_ fun _ e out' ht => hdone e out' ht
  rintro _ e out' (⟨-, rfl, rfl⟩ | ht)
  · exact h
  · exact hdone e out' ht

/-- No address of a client is that of channel management. -/
theorem address_ne (h : c.ledger.Assignable) : c.policy.address ≠ 254 := by
  unfold BusPolicy.address
  cases hc : c.policy.channel.channel with
  | none => decide
  | some x =>
    have hx := h x (Or.inr hc)
    intro heq
    have heq : x = 254 := heq
    rw [heq] at hx
    exact absurd hx (by decide)

theorem query_account {frames : List Frame} {degraded sent : Bool}
    (h : Account batch k d.ledger out) :
    wp (query cfg i frames degraded sent) (fun _ e out' => Account batch k e.ledger out')
      (fun _ e out' => Account batch k e.ledger out') d out := by
  unfold query
  rw [wp_bind, wp_get]
  refine wp_when (fun _ => ?_) (fun _ => h)
  refine account_transmit h (by decide) (fun _ => ⟨⟨rfl, rfl, rfl, rfl, rfl⟩, rfl, rfl⟩) ?_
  intro p _
  simp [assignmentRequest, encodeQuery, Frame.readdress]

theorem progress_account {frames : List Frame} {degraded sent : Bool}
    (h : Account batch k d.ledger out) :
    wp (progress cfg i frames degraded sent) (fun _ e out' => Account batch k e.ledger out')
      (fun _ e out' => Account batch k e.ledger out') d out := by
  unfold progress
  rw [wp_bind, wp_get]
  refine wp_ite (fun _ => ?_) (fun _ => ?_)
  · rw [wp_bind]
    refine wp_mono synchronize_spec ?_ ?_
    · rintro _ e out' ⟨rfl, rfl⟩
      have hstay := entered_stays cfg i d degraded
      rw [← hstay.toKeeps.ledger] at h
      exact query_account h.beginSync
    · rintro _ e out' ⟨hstay, rfl⟩
      rw [← hstay.toKeeps.ledger] at h
      exact h.beginSync
  · rw [wp_modify, (detect_stays d degraded).toKeeps.ledger]
    exact h

theorem participate_account {frames : List Frame} {sent : Bool}
    (h : Account batch k d.ledger out) (hassign : k.Assignable) :
    wp (participate cfg i frames sent) (fun _ e out' => Account batch k e.ledger out')
      (fun _ e out' => Account batch k e.ledger out') d out := by
  unfold participate
  refine wp_when (fun _ => wp_ite (fun _ => (wp_raise _).mpr h) (fun _ => ?_)) (fun _ => h)
  unfold offer
  rw [wp_bind, wp_get]
  cases i.outbound with
  | none => exact (wp_pure _).mpr h
  | some outbound =>
    refine wp_when (fun _ => ?_) (fun _ => h)
    refine account_transmit h (by decide) (fun c => .refl c) ?_
    intro p hp
    have haddress : p.address = d.policy.address := by
      rw [BusPolicy.address, BusPolicy.address, hp]
    simp [assignmentRequest, Frame.readdress, haddress, address_ne (h.assignable hassign)]

theorem idle_account {frames : List Frame} {sent : Bool} (h : Account batch k d.ledger out) :
    wp (idle cfg i frames sent) (fun _ e out' => Account batch k e.ledger out')
      (fun _ e out' => Account batch k e.ledger out') d out := by
  unfold idle
  rw [wp_bind, wp_get]
  cases hreply : d.policy.channel.idleReply frames with
  | none => exact (wp_pure _).mpr h
  | some reply =>
    refine wp_when (fun _ => ?_) (fun _ => h)
    refine account_transmit h (by decide) (fun c => .refl c) ?_
    intro p _
    have htype : reply.messageType = 7 := by
      unfold ChannelSession.idleReply at hreply
      split at hreply
      · split at hreply
        · cases hreply
          rfl
        · cases hreply
      · cases hreply
    simp [assignmentRequest, htype]

/-- **One iteration keeps the account**, whether it returns or raises. -/
theorem iteration_account (h : c.ledger.Assignable) :
    wp (iteration cfg i) (fun _ d out => Account (c.batch i) c.ledger d.ledger out)
      (fun _ d out => Account (c.batch i) c.ledger d.ledger out) c [] := by
  unfold iteration
  rw [wp_bind]
  refine wp_mono receive_spec ?_ ?_
  · rintro _ _ _ ⟨rfl, rfl, rfl⟩
    rw [wp_bind, wp_modify, wp_bind]
    have hk := (received_keeps c i).trans (withoutOldQuery_stays cfg (c.received i) i.now).toKeeps
    have hstart := (observeFrames_ledger cfg i.now (c.batch i)
      ((c.received i).withoutOldQuery cfg i.now)).trans hk.ledger
    refine wp_mono manage_cases ?_ ?_
    · rintro sent d _ ⟨new, rfl, hm⟩
      have hd := hm.account
      rw [hstart] at hd
      rw [wp_bind, awaitTraffic, wp_bind, wp_get]
      refine wp_ite (fun _ => (wp_raise _).mpr hd) (fun _ => ?_)
      rw [wp_pure, wp_bind]
      refine wp_mono (progress_account hd) ?_ fun _ _ _ h => h
      intro _ d out hd
      rw [wp_bind]
      refine wp_mono (participate_account hd h) ?_ fun _ _ _ h => h
      intro _ d out hd
      exact idle_account hd
    · rintro _ d _ ⟨sent, new, rfl, hm⟩
      have hd := hm.account
      rw [hstart] at hd
      exact hd
  · rintro _ d _ ⟨hkeeps, rfl⟩
    rw [hkeeps.ledger]
    exact .refl _ _

/-- The teardown after an exception keeps the account too. -/
theorem iterate_account (h : c.ledger.Assignable) :
    Account (c.batch i) c.ledger (iterate cfg i c).1.ledger (iterate cfg i c).2 := by
  have hiteration : wp (iteration cfg i) _ _ c [] := iteration_account h
  have hrun := wp_run hiteration
  unfold iterate
  rcases hr : iteration cfg i c with ⟨d, effects, e | a⟩
  · rw [hr] at hrun
    exact hrun
  · rw [hr] at hrun
    exact hrun

/-! ## Runs -/

variable {nonce : Nonce} {l : List Op} {n : ℕ}

/-- The assignment requests written by the first `n` operations, each with the epoch it was
    written in, the latest first. -/
def requestsAt (cfg : ConnectionConfig) (nonce : Nonce) (l : List Op) : ℕ → List (ℕ × Frame)
  | 0 => []
  | n + 1 =>
    (requestFrames (((connectionMachine cfg nonce).outAt l n).getD [])).map
        (fun frame => ((connectionAt cfg nonce l n).epoch, frame)) ++
      requestsAt cfg nonce l n

/-- What the requests written so far and the offers read in this epoch say about a
    connection. -/
structure Allocated (c : Connection) (requests : List (ℕ × Frame))
    (offered : ℕ → UInt8 → Nonce → Prop) : Prop where
  count : c.assignmentRequests = requests.length
  bound : c.assignmentRequests ≤ 3
  frames : requests.map Prod.snd = c.assignmentNonces.map .channelRequest
  distinct : c.assignmentNonces.Nodup
  epochs : requests.Pairwise fun r r' => r'.1 < r.1
  past : ∀ r ∈ requests, r.1 ≤ c.epoch
  assignable : c.ledger.Assignable
  unrequested : c.phase = .opened → c.policy.channel.requestedAt = none →
    c.policy.channel.nonce ∉ c.assignmentNonces ∧ ∀ r ∈ requests, r.1 < c.epoch
  requested : c.phase = .opened → c.policy.channel.requestedAt ≠ none →
    (c.epoch, Frame.channelRequest c.policy.channel.nonce) ∈ requests
  offered : c.phase = .opened → ∀ x, c.policy.channel.pendingChannel = some x →
    offered c.epoch x c.policy.channel.nonce

variable {requests : List (ℕ × Frame)} {offered offered' : ℕ → UInt8 → Nonce → Prop}

theorem Allocated.later (h : Allocated c requests offered)
    (hlater : ∀ e x nonce, offered e x nonce → offered' e x nonce) :
    Allocated c requests offered' :=
  { h with offered := fun hopen x hx => hlater _ _ _ (h.offered hopen x hx) }

/-- A new policy without a candidate: nothing has been requested in this epoch. -/
theorem Allocated.fresh (h : Allocated c requests offered)
    (hrequests : d.assignmentRequests = c.assignmentRequests)
    (hnonces : d.assignmentNonces = c.assignmentNonces)
    (hpolicy : d.policy.channel = { nonce := d.policy.channel.nonce })
    (hepoch : c.epoch ≤ d.epoch)
    (hopen : d.phase = .opened → d.policy.channel.nonce ∉ c.assignmentNonces ∧ c.epoch < d.epoch) :
    Allocated d requests offered where
  count := hrequests.trans h.count
  bound := hrequests.le.trans h.bound
  frames := by rw [hnonces, h.frames]
  distinct := by rw [hnonces]; exact h.distinct
  epochs := h.epochs
  past r hr := (h.past r hr).trans hepoch
  assignable x hx := by
    unfold Connection.ledger at hx
    rw [hpolicy] at hx
    simp at hx
  unrequested ho _ := by
    rw [hnonces]
    exact ⟨(hopen ho).1, fun r hr => (h.past r hr).trans_lt (hopen ho).2⟩
  requested _ hr := by
    rw [hpolicy] at hr
    exact absurd rfl hr
  offered _ x hx := by
    rw [hpolicy] at hx
    cases hx

/-- An iteration of an open connection. -/
theorem Allocated.account (h : Allocated c requests offered) (hopen : c.phase = .opened)
    (ha : Account batch c.ledger d.ledger out)
    (hlater : ∀ e x nonce, offered e x nonce → offered' e x nonce)
    (hoffer : ∀ x, .assignment x c.policy.channel.nonce ∈ batch →
      offered' c.epoch x c.policy.channel.nonce) :
    Allocated d ((requestFrames out).map (fun frame => (c.epoch, frame)) ++ requests) offered' := by
  have hepoch : d.epoch = c.epoch := ha.epoch
  have hnonce : d.policy.channel.nonce = c.policy.channel.nonce := ha.nonce
  have hoffered : ∀ x, d.policy.channel.pendingChannel = some x →
      offered' d.epoch x d.policy.channel.nonce := by
    intro x hx
    rw [hepoch, hnonce]
    rcases ha.candidate x hx with hold | hnew
    · exact hlater _ _ _ (h.offered hopen x hold)
    · exact hoffer x hnew.2
  rcases ha.requests with hr | ⟨hframes, hrequests, hnonces, hat⟩
  · -- the one request of the epoch
    have hrequests : d.assignmentRequests = c.assignmentRequests + 1 := hr.requests
    have hnonces : d.assignmentNonces = c.policy.channel.nonce :: c.assignmentNonces := hr.nonces
    have hbudget : c.assignmentRequests < 3 := hr.budget
    obtain ⟨hnew, hearlier⟩ := h.unrequested hopen hr.unrequested
    rw [hr.frames]
    refine ⟨?_, by omega, ?_, ?_, ?_, ?_, ha.assignable h.assignable, ?_, ?_, fun _ => hoffered⟩
    · rw [hrequests, h.count, List.length_append, Nat.add_comm]
      rfl
    · rw [hnonces, List.map_append, h.frames]
      rfl
    · rw [hnonces]
      exact List.nodup_cons.mpr ⟨hnew, h.distinct⟩
    · exact List.pairwise_cons.mpr ⟨hearlier, h.epochs⟩
    · intro r hmem
      rw [hepoch]
      rcases List.mem_append.mp hmem with hmem | hmem
      · obtain rfl := List.mem_singleton.mp hmem
        exact le_refl _
      · exact h.past r hmem
    · intro _ hnone
      exact absurd hnone hr.requestedAt
    · intro _ _
      rw [hepoch, hnonce]
      exact List.mem_append_left _ (List.mem_singleton.mpr rfl)
  · have hrequests : d.assignmentRequests = c.assignmentRequests := hrequests
    have hnonces : d.assignmentNonces = c.assignmentNonces := hnonces
    have hat : d.policy.channel.requestedAt = c.policy.channel.requestedAt := hat
    rw [hframes]
    refine ⟨hrequests.trans h.count, hrequests.le.trans h.bound, ?_, ?_, h.epochs, ?_,
      ha.assignable h.assignable, ?_, ?_, fun _ => hoffered⟩
    · rw [hnonces]
      exact h.frames
    · rw [hnonces]
      exact h.distinct
    · rw [hepoch]
      exact h.past
    · intro _ hnone
      rw [hnonce, hnonces, hepoch]
      exact h.unrequested hopen (hat.symm.trans hnone)
    · intro _ hsome
      rw [hnonce, hepoch]
      exact h.requested hopen (by rwa [← hat])

/-- An assignment of `x` that echoes `nonce` was read in the epoch `e`, by one of the first
    `n` operations. -/
def OfferedIn (cfg : ConnectionConfig) (start : Nonce) (l : List Op) (n e : ℕ) (x : UInt8)
    (nonce : Nonce) : Prop :=
  ∃ m j effects, m < n ∧ Iterates cfg start l m j effects ∧
    (connectionAt cfg start l m).epoch = e ∧
    .assignment x nonce ∈ (connectionAt cfg start l m).batch j

theorem OfferedIn.later {m e : ℕ} {x : UInt8} {echoed : Nonce}
    (h : OfferedIn cfg nonce l n e x echoed) (hle : n ≤ m) : OfferedIn cfg nonce l m e x echoed := by
  obtain ⟨k, j, effects, hk, h⟩ := h
  exact ⟨k, j, effects, hk.trans_le hle, h⟩

theorem requestsAt_succ {effects : List Effect}
    (h : (connectionMachine cfg nonce).outAt l n = some effects) :
    requestsAt cfg nonce l (n + 1) = (requestFrames effects).map
        (fun frame => ((connectionAt cfg nonce l n).epoch, frame)) ++ requestsAt cfg nonce l n := by
  rw [requestsAt, h]
  rfl

/-- Nothing is written and the connection stays. -/
theorem Allocated.still
    (h : Allocated (connectionAt cfg nonce l n) (requestsAt cfg nonce l n)
      (OfferedIn cfg nonce l n))
    (hstay : connectionAt cfg nonce l (n + 1) = connectionAt cfg nonce l n)
    (hout : requestsAt cfg nonce l (n + 1) = requestsAt cfg nonce l n) :
    Allocated (connectionAt cfg nonce l (n + 1)) (requestsAt cfg nonce l (n + 1))
      (OfferedIn cfg nonce l (n + 1)) := by
  rw [hstay, hout]
  exact h.later fun _ _ _ ho => ho.later (Nat.le_succ n)

/-- A session starts with a nonce that no request has used. -/
theorem Allocated.connect (h : Allocated c requests offered) (drawn : Nonce) (opening : Opening) :
    Allocated (c.connect cfg drawn opening) requests offered := by
  unfold Connection.connect
  split
  · exact h
  · next echoed havoid =>
    have hnew := avoidNonces_some havoid
    cases opening with
    | opened now =>
      refine h.fresh rfl rfl rfl (Nat.le_succ _) fun _ => ?_
      exact ⟨hnew, Nat.lt_succ_self _⟩
    | failed =>
      exact h.fresh rfl rfl rfl (le_refl _) fun ho => absurd ho (by simp [teardown])
    | cancelled =>
      exact h.fresh rfl rfl rfl (le_refl _) fun ho => absurd ho (by simp [teardown])

/-- Every position of every run has its account. -/
theorem allocated (cfg : ConnectionConfig) (nonce : Nonce) (l : List Op) (n : ℕ) :
    Allocated (connectionAt cfg nonce l n) (requestsAt cfg nonce l n)
      (OfferedIn cfg nonce l n) := by
  induction n with
  | zero =>
    have hphase : (connectionAt cfg nonce l 0).phase ≠ .opened := by
      show Phase.closed ≠ .opened
      decide
    refine ⟨rfl, Nat.zero_le _, rfl, List.nodup_nil, List.Pairwise.nil, ?_, ?_,
      fun ho => absurd ho hphase, fun ho => absurd ho hphase, fun ho => absurd ho hphase⟩
    · intro r hr
      cases hr
    · rintro x (hx | hx)
      · cases hx
      · cases hx
  | succ n ih =>
    cases hop : l[n]? with
    | none =>
      refine ih.still (connectionAt_succ_none hop) ?_
      rw [requestsAt, Machine.outAt, hop]
      rfl
    | some op =>
      have hnext := connectionAt_succ cfg nonce hop
      have hout := requestsAt_succ ((connectionMachine cfg nonce).outAt_eq hop)
      cases op with
      | connect drawn opening =>
        have hquiet : (step cfg (connectionAt cfg nonce l n) (.connect drawn opening)).2 = [] := by
          simp only [step]
          split <;> rfl
        have hsame : requestsAt cfg nonce l (n + 1) = requestsAt cfg nonce l n := by
          rw [hout]
          show (requestFrames (step cfg (connectionAt cfg nonce l n) (.connect drawn opening)).2).map
            _ ++ _ = _
          rw [hquiet]
          rfl
        by_cases hclosed : (connectionAt cfg nonce l n).phase = .closed
        · rw [hnext, hsame, step, if_pos hclosed]
          exact (ih.later fun _ _ _ ho => ho.later (Nat.le_succ n)).connect drawn opening
        · exact ih.still (by rw [hnext, step, if_neg hclosed]) hsame
      | iterate i =>
        by_cases hopen : (connectionAt cfg nonce l n).phase = .opened
        · have hit : Iterates cfg nonce l n i _ := ⟨hop, hopen, rfl⟩
          have hstep : step cfg (connectionAt cfg nonce l n) (.iterate i) =
              iterate cfg i (connectionAt cfg nonce l n) := by
            rw [step, if_pos hopen]
          have haccount : Account _ _ (iterate cfg i _).1.ledger (iterate cfg i _).2 :=
            iterate_account ih.assignable
          have hnew := ih.account hopen haccount
            (fun _ _ _ ho => ho.later (Nat.le_succ n)) fun x hx =>
              (⟨n, i, _, Nat.lt_succ_self n, hit, rfl, hx⟩ : OfferedIn cfg nonce l (n + 1) _ x _)
          rw [hnext, hout]
          show Allocated (step cfg (connectionAt cfg nonce l n) (.iterate i)).1
            ((requestFrames (step cfg (connectionAt cfg nonce l n) (.iterate i)).2).map _ ++ _) _
          rw [hstep]
          exact hnew
        · refine ih.still (by rw [hnext, step, if_neg hopen]) ?_
          rw [hout]
          show (requestFrames (step cfg (connectionAt cfg nonce l n) (.iterate i)).2).map _ ++ _ = _
          rw [step, if_neg hopen]
          rfl

/-! ## Lifetime -/

/-- The assignment requests of the lifetime of a connection. -/
structure FiniteAllocation (cfg : ConnectionConfig) (nonce : Nonce) (l : List Op) : Prop where
  /-- At most three are ever written. -/
  budget : ∀ n, (requestsAt cfg nonce l n).length ≤ 3
  /-- No two are written in one epoch. -/
  once : ∀ n, ((requestsAt cfg nonce l n).map Prod.fst).Nodup
  /-- No two carry the same nonce. -/
  distinct : ∀ n, ∃ nonces : List Nonce, nonces.Nodup ∧
    (requestsAt cfg nonce l n).map Prod.snd = nonces.map .channelRequest
  /-- An acknowledgement is for a channel that was offered in its epoch to the nonce requested
      in its epoch, answers this offer or a CTS, and no other epoch has requested the nonce. -/
  acked : ∀ n i effects w, Iterates cfg nonce l n i effects → w ∈ writes effects →
    w.site = .management → w.frame.messageType = 3 →
    ∃ x requested, w.frame = .channelAck x ∧
      ((connectionAt cfg nonce l n).epoch, .channelRequest requested) ∈ requestsAt cfg nonce l n ∧
      OfferedIn cfg nonce l (n + 1) (connectionAt cfg nonce l n).epoch x requested ∧
      (((connectionAt cfg nonce l n).batch i).getLast? = some (.assignment x requested) ∨
        ((connectionAt cfg nonce l n).batch i).getLast? = some (.cts x)) ∧
      ∀ r ∈ requestsAt cfg nonce l n, r.1 ≠ (connectionAt cfg nonce l n).epoch →
        r.2 ≠ .channelRequest requested
  /-- Whatever nonce a session draws, the loop that avoids the old ones ends with a new one. -/
  avoids : ∀ n drawn, ∃ fuel result,
    avoidNonces (connectionAt cfg nonce l n).assignmentNonces fuel drawn = some result ∧
      result ∉ (connectionAt cfg nonce l n).assignmentNonces

theorem channelRequest_injective : Function.Injective Frame.channelRequest := by
  intro a b h
  obtain ⟨ah, al⟩ := a
  obtain ⟨bh, bl⟩ := b
  unfold Frame.channelRequest at h
  simp at h
  rw [h.1, h.2]

/-- No two requests of a run are equal frames. -/
theorem Allocated.nodup (h : Allocated c requests offered) : (requests.map Prod.snd).Nodup := by
  rw [h.frames]
  exact h.distinct.map channelRequest_injective

/-- **The channels of the controller are used sparingly**, over any sequence of sockets,
    batches, nonces, failures and timeouts. -/
theorem finite_allocation (cfg : ConnectionConfig) (nonce : Nonce) (l : List Op) :
    FiniteAllocation cfg nonce l where
  budget n := by
    have h := allocated cfg nonce l n
    rw [← h.count]
    exact h.bound
  once n := by
    have h := (allocated cfg nonce l n).epochs
    rw [List.Nodup, List.pairwise_map]
    exact h.imp fun hlt => Nat.ne_of_gt hlt
  distinct n := ⟨_, (allocated cfg nonce l n).distinct, (allocated cfg nonce l n).frames⟩
  acked n i effects w h hw hsite htype := by
    have hn := allocated cfg nonce l n
    have ha : Account _ _ (iterate cfg i _).1.ledger (iterate cfg i _).2 :=
      iterate_account hn.assignable
    rw [h.effects] at ha
    obtain ⟨x, hframe, hat, hcandidate, hslot⟩ := ha.acks w hw hsite htype
    have hrequested := hn.requested h.opened hat
    refine ⟨x, _, hframe, hrequested, ?_, hslot, ?_⟩
    · rcases ha.candidate x hcandidate with hold | ⟨-, hmem⟩
      · exact (hn.offered h.opened x hold).later (Nat.le_succ n)
      · exact ⟨n, i, effects, Nat.lt_succ_self n, h, rfl, hmem⟩
    · intro r hr hne heq
      have hsame := List.inj_on_of_nodup_map hn.nodup hr hrequested heq
      exact hne (congrArg Prod.fst hsame)
  avoids n drawn := by
    have hn := allocated cfg nonce l n
    have hlength : (connectionAt cfg nonce l n).assignmentNonces.length < 65536 := by
      have hlen := congrArg List.length hn.frames
      rw [List.length_map, List.length_map, ← hn.count] at hlen
      have := hn.bound
      omega
    obtain ⟨result, hresult⟩ := Option.ne_none_iff_exists'.mp (avoidNonces_ne_none hlength drawn)
    exact ⟨_, result, hresult, avoidNonces_some hresult⟩

end Connection

end BalboaRs485
