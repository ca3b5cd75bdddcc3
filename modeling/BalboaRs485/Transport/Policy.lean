import BalboaRs485.Transport.Channel

/-!
# Permission to write

Model of `transport/policy.py`. A `BusPolicy` collects the evidence of one socket
epoch; `allowsQuery` answers whether the batch just received is an opportunity
to write and, where it is, consumes it. `float("-inf")` is `none`.

* `BusPolicy.Latches`, `observe_latches`: evidence is never taken back.
* `BusPolicy.allowsQuery_supported`: an admission needs a supported mode.
* `BusPolicy.Admits`, `allowsQuery_admits`: what an admission says about the batch.
-/

namespace BalboaRs485

/-- `Mode` (lines 10–21). -/
inductive Mode where
  | auto
  | unknownReadOnly
  | bwaTcp
  | classicRs485
  | channelRs485
  | directRs485TcpLab
  | directRs485Tcp
deriving DecidableEq

/-- `Mode.direct`. -/
def Mode.direct (mode : Mode) : Bool := mode = .directRs485Tcp ∨ mode = .directRs485TcpLab

/-! ## Transports -/

/-- `DirectRs485TcpTransport` (lines 24–38). -/
structure DirectRs485TcpTransport where
  lastTx : Option ℚ := none
deriving DecidableEq

/-- `allows_query`: the transport after an admission, or `none` for a refusal. -/
def DirectRs485TcpTransport.allowsQuery (transport : DirectRs485TcpTransport) (frames : List Frame)
    (now : ℚ) (residual : ℕ) : Option DirectRs485TcpTransport :=
  if frames = [] ∨ residual ≠ 0 ∨ transport.lastTx.any (fun t => now - t < 1 / 10) then none
  else some { transport with lastTx := some now }

/-- `ClassicRs485Transport` (lines 41–67). -/
structure ClassicRs485Transport where
  consumedAt : Option ℚ := none
deriving DecidableEq

/-- `allows_query`: the transport after an admission, or `none` for a refusal. -/
def ClassicRs485Transport.allowsQuery (transport : ClassicRs485Transport) (frames : List Frame)
    (receivedAt now : ℚ) (residual : ℕ) (ctsWindow : ℚ) (address : UInt8) :
    Option ClassicRs485Transport :=
  if frames.getLast? ≠ some (.cts address) ∨ residual ≠ 0 ∨
      ¬ (0 ≤ now - receivedAt ∧ now - receivedAt ≤ ctsWindow) ∨
      transport.consumedAt.any (fun t => receivedAt ≤ t) then none
  else some { transport with consumedAt := some receivedAt }

/-! ## Policy -/

/-- `BusPolicy` (lines 86–96). -/
structure BusPolicy where
  requested : Mode
  statusSeen : Bool := false
  readyCount : ℕ := 0
  channelSeen : Bool := false
  directBlocked : Bool := false
  direct : DirectRs485TcpTransport := {}
  classic : ClassicRs485Transport := {}
  channel : ChannelSession
deriving DecidableEq

/-- The frames that block the direct modes: another control family, or another
    client at address 10 (lines 99–107). -/
def Frame.blocksDirect (frame : Frame) : Bool :=
  frame.alternateFamily ∨
    (frame.address = 10 ∧ frame.family = 191 ∧
      (frame.messageType = 3 ∨ frame.messageType = 5 ∨ frame.messageType = 7 ∨
        frame.messageType = 17 ∨ frame.messageType = 32 ∨ frame.messageType = 33 ∨
        frame.messageType = 34 ∨ frame.messageType = 39))

/-- The frames that are evidence of channels (lines 112–122). -/
def Frame.channelEvidence (frame : Frame) : Bool :=
  (frame.family = 0xBF ∧
    ((frame.messageType = 0 ∨ frame.messageType = 1 ∨ frame.messageType = 2 ∨
      frame.messageType = 3 ∨ frame.messageType = 5 ∨ frame.messageType = 7) ∨
      frame.messageType = 6 ∧ frame.address ≠ 16)) ∨
  (frame.family = 0xAF ∨ frame.family = 0xBF) ∧
    (frame.messageType = 0xC4 ∨ frame.messageType = 0xCA ∨ frame.messageType = 0xCC)

/-- The header of a status frame. -/
def Frame.statusHeader (frame : Frame) : Bool :=
  frame.address = 255 ∧ frame.family = 175 ∧ frame.messageType = 19

namespace BusPolicy

/-- `BusPolicy(requested)` with the random nonce it draws. -/
def make (requested : Mode) (nonce : Nonce) : BusPolicy where
  requested
  channel := { nonce }

/-- `observe` (lines 98–126). -/
def observe (p : BusPolicy) (frame : Frame) : BusPolicy where
  requested := p.requested
  statusSeen := p.statusSeen ∨ frame.statusHeader
  readyCount := if frame = .cts 16 then min 3 (p.readyCount + 1) else p.readyCount
  channelSeen := p.channelSeen ∨ frame.channelEvidence
  directBlocked := p.directBlocked ∨ p.requested.direct ∧ frame.blocksDirect
  direct := p.direct
  classic := p.classic
  channel := if p.requested = .channelRs485 then p.channel.observe frame else p.channel

/-- `candidate` (lines 128–134). -/
def candidate (p : BusPolicy) : Mode :=
  if p.channelSeen then .channelRs485
  else if p.statusSeen ∧ 3 ≤ p.readyCount then .classicRs485
  else .unknownReadOnly

/-- `mode` (lines 136–149). -/
def mode (p : BusPolicy) : Mode :=
  if p.requested.direct then
    if p.statusSeen ∧ ¬ p.directBlocked then p.requested else .unknownReadOnly
  else if p.requested = .channelRs485 then p.requested
  else if p.channelSeen then .unknownReadOnly
  else if p.statusSeen ∧ (p.requested = .classicRs485 ∨ p.requested = .bwaTcp) then p.requested
  else .unknownReadOnly

/-- `supported` (lines 151–157). -/
def supported (p : BusPolicy) : Bool :=
  p.mode.direct ∨ (p.mode = .bwaTcp ∨ p.mode = .classicRs485) ∨
    (p.mode = .channelRs485 ∧ p.channel.ready ∧ p.statusSeen)

/-- `address` (lines 159–161). -/
def address (p : BusPolicy) : UInt8 := p.channel.channel.getD 10

/-- `cts_address` (lines 163–165). -/
def ctsAddress (p : BusPolicy) : UInt8 := if p.requested = .channelRs485 then p.address else 16

/-- `allows_query` (lines 167–197): the policy after an admission, or `none` for a
    refusal. -/
def allowsQuery (p : BusPolicy) (frames : List Frame) (receivedAt now : ℚ) (residual : ℕ)
    (ctsWindow : ℚ) : Option BusPolicy :=
  if p.mode = .bwaTcp then some p
  else if p.mode.direct then
    (p.direct.allowsQuery frames now residual).map fun direct => { p with direct }
  else if p.mode = .channelRs485 then
    if p.supported then
      (p.classic.allowsQuery frames receivedAt now residual ctsWindow p.ctsAddress).map
        fun classic => { p with classic }
    else none
  else if p.mode = .classicRs485 then
    (p.classic.allowsQuery frames receivedAt now residual ctsWindow 16).map
      fun classic => { p with classic }
  else none

/-! ## Evidence -/

/-- What evidence can do to a policy: the latches only close, and neither the
    transports nor the channel address change. -/
structure Latches (p p' : BusPolicy) : Prop where
  requested : p'.requested = p.requested
  channelSeen : p.channelSeen = true → p'.channelSeen = true
  directBlocked : p.directBlocked = true → p'.directBlocked = true
  direct : p'.direct = p.direct
  classic : p'.classic = p.classic
  failed : p.channel.failure ≠ none → p'.channel.failure ≠ none
  channel : p'.channel.channel = p.channel.channel
  sound : p.channel.Sound → p'.channel.Sound

theorem Latches.refl (p : BusPolicy) : Latches p p := ⟨rfl, id, id, rfl, rfl, id, rfl, id⟩

theorem Latches.trans {p p' p'' : BusPolicy} (h : Latches p p') (h' : Latches p' p'') :
    Latches p p'' where
  requested := h'.requested.trans h.requested
  channelSeen hc := h'.channelSeen (h.channelSeen hc)
  directBlocked hd := h'.directBlocked (h.directBlocked hd)
  direct := h'.direct.trans h.direct
  classic := h'.classic.trans h.classic
  failed hf := h'.failed (h.failed hf)
  channel := h'.channel.trans h.channel
  sound hs := h'.sound (h.sound hs)

theorem Latches.address {p p' : BusPolicy} (h : Latches p p') : p'.address = p.address := by
  rw [BusPolicy.address, BusPolicy.address, h.channel]

theorem Latches.ctsAddress {p p' : BusPolicy} (h : Latches p p') : p'.ctsAddress = p.ctsAddress := by
  rw [BusPolicy.ctsAddress, BusPolicy.ctsAddress, h.requested, h.address]

theorem observe_channel (p : BusPolicy) (frame : Frame) : (p.observe frame).channel =
    if p.requested = .channelRs485 then p.channel.observe frame else p.channel := rfl

theorem observe_latches (p : BusPolicy) (frame : Frame) : Latches p (p.observe frame) where
  requested := rfl
  channelSeen h := by simp [observe, h]
  directBlocked h := by simp [observe, h]
  direct := rfl
  classic := rfl
  failed := by
    rw [observe_channel]
    split
    · exact (ChannelSession.observe_observes p.channel frame).failed
    · exact id
  channel := by
    rw [observe_channel]
    split
    · exact (ChannelSession.observe_observes p.channel frame).channel
    · rfl
  sound := by
    rw [observe_channel]
    split
    · exact fun h => h.observe frame
    · exact id

/-! ## Admission -/

/-- What an admission at `now` of a batch received at `receivedAt` says. -/
structure Admits (p : BusPolicy) (frames : List Frame) (receivedAt now : ℚ) (residual : ℕ)
    (ctsWindow : ℚ) : Prop where
  slot : p.requested = .classicRs485 ∨ p.requested = .channelRs485 →
    frames.getLast? = some (.cts p.ctsAddress) ∧ residual = 0 ∧
      0 ≤ now - receivedAt ∧ now - receivedAt ≤ ctsWindow ∧
      ∀ t, p.classic.consumedAt = some t → t < receivedAt
  pace : p.requested.direct = true → frames ≠ [] ∧ residual = 0 ∧
    ∀ t, p.direct.lastTx = some t → 1 / 10 ≤ now - t

/-- What is left of the policy: the opportunity is used up. -/
structure Consumed (p p' : BusPolicy) (receivedAt now : ℚ) : Prop where
  requested : p'.requested = p.requested
  statusSeen : p'.statusSeen = p.statusSeen
  channelSeen : p'.channelSeen = p.channelSeen
  directBlocked : p'.directBlocked = p.directBlocked
  channel : p'.channel = p.channel
  classic : p.requested = .classicRs485 ∨ p.requested = .channelRs485 →
    p'.classic.consumedAt = some receivedAt
  direct : p.requested.direct = true → p'.direct.lastTx = some now

theorem direct_allowsQuery_some {transport transport' : DirectRs485TcpTransport}
    {frames : List Frame} {now : ℚ} {residual : ℕ}
    (h : transport.allowsQuery frames now residual = some transport') :
    transport' = ⟨some now⟩ ∧ frames ≠ [] ∧ residual = 0 ∧
      ∀ t, transport.lastTx = some t → 1 / 10 ≤ now - t := by
  unfold DirectRs485TcpTransport.allowsQuery at h
  split at h
  · cases h
  · rename_i hc
    push Not at hc
    obtain ⟨hframes, hresidual, hpace⟩ := hc
    refine ⟨(Option.some.inj h).symm, hframes, hresidual, fun t ht => ?_⟩
    rw [ht] at hpace
    simpa using hpace

theorem classic_allowsQuery_some {transport transport' : ClassicRs485Transport}
    {frames : List Frame} {receivedAt now : ℚ} {residual : ℕ} {ctsWindow : ℚ} {address : UInt8}
    (h : transport.allowsQuery frames receivedAt now residual ctsWindow address = some transport') :
    transport' = ⟨some receivedAt⟩ ∧ frames.getLast? = some (.cts address) ∧ residual = 0 ∧
      0 ≤ now - receivedAt ∧ now - receivedAt ≤ ctsWindow ∧
      ∀ t, transport.consumedAt = some t → t < receivedAt := by
  unfold ClassicRs485Transport.allowsQuery at h
  split at h
  · cases h
  · rename_i hc
    push Not at hc
    obtain ⟨hlast, hresidual, hwindow, hconsumed⟩ := hc
    refine ⟨(Option.some.inj h).symm, hlast, hresidual, hwindow.1, hwindow.2, fun t ht => ?_⟩
    rw [ht] at hconsumed
    simpa using hconsumed

/-- The four kinds of mode and what each asks of the evidence. -/
theorem mode_cases (p : BusPolicy) :
    (p.mode = .bwaTcp ∧ p.requested = .bwaTcp ∧ p.statusSeen = true ∧ p.channelSeen = false) ∨
    (p.mode.direct = true ∧ p.mode = p.requested ∧ p.statusSeen = true ∧ p.directBlocked = false) ∨
    (p.mode = .channelRs485 ∧ p.requested = .channelRs485) ∨
    (p.mode = .classicRs485 ∧ p.requested = .classicRs485 ∧ p.statusSeen = true ∧
      p.channelSeen = false) ∨
    p.mode = .unknownReadOnly := by
  unfold mode
  split
  · rename_i hdirect
    split
    · rename_i h
      exact .inr (.inl ⟨hdirect, rfl, h.1, by simpa using h.2⟩)
    · exact .inr (.inr (.inr (.inr rfl)))
  · split
    · rename_i h
      exact .inr (.inr (.inl ⟨h, h⟩))
    · split
      · exact .inr (.inr (.inr (.inr rfl)))
      · rename_i hseen
        have hseen : p.channelSeen = false := by simpa using hseen
        split
        · rename_i h
          rcases h.2 with hr | hr
          · exact .inr (.inr (.inr (.inl ⟨hr, hr, h.1, hseen⟩)))
          · exact .inl ⟨hr, hr, h.1, hseen⟩
        · exact .inr (.inr (.inr (.inr rfl)))

/-- Writing needs a supported mode, whose evidence is that of `mode_cases`. -/
theorem supported_cases {p : BusPolicy} (h : p.supported = true) :
    p.statusSeen = true ∧
      ((p.requested = .bwaTcp ∧ p.channelSeen = false) ∨
        (p.requested.direct = true ∧ p.directBlocked = false) ∨
        (p.requested = .channelRs485 ∧ p.channel.ready = true) ∨
        (p.requested = .classicRs485 ∧ p.channelSeen = false)) := by
  unfold supported at h
  rcases p.mode_cases with ⟨hm, hr, hs, hc⟩ | ⟨hd, hm, hs, hb⟩ | ⟨hm, hr⟩ | ⟨hm, hr, hs, hc⟩ | hm
  · exact ⟨hs, .inl ⟨hr, hc⟩⟩
  · exact ⟨hs, .inr (.inl ⟨by rw [← hm, hd], hb⟩)⟩
  · simp only [hm, Mode.direct, reduceCtorEq, or_self, decide_false, Bool.false_eq_true, true_and,
      false_or, decide_eq_true_eq] at h
    exact ⟨h.2, .inr (.inr (.inl ⟨hr, h.1⟩))⟩
  · exact ⟨hs, .inr (.inr (.inr ⟨hr, hc⟩))⟩
  · simp [hm, Mode.direct] at h

/-- An admission needs a supported mode; it says what `Admits` says and leaves what
    `Consumed` says. -/
theorem allowsQuery_some {p p' : BusPolicy} {frames : List Frame} {receivedAt now : ℚ}
    {residual : ℕ} {ctsWindow : ℚ}
    (h : p.allowsQuery frames receivedAt now residual ctsWindow = some p') :
    p.supported = true ∧ Admits p frames receivedAt now residual ctsWindow ∧
      Consumed p p' receivedAt now := by
  unfold allowsQuery at h
  rcases p.mode_cases with ⟨hm, hr, -⟩ | ⟨hd, hm, -⟩ | ⟨hm, hr⟩ | ⟨hm, hr, -⟩ | hm
  · rw [if_pos hm] at h
    cases h
    refine ⟨by simp [supported, hm], ⟨?_, ?_⟩, rfl, rfl, rfl, rfl, rfl, ?_, ?_⟩ <;>
      simp [hr, Mode.direct]
  · have hb : p.mode ≠ .bwaTcp := by
      intro hb
      rw [hb] at hd
      exact absurd hd (by decide)
    rw [if_neg hb, if_pos hd] at h
    obtain ⟨direct, hdirect, rfl⟩ := Option.map_eq_some_iff.mp h
    obtain ⟨rfl, hpace⟩ := direct_allowsQuery_some hdirect
    have hslot : ¬ (p.requested = .classicRs485 ∨ p.requested = .channelRs485) := by
      rw [← hm]
      rintro (hc | hc) <;> · rw [hc] at hd; exact absurd hd (by decide)
    exact ⟨by simp [supported, hd], ⟨fun hc => absurd hc hslot, fun _ => hpace⟩, rfl, rfl, rfl, rfl,
      rfl, fun hc => absurd hc hslot, fun _ => rfl⟩
  · rw [if_neg (by simp [hm]), if_neg (by simp [hm, Mode.direct]), if_pos hm] at h
    split at h
    · rename_i hsupp
      obtain ⟨classic, hclassic, rfl⟩ := Option.map_eq_some_iff.mp h
      obtain ⟨rfl, hslot⟩ := classic_allowsQuery_some hclassic
      exact ⟨hsupp, ⟨fun _ => hslot, fun hd => by simp [hr, Mode.direct] at hd⟩, rfl, rfl, rfl, rfl,
        rfl, fun _ => rfl, fun hd => by simp [hr, Mode.direct] at hd⟩
    · cases h
  · rw [if_neg (by simp [hm]), if_neg (by simp [hm, Mode.direct]), if_neg (by simp [hm]),
      if_pos hm] at h
    obtain ⟨classic, hclassic, rfl⟩ := Option.map_eq_some_iff.mp h
    obtain ⟨rfl, hslot⟩ := classic_allowsQuery_some hclassic
    have hcts : p.ctsAddress = 16 := by simp [ctsAddress, hr]
    refine ⟨by simp [supported, hm], ⟨fun _ => by rwa [hcts], fun hd => ?_⟩, rfl, rfl, rfl, rfl, rfl,
      fun _ => rfl, fun hd => ?_⟩ <;> simp [hr, Mode.direct] at hd
  · rw [if_neg (by simp [hm]), if_neg (by simp [hm, Mode.direct]), if_neg (by simp [hm]),
      if_neg (by simp [hm])] at h
    cases h

end BusPolicy

end BalboaRs485
