import BalboaRs485.Transport.Stages
import Mathlib.Tactic.Linarith

/-!
# Slot discipline

The four places that write are guarded differently: channel management by the
request mode and a fresh batch, the configuration query by an uncommitted
synchronization, the participant by READY, the idle reply by an unused CTS. This
module follows one iteration through its stages and shows that they exclude each
other.

* `Outcome`, `iteration_writes`: what an iteration does to the policy, and what a
  frame it writes says about its batch.
* `epoch_invariant`: from iterations to the rest of a socket epoch.
* `slot_discipline`: at most one frame per iteration, each in its slot.
-/

namespace BalboaRs485

namespace Connection

open Proc

variable {cfg : ConnectionConfig} {i : Iteration} {c d : Connection} {out : List Effect}

@[simp] theorem writes_nil : writes [] = [] := rfl

@[simp] theorem writes_append (a b : List Effect) : writes (a ++ b) = writes a ++ writes b :=
  List.filterMap_append

@[simp] theorem writes_write (w : Write) : writes [.write w] = [w] := rfl

@[simp] theorem writes_beginSync : writes [.beginSync] = [] := rfl

theorem writes_start {p : Prop} [Decidable p] :
    writes (out ++ if p then [.beginSync] else []) = writes out := by
  split <;> simp

/-! ## One iteration -/

/-- Not a byte follows the last frame of the batch, `batch_fresh`. -/
def BatchFresh (c : Connection) (i : Iteration) : Prop :=
  (c.received i).batchFresh (c.batch i) = true

/-- What the stages after `receive` keep of the start of the iteration, and the
    evidence they have seen. -/
structure Underway (c : Connection) (i : Iteration) (d : Connection) : Prop where
  phase : d.phase = c.phase
  epoch : d.epoch = c.epoch
  parser : d.parser = (c.received i).parser
  wireTail : d.wireTail = (c.received i).wireTail
  requested : d.policy.requested = c.policy.requested
  channelSeen : c.policy.channelSeen = true → d.policy.channelSeen = true
  directBlocked : c.policy.directBlocked = true → d.policy.directBlocked = true
  failed : c.policy.channel.failure ≠ none → d.policy.channel.failure ≠ none
  sound : c.policy.channel.Sound → d.policy.channel.Sound
  evidence : c.policy.requested ≠ .channelRs485 → ∀ frame ∈ c.batch i,
    (frame.channelEvidence = true → d.policy.channelSeen = true) ∧
      (c.policy.requested.direct = true → frame.blocksDirect = true → d.policy.directBlocked = true)

/-- Nothing has been written and no opportunity has been used. -/
structure Silent (c d : Connection) (out : List Effect) : Prop where
  writes : writes out = []
  direct : d.policy.direct = c.policy.direct
  classic : d.policy.classic = c.policy.classic

/-- What a written frame says about the batch of its iteration, whose final policy
    is `p`. -/
structure Written (cfg : ConnectionConfig) (i : Iteration) (c : Connection) (p : BusPolicy)
    (w : Write) : Prop where
  management : w.site = .management → p.requested = .channelRs485 ∧ p.channel.failure = none ∧
    p.classic = c.policy.classic
  supported : w.site ≠ .management → p.supported = true
  slot : w.site ≠ .management → p.requested = .classicRs485 ∨ p.requested = .channelRs485 →
    BatchFresh c i ∧ (c.batch i).getLast? = some (.cts p.ctsAddress) ∧
      0 ≤ w.admittedAt - i.now ∧ w.admittedAt - i.now ≤ cfg.timing.ctsWindow ∧
      (∀ t, c.policy.classic.consumedAt = some t → t < i.now) ∧
      p.classic.consumedAt = some i.now
  pace : p.requested.direct = true → BatchFresh c i ∧ c.batch i ≠ [] ∧
    (∀ t, c.policy.direct.lastTx = some t → 1 / 10 ≤ w.admittedAt - t) ∧
    p.direct.lastTx = some w.admittedAt

/-- What an iteration has done: it is silent, or it has written one frame. -/
structure Outcome (cfg : ConnectionConfig) (i : Iteration) (c d : Connection) (out : List Effect) :
    Prop extends Underway c i d where
  written : Silent c d out ∨ ∃ w, writes out = [w] ∧ Written cfg i c d.policy w

theorem Underway.keeps {e : Connection} (h : Underway c i d) (hs : Stays d e) : Underway c i e where
  phase := hs.phase.trans h.phase
  epoch := hs.epoch.trans h.epoch
  parser := hs.parser.trans h.parser
  wireTail := hs.wireTail.trans h.wireTail
  requested := by rw [hs.policy, h.requested]
  channelSeen := by rw [hs.policy]; exact h.channelSeen
  directBlocked := by rw [hs.policy]; exact h.directBlocked
  failed := by rw [hs.policy]; exact h.failed
  sound := by rw [hs.policy]; exact h.sound
  evidence := by rw [hs.policy]; exact h.evidence

theorem Underway.consumed {p : BusPolicy} {now : ℚ} (h : Underway c i d)
    (hp : BusPolicy.Consumed d.policy p i.now now) : Underway c i { d with policy := p } where
  phase := h.phase
  epoch := h.epoch
  parser := h.parser
  wireTail := h.wireTail
  requested := hp.requested.trans h.requested
  channelSeen hc := hp.channelSeen.trans (h.channelSeen hc)
  directBlocked hd := hp.directBlocked.trans (h.directBlocked hd)
  failed hf := by
    show p.channel.failure ≠ none
    rw [hp.channel]
    exact h.failed hf
  sound hs := by
    show p.channel.Sound
    rw [hp.channel]
    exact h.sound hs
  evidence hr frame hmem := by
    obtain ⟨h1, h2⟩ := h.evidence hr frame hmem
    exact ⟨fun he => hp.channelSeen.trans (h1 he), fun hd he => hp.directBlocked.trans (h2 hd he)⟩

theorem Silent.stays {e : Connection} (h : Silent c d out) (hs : Stays d e) : Silent c e out :=
  ⟨h.writes, by rw [hs.policy, h.direct], by rw [hs.policy, h.classic]⟩

theorem Underway.fresh (h : Underway c i d) : d.batchFresh (c.batch i) = true ↔ BatchFresh c i := by
  have heq : d.batchFresh (c.batch i) = (c.received i).batchFresh (c.batch i) := by
    unfold batchFresh
    rw [h.parser, h.wireTail]
  rw [heq, BatchFresh]

/-- The batch is in the parser and the policy. -/
theorem underway_received (cfg : ConnectionConfig) (c : Connection) (i : Iteration) :
    Underway c i (observeFrames cfg i.now (c.batch i)
      ((c.received i).withoutOldQuery cfg i.now)) := by
  have hr := received_keeps c i
  have hq := withoutOldQuery_stays cfg (c.received i) i.now
  have hk := hr.trans hq.toKeeps
  have hh := observeFrames_hears cfg i.now (c.batch i) ((c.received i).withoutOldQuery cfg i.now)
  have hl := hh.latches
  refine ⟨hh.phase.trans hk.phase, hh.epoch.trans hk.epoch, hh.parser.trans hq.parser,
    hh.wireTail.trans hq.wireTail, ?_, ?_, ?_, ?_, ?_, ?_⟩
  · rw [hl.requested, hk.policy]
  · intro hc
    exact hl.channelSeen (by rwa [hk.policy])
  · intro hd
    exact hl.directBlocked (by rwa [hk.policy])
  · intro hf
    exact hl.failed (by rwa [hk.policy])
  · intro hs
    exact hl.sound (by rwa [hk.policy])
  · intro hne frame hmem
    rw [observeFrames, veto_policy, ← hk.policy]
    exact absorbAll_evidence (by rwa [hk.policy]) hmem

/-- Channel management only fails the session, or writes one frame. -/
theorem Underway.managed {sent : Bool} {out' : List Effect} {e : Connection} (h : Underway c i d)
    (hs : Silent c d out) (hmode : c.policy.requested = cfg.requestedMode)
    (hm : Managed cfg d e sent out out') :
    Underway c i e ∧ (sent = false → Silent c e out') ∧
      (sent = true → ∃ w, writes out' = [w] ∧ Written cfg i c e.policy w) := by
  obtain ⟨channel, requests, nonces, rfl⟩ := hm.shape
  refine ⟨⟨h.phase, h.epoch, h.parser, h.wireTail, h.requested, h.channelSeen, h.directBlocked,
    fun hf => hm.failed (h.failed hf), fun hs => hm.sound (h.sound hs), h.evidence⟩, ?_, ?_⟩
  · intro hsent
    exact ⟨by rw [(hm.unsent hsent).2, hs.writes], hs.direct, hs.classic⟩
  · intro hsent
    obtain ⟨hmode', hf, w, hsite, rfl⟩ := hm.written hsent
    have hreq : d.policy.requested = .channelRs485 := by rw [h.requested, hmode, hmode']
    refine ⟨w, by simp [hs.writes], fun _ => ⟨hreq, hf, hs.classic⟩, fun hne => absurd hsite hne,
      fun hne => absurd hsite hne, fun hd => ?_⟩
    have hd : d.policy.requested.direct = true := hd
    rw [hreq] at hd
    exact absurd hd (by decide)

/-- A transmission that is admitted in silence writes the one frame of the iteration. -/
theorem Underway.transmitted {site : Site} {frame : Connection → Frame}
    {update : Connection → Connection} {e : Connection} {out' : List Effect} (h : Underway c i d)
    (hs : Silent c d out) (hsite : site ≠ .management)
    (hupdate : ∀ c, Stays c (update c))
    (ht : Transmitted cfg i (c.batch i) site frame update d e out out') :
    Underway c i e ∧ (∃ w, writes out' = [w] ∧ Written cfg i c e.policy w) ∧
      (e.policy.requested = .classicRs485 ∨ e.policy.requested = .channelRs485 →
        e.policy.classic.consumedAt = some i.now) := by
  obtain ⟨p, hadm, rfl⟩ := ht.admitted
  obtain rfl := ht.written
  obtain ⟨hsupp, hadmits, hconsumed⟩ := BusPolicy.allowsQuery_some hadm
  have hstay := hupdate { d with policy := p }
  have hpolicy : (update { d with policy := p }).policy = p := hstay.policy
  -- a residual of zero is a fresh batch
  have hfresh : (if d.batchFresh (c.batch i) then (0 : ℕ) else 1) = 0 → BatchFresh c i := by
    intro hz
    rw [← h.fresh]
    by_contra hne
    rw [if_neg hne] at hz
    cases hz
  have hclassic : p.requested = .classicRs485 ∨ p.requested = .channelRs485 →
      p.classic.consumedAt = some i.now := by
    intro hr
    rw [hconsumed.requested] at hr
    exact hconsumed.classic hr
  have hwrites : writes (out ++ [.write ⟨site, frame (update { d with policy := p }), i.clock site⟩]) =
      [⟨site, frame (update { d with policy := p }), i.clock site⟩] := by
    simp [hs.writes]
  refine ⟨(h.consumed hconsumed).keeps hstay, ⟨_, hwrites, ?_⟩, by rwa [hpolicy]⟩
  rw [hpolicy]
  refine ⟨fun hm => absurd hm hsite, fun _ => ?_, fun _ hr => ?_, fun hd => ?_⟩
  · unfold BusPolicy.supported BusPolicy.mode at hsupp ⊢
    rw [hconsumed.requested, hconsumed.statusSeen, hconsumed.channelSeen, hconsumed.directBlocked,
      hconsumed.channel]
    exact hsupp
  · have hr' := hr
    rw [hconsumed.requested] at hr'
    obtain ⟨hlast, hresidual, hlow, hhigh, hold⟩ := hadmits.slot hr'
    refine ⟨hfresh hresidual, ?_, hlow, hhigh, ?_, hclassic hr⟩
    · rw [hlast, BusPolicy.ctsAddress, BusPolicy.ctsAddress, BusPolicy.address, BusPolicy.address,
        hconsumed.requested, hconsumed.channel]
    · intro t hc
      exact hold t (by rw [hs.classic, hc])
  · rw [hconsumed.requested] at hd
    obtain ⟨hframes, hresidual, hpace⟩ := hadmits.pace hd
    refine ⟨hfresh hresidual, hframes, ?_, hconsumed.direct hd⟩
    intro t ht
    exact hpace t (by rw [hs.direct, ht])

/-- What is known between two places that write: nothing has been written, or the
    guard of every later place is closed. `late` is the guard of the participant. -/
def Progress (cfg : ConnectionConfig) (i : Iteration) (c d : Connection) (out : List Effect)
    (sent late : Bool) : Prop :=
  Underway c i d ∧
    ((sent = false ∧ Silent c d out) ∨
      (∃ w, writes out = [w] ∧ Written cfg i c d.policy w) ∧
        (sent = true ∨ (late = true → d.state ≠ .ready) ∧
          (d.policy.requested = .channelRs485 → d.policy.classic.consumedAt = some i.now)))

theorem Progress.outcome {sent late : Bool} (h : Progress cfg i c d out sent late) :
    Outcome cfg i c d out :=
  ⟨h.1, h.2.imp (fun hs => hs.2) fun hw => hw.1⟩

/-- The query excludes the participant: it needs an uncommitted synchronization,
    and READY a committed one. -/
theorem query_spec {degraded sent : Bool} (h : Underway c i d)
    (hsent : sent = true → ∃ w, writes out = [w] ∧ Written cfg i c d.policy w)
    (hsilent : sent = false → Silent c d out)
    (hready : degraded = false → d.syncCommitted = false → d.state ≠ .ready) :
    wp (query cfg i (c.batch i) degraded sent)
      (fun _ e out' => Progress cfg i c e out' sent true)
      (fun _ e out' => Outcome cfg i c e out') d out := by
  unfold query
  rw [wp_bind, wp_get]
  refine wp_when (fun hguard => ?_) (fun _ => ?_)
  · obtain ⟨hdegraded, hs, hcommitted, -⟩ := hguard
    have hupdate : ∀ c : Connection, Stays c { c with
        pending := some c.nextQuery, pendingSince := i.now, attempts := c.attempts + 1 } :=
      fun _ => ⟨⟨rfl, rfl, rfl, rfl, rfl⟩, rfl, rfl⟩
    refine wp_mono transmit_spec ?_ ?_
    · rintro _ e out' (⟨-, rfl, rfl⟩ | ht)
      · exact ⟨h, .inl ⟨hs, hsilent hs⟩⟩
      · obtain ⟨hu, hw, hconsumed⟩ := h.transmitted (hsilent hs) (by decide) hupdate ht
        obtain ⟨p, -, rfl⟩ := ht.admitted
        exact ⟨hu, .inr ⟨hw, .inr ⟨fun _ => hready hdegraded hcommitted,
          fun hr => hconsumed (.inr hr)⟩⟩⟩
    · intro _ e out' ht
      obtain ⟨hu, hw, -⟩ := h.transmitted (hsilent hs) (by decide) hupdate ht
      exact ⟨hu, .inr hw⟩
  · cases sent with
    | false => exact ⟨h, .inl ⟨rfl, hsilent rfl⟩⟩
    | true => exact ⟨h, .inr ⟨hsent rfl, .inl rfl⟩⟩

theorem progress_spec {degraded sent : Bool} (h : Underway c i d)
    (hsent : sent = true → ∃ w, writes out = [w] ∧ Written cfg i c d.policy w)
    (hsilent : sent = false → Silent c d out) :
    wp (progress cfg i (c.batch i) degraded sent)
      (fun _ e out' => Progress cfg i c e out' sent true)
      (fun _ e out' => Outcome cfg i c e out') d out := by
  unfold progress
  rw [wp_bind, wp_get]
  refine wp_ite (fun _ => ?_) (fun _ => ?_)
  · rw [wp_bind]
    refine wp_mono synchronize_spec ?_ ?_
    · rintro _ e out' ⟨rfl, rfl⟩
      have hstay := entered_stays cfg i d degraded
      refine query_spec (h.keeps hstay) ?_ ?_ ?_
      · intro hs
        rw [writes_start, hstay.policy]
        exact hsent hs
      · intro hs
        have hq := (hsilent hs).stays hstay
        exact ⟨writes_start.trans hq.writes, hq.direct, hq.classic⟩
      · exact enter_not_ready
    · rintro _ e out' ⟨hstay, rfl⟩
      refine ⟨h.keeps hstay, ?_⟩
      cases sent with
      | false =>
        have hq := (hsilent rfl).stays hstay
        exact .inl ⟨writes_start.trans hq.writes, hq.direct, hq.classic⟩
      | true =>
        rw [writes_start, hstay.policy]
        exact .inr (hsent rfl)
  · rw [wp_modify]
    have hstay := detect_stays d degraded
    refine ⟨h.keeps hstay, ?_⟩
    cases sent with
    | false => exact .inl ⟨rfl, (hsilent rfl).stays hstay⟩
    | true =>
      rw [hstay.policy]
      exact .inr ⟨hsent rfl, .inl rfl⟩

/-- The participant writes in silence only, and uses up the CTS. -/
theorem participate_spec {sent : Bool} (h : Progress cfg i c d out sent true) :
    wp (participate cfg i (c.batch i) sent)
      (fun _ e out' => Progress cfg i c e out' sent false)
      (fun _ e out' => Outcome cfg i c e out') d out := by
  have hskip : Progress cfg i c d out sent false :=
    ⟨h.1, h.2.imp_right fun hw =>
      ⟨hw.1, hw.2.imp_right fun hc => ⟨fun hl => absurd hl (by decide), hc.2⟩⟩⟩
  unfold participate
  refine wp_when (fun _ => wp_ite (fun _ => ?_) (fun _ => ?_)) (fun _ => hskip)
  · exact (wp_raise _).mpr h.outcome
  · unfold offer
    rw [wp_bind, wp_get]
    cases i.outbound with
    | none => exact (wp_pure _).mpr hskip
    | some outbound =>
      refine wp_when (fun hguard => ?_) (fun _ => hskip)
      obtain ⟨hready, hs⟩ := hguard
      obtain ⟨hu, ⟨-, hsilent⟩ | ⟨-, hclosed⟩⟩ := h
      · refine wp_mono transmit_spec ?_ ?_
        · rintro _ e out' (⟨-, rfl, rfl⟩ | ht)
          · exact hskip
          · obtain ⟨hu', hw, hconsumed⟩ := hu.transmitted hsilent (by decide) (fun c => .refl c) ht
            exact ⟨hu', .inr ⟨hw, .inr ⟨fun hl => absurd hl (by decide),
              fun hr => hconsumed (.inr hr)⟩⟩⟩
        · intro _ e out' ht
          obtain ⟨hu', hw, -⟩ := hu.transmitted hsilent (by decide) (fun c => .refl c) ht
          exact ⟨hu', .inr hw⟩
      · rcases hclosed with ht | ⟨hstate, -⟩
        · rw [hs] at ht
          cases ht
        · exact absurd hready (hstate rfl)

/-- The idle reply needs a CTS that nothing has used. -/
theorem idle_spec {sent : Bool} (hmode : c.policy.requested = cfg.requestedMode)
    (h : Progress cfg i c d out sent false) :
    wp (idle cfg i (c.batch i) sent) (fun _ e out' => Outcome cfg i c e out')
      (fun _ e out' => Outcome cfg i c e out') d out := by
  unfold idle
  rw [wp_bind, wp_get]
  cases d.policy.channel.idleReply (c.batch i) with
  | none => exact (wp_pure _).mpr h.outcome
  | some reply =>
    refine wp_when (fun hguard => ?_) (fun _ => h.outcome)
    obtain ⟨hchannel, hs⟩ := hguard
    have houtcome := h.outcome
    obtain ⟨hu, ⟨-, hsilent⟩ | ⟨-, hclosed⟩⟩ := h
    · have hdone : ∀ e out', Transmitted cfg i (c.batch i) .idle (fun _ => reply) id d e out out' →
          Outcome cfg i c e out' := by
        intro e out' ht
        obtain ⟨hu', hw, -⟩ := hu.transmitted hsilent (by decide) (fun c => .refl c) ht
        exact ⟨hu', .inr hw⟩
      refine wp_mono transmit_spec ?_ fun _ e out' ht => hdone e out' ht
      rintro _ e out' (⟨-, rfl, rfl⟩ | ht)
      · exact houtcome
      · exact hdone e out' ht
    · have hreq : d.policy.requested = .channelRs485 := by rw [hu.requested, hmode, hchannel]
      have hused : d.policy.classic.consumedAt = some i.now := by
        rcases hclosed with ht | ⟨-, hc⟩
        · rw [hs] at ht
          cases ht
        · exact hc hreq
      -- a batch is not received before itself
      have hrefuse : ∀ e out',
          ¬ Transmitted cfg i (c.batch i) .idle (fun _ => reply) id d e out out' := by
        intro e out' ht
        obtain ⟨p, hadm, -⟩ := ht.admitted
        obtain ⟨-, hadmits, -⟩ := BusPolicy.allowsQuery_some hadm
        exact lt_irrefl _ ((hadmits.slot (.inr hreq)).2.2.2.2 i.now hused)
      refine wp_mono transmit_spec ?_ fun _ e out' ht => absurd ht (hrefuse e out')
      rintro _ e out' (⟨-, rfl, rfl⟩ | ht)
      · exact houtcome
      · exact absurd ht (hrefuse e out')

/-- **One iteration.** It writes at most one frame, in its slot; where it ends with an
    exception of `receive` it has done nothing to the policy. -/
theorem iteration_writes (hmode : c.policy.requested = cfg.requestedMode) :
    wp (iteration cfg i) (fun _ d out => Outcome cfg i c d out)
      (fun _ d out => Outcome cfg i c d out ∨ Keeps c d ∧ writes out = []) c [] := by
  unfold iteration
  rw [wp_bind]
  refine wp_mono receive_spec ?_ fun _ _ _ h => .inr ⟨h.1, by rw [h.2, writes_nil]⟩
  rintro _ _ _ ⟨rfl, rfl, rfl⟩
  rw [wp_bind, wp_modify, wp_bind]
  have hu := underway_received cfg c i
  have hs : Silent c (observeFrames cfg i.now (c.batch i)
      ((c.received i).withoutOldQuery cfg i.now)) [] := by
    have hk := (received_keeps c i).trans (withoutOldQuery_stays cfg (c.received i) i.now).toKeeps
    have hl := (observeFrames_hears cfg i.now (c.batch i)
      ((c.received i).withoutOldQuery cfg i.now)).latches
    exact ⟨rfl, by rw [hl.direct, hk.policy], by rw [hl.classic, hk.policy]⟩
  refine wp_mono manage_spec ?_ ?_
  · intro sent d out hm
    obtain ⟨hu, hsilent, hsent⟩ := hu.managed hs hmode hm
    rw [wp_bind, awaitTraffic, wp_bind, wp_get]
    refine wp_ite (fun _ => ?_) (fun _ => ?_)
    · refine (wp_raise _).mpr (.inl ⟨hu, ?_⟩)
      cases sent with
      | false => exact .inl (hsilent rfl)
      | true => exact .inr (hsent rfl)
    · rw [wp_pure, wp_bind]
      refine wp_mono (progress_spec hu hsent hsilent) ?_ fun _ _ _ h => .inl h
      intro _ d out hp
      rw [wp_bind]
      refine wp_mono (participate_spec hp) ?_ fun _ _ _ h => .inl h
      intro _ d out hp
      exact wp_mono (idle_spec hmode hp) (fun _ _ _ h => h) fun _ _ _ h => .inl h
  · rintro _ d out ⟨sent, hm⟩
    obtain ⟨hu, hsilent, hsent⟩ := hu.managed hs hmode hm
    refine .inl ⟨hu, ?_⟩
    cases sent with
    | false => exact .inl (hsilent rfl)
    | true => exact .inr (hsent rfl)

/-! ## Runs -/

/-- An iteration of an open connection: it raises in `receive` without a trace, or has
    an `Outcome`, whose policy outlives an exception. -/
theorem iterate_cases (hmode : c.policy.requested = cfg.requestedMode) :
    (iterate cfg i c).1.epoch = c.epoch ∧
      ((writes (iterate cfg i c).2 = [] ∧ (iterate cfg i c).1.phase ≠ .opened ∧
          (iterate cfg i c).1.policy = c.policy) ∨
        ∃ d, Outcome cfg i c d (iterate cfg i c).2 ∧ (iterate cfg i c).1.policy = d.policy ∧
          ((iterate cfg i c).1.phase = .opened → (iterate cfg i c).1 = d)) := by
  have hrun := wp_run (iteration_writes (i := i) hmode)
  have hphase : ∀ e : ConnectionError, ConnectionError.phase e ≠ .opened := by
    intro e
    cases e <;> decide
  unfold iterate
  rcases hr : iteration cfg i c with ⟨d, effects, e | a⟩ <;> rw [hr] at hrun
  · rcases hrun with houtcome | ⟨hkeeps, hwrites⟩
    · exact ⟨houtcome.epoch, .inr ⟨d, houtcome, rfl, fun h => absurd h (hphase e)⟩⟩
    · exact ⟨hkeeps.epoch, .inl ⟨hwrites, hphase e, hkeeps.policy⟩⟩
  · exact ⟨hrun.epoch, .inr ⟨d, hrun, rfl, fun _ => rfl⟩⟩

/-- The connection after the first `n` operations. -/
def connectionAt (cfg : ConnectionConfig) (nonce : Nonce) (l : List Op) (n : ℕ) : Connection :=
  (connectionMachine cfg nonce).stateAt l n

/-- Operation `n` is an iteration of an open connection that reads `i` and leaves
    `effects`. -/
structure Iterates (cfg : ConnectionConfig) (nonce : Nonce) (l : List Op) (n : ℕ) (i : Iteration)
    (effects : List Effect) : Prop where
  op : l[n]? = some (.iterate i)
  opened : (connectionAt cfg nonce l n).phase = .opened
  effects : (iterate cfg i (connectionAt cfg nonce l n)).2 = effects

variable {nonce : Nonce} {l : List Op} {n : ℕ}

theorem connectionAt_succ (cfg : ConnectionConfig) (nonce : Nonce) {op : Op} (h : l[n]? = some op) :
    connectionAt cfg nonce l (n + 1) = (step cfg (connectionAt cfg nonce l n) op).1 :=
  (connectionMachine cfg nonce).stateAt_succ h

theorem connectionAt_succ_none (h : l[n]? = none) : connectionAt cfg nonce l (n + 1) =
    connectionAt cfg nonce l n :=
  (connectionMachine cfg nonce).stateAt_succ_none h

theorem Iterates.next {effects : List Effect} (h : Iterates cfg nonce l n i effects) :
    connectionAt cfg nonce l (n + 1) = (iterate cfg i (connectionAt cfg nonce l n)).1 := by
  rw [connectionAt_succ cfg nonce h.op, step, if_pos h.opened]

/-- Only iterations of an open connection write. -/
theorem iterates_of_write {effects : List Effect} {w : Write}
    (hout : (connectionMachine cfg nonce).outAt l n = some effects) (hw : w ∈ writes effects) :
    ∃ i, Iterates cfg nonce l n i effects := by
  obtain ⟨op, hop, hstep⟩ := (connectionMachine cfg nonce).outAt_eq_some.mp hout
  have hstep : (step cfg (connectionAt cfg nonce l n) op).2 = effects := hstep
  subst hstep
  cases op with
  | connect nonce' opening =>
    simp only [step] at hw
    split at hw <;> cases hw
  | iterate i =>
    simp only [step] at hw ⊢
    split at hw
    · rename_i hopen
      rw [if_pos hopen]
      exact ⟨i, hop, hopen, rfl⟩
    · cases hw

/-- The requested mode is that of the connection. -/
theorem requested_eq (cfg : ConnectionConfig) (nonce : Nonce) (l : List Op) (n : ℕ) :
    (connectionAt cfg nonce l n).policy.requested = cfg.requestedMode := by
  refine (connectionMachine cfg nonce).stateAt_invariant
    (P := fun c => c.policy.requested = cfg.requestedMode) rfl ?_ l n
  intro c op h
  show (step cfg c op).1.policy.requested = cfg.requestedMode
  cases op with
  | connect nonce' opening =>
    simp only [step]
    split
    · unfold connect
      split
      · exact h
      · cases opening <;> rfl
    · exact h
  | iterate i =>
    simp only [step]
    split
    · obtain ⟨-, ⟨-, -, hp⟩ | ⟨d, houtcome, hp, -⟩⟩ := iterate_cases (i := i) h
      · rw [hp, h]
      · rw [hp, houtcome.requested, h]
    · exact h

/-- Opening a socket starts a new epoch; nothing else does. -/
theorem step_epoch (hmode : c.policy.requested = cfg.requestedMode) (op : Op) :
    c.epoch ≤ (step cfg c op).1.epoch ∧
      ((step cfg c op).1.epoch = c.epoch → (step cfg c op).1.phase = .opened →
        (step cfg c op).1 = c ∨ ∃ i, op = .iterate i ∧ c.phase = .opened) := by
  cases op with
  | connect nonce' opening =>
    simp only [step]
    split
    · unfold connect
      split
      · exact ⟨le_refl _, fun _ _ => .inl rfl⟩
      · cases opening with
        | opened now => exact ⟨Nat.le_succ _, fun h => absurd h (Nat.succ_ne_self _)⟩
        | failed => exact ⟨le_refl _, fun _ h => absurd h (by simp [teardown])⟩
        | cancelled => exact ⟨le_refl _, fun _ h => absurd h (by simp [teardown])⟩
    · exact ⟨le_refl _, fun _ _ => .inl rfl⟩
  | iterate i =>
    simp only [step]
    split
    · rename_i hopen
      have hepoch := (iterate_cases (i := i) hmode).1
      exact ⟨hepoch.ge, fun _ _ => .inr ⟨i, rfl, hopen⟩⟩
    · exact ⟨le_refl _, fun _ _ => .inl rfl⟩

/-- What holds of an open connection and is kept by every iteration that leaves it open
    holds for the rest of the epoch. -/
theorem epoch_invariant {R : Connection → Prop} {j : ℕ}
    (h0 : (connectionAt cfg nonce l j).phase = .opened → R (connectionAt cfg nonce l j))
    (hstep : ∀ n i, l[n]? = some (.iterate i) → (connectionAt cfg nonce l n).phase = .opened →
      R (connectionAt cfg nonce l n) → (connectionAt cfg nonce l (n + 1)).phase = .opened →
      R (connectionAt cfg nonce l (n + 1))) {k : ℕ} (hjk : j ≤ k)
    (hepoch : (connectionAt cfg nonce l k).epoch = (connectionAt cfg nonce l j).epoch)
    (hopen : (connectionAt cfg nonce l k).phase = .opened) : R (connectionAt cfg nonce l k) := by
  suffices h : (connectionAt cfg nonce l j).epoch ≤ (connectionAt cfg nonce l k).epoch ∧
      ((connectionAt cfg nonce l k).epoch = (connectionAt cfg nonce l j).epoch →
        (connectionAt cfg nonce l k).phase = .opened → R (connectionAt cfg nonce l k)) from
    h.2 hepoch hopen
  clear hepoch hopen
  induction hjk with
  | refl => exact ⟨le_refl _, fun _ => h0⟩
  | @step n _ ih =>
    obtain ⟨hle, ih⟩ := ih
    cases hop : l[n]? with
    | none =>
      rw [connectionAt_succ_none hop]
      exact ⟨hle, ih⟩
    | some op =>
      have hnext := connectionAt_succ cfg nonce hop
      obtain ⟨hle', hcases⟩ := step_epoch (requested_eq cfg nonce l n) op
      rw [← hnext] at hle' hcases
      refine ⟨hle.trans hle', fun (hepoch : (connectionAt cfg nonce l (n + 1)).epoch = _) hopen => ?_⟩
      have hsame : (connectionAt cfg nonce l (n + 1)).epoch = (connectionAt cfg nonce l n).epoch := by
        omega
      rcases hcases hsame hopen with hstay | ⟨i, rfl, hopen'⟩
      · rw [hstay] at hopen ⊢
        exact ih (hsame.symm.trans hepoch) hopen
      · exact hstep n i hop hopen' (ih (hsame.symm.trans hepoch) hopen') hopen

/-! ## Discipline -/

/-- Slot discipline of a run. -/
structure SlotDiscipline (cfg : ConnectionConfig) (nonce : Nonce) (l : List Op) : Prop where
  /-- Each iteration writes at most one frame. -/
  one : ∀ n effects, (connectionMachine cfg nonce).outAt l n = some effects →
    (writes effects).length ≤ 1
  /-- On a shared bus a frame other than channel management answers a fresh batch that
      ends in the CTS, within its window. -/
  slot : cfg.requestedMode = .classicRs485 ∨ cfg.requestedMode = .channelRs485 →
    ∀ n i effects w, Iterates cfg nonce l n i effects → w ∈ writes effects → w.site ≠ .management →
      BatchFresh (connectionAt cfg nonce l n) i ∧
        ((connectionAt cfg nonce l n).batch i).getLast? =
          some (.cts (connectionAt cfg nonce l (n + 1)).policy.ctsAddress) ∧
        0 ≤ w.admittedAt - i.now ∧ w.admittedAt - i.now ≤ cfg.timing.ctsWindow
  /-- No two of these answer batches with the same time of receipt. -/
  once : cfg.requestedMode = .classicRs485 ∨ cfg.requestedMode = .channelRs485 →
    ∀ m n i i' effects effects' w w', m < n → Iterates cfg nonce l m i effects →
      Iterates cfg nonce l n i' effects' →
      (connectionAt cfg nonce l n).epoch = (connectionAt cfg nonce l m).epoch →
      w ∈ writes effects → w' ∈ writes effects' → w.site ≠ .management → w'.site ≠ .management →
      i.now < i'.now
  /-- In the direct modes a frame answers a fresh batch with a frame in it. -/
  paced : cfg.requestedMode.direct = true → ∀ n i effects w, Iterates cfg nonce l n i effects →
    w ∈ writes effects → BatchFresh (connectionAt cfg nonce l n) i ∧
      (connectionAt cfg nonce l n).batch i ≠ []
  /-- In the direct modes the writes of an epoch are at least 0.1 s apart. -/
  apart : cfg.requestedMode.direct = true → ∀ m n i i' effects effects' w w', m < n →
    Iterates cfg nonce l m i effects → Iterates cfg nonce l n i' effects' →
    (connectionAt cfg nonce l n).epoch = (connectionAt cfg nonce l m).epoch →
    w ∈ writes effects → w' ∈ writes effects' → 1 / 10 ≤ w'.admittedAt - w.admittedAt

/-- The one frame of an iteration and what it says. -/
theorem Iterates.written {effects : List Effect} {w : Write} (h : Iterates cfg nonce l n i effects)
    (hw : w ∈ writes effects) : writes effects = [w] ∧
      (connectionAt cfg nonce l (n + 1)).policy.requested = cfg.requestedMode ∧
      Written cfg i (connectionAt cfg nonce l n) (connectionAt cfg nonce l (n + 1)).policy w := by
  have hmode := requested_eq cfg nonce l n
  obtain ⟨-, ⟨hnone, -⟩ | ⟨d, houtcome, hpolicy, -⟩⟩ := iterate_cases (i := i) hmode
  · rw [h.effects] at hnone
    rw [hnone] at hw
    cases hw
  · rw [h.effects] at houtcome
    rw [h.next, hpolicy, houtcome.requested, hmode]
    rcases houtcome.written with hs | ⟨w', hw', hwritten⟩
    · rw [hs.writes] at hw
      cases hw
    · rw [hw', List.mem_singleton] at hw
      subst hw
      exact ⟨hw', rfl, hwritten⟩

/-- An iteration that leaves the connection open has an outcome. -/
theorem outcome_of_opened (hop : l[n]? = some (.iterate i))
    (hopen : (connectionAt cfg nonce l n).phase = .opened)
    (hopen' : (connectionAt cfg nonce l (n + 1)).phase = .opened) :
    Outcome cfg i (connectionAt cfg nonce l n) (connectionAt cfg nonce l (n + 1))
      (iterate cfg i (connectionAt cfg nonce l n)).2 := by
  have h : Iterates cfg nonce l n i _ := ⟨hop, hopen, rfl⟩
  rw [h.next] at hopen' ⊢
  obtain ⟨-, ⟨-, hne, -⟩ | ⟨d, houtcome, -, hd⟩⟩ :=
    iterate_cases (i := i) (requested_eq cfg nonce l n)
  · exact absurd hopen' hne
  · rw [hd hopen']
    exact houtcome

/-- The last admission of the direct transport is never forgotten in an epoch. -/
theorem lastTx_from {effects : List Effect} {w : Write} {m k : ℕ}
    (hdirect : cfg.requestedMode.direct = true) (h : Iterates cfg nonce l m i effects)
    (hw : w ∈ writes effects) (hmk : m < k)
    (hepoch : (connectionAt cfg nonce l k).epoch = (connectionAt cfg nonce l m).epoch)
    (hopen : (connectionAt cfg nonce l k).phase = .opened) :
    ∃ t, (connectionAt cfg nonce l k).policy.direct.lastTx = some t ∧ w.admittedAt ≤ t := by
  have hnext : (connectionAt cfg nonce l (m + 1)).epoch = (connectionAt cfg nonce l m).epoch := by
    rw [h.next]
    exact (iterate_cases (requested_eq cfg nonce l m)).1
  refine epoch_invariant (R := fun c => ∃ t, c.policy.direct.lastTx = some t ∧ w.admittedAt ≤ t)
    (fun _ => ?_) ?_ hmk (hepoch.trans hnext.symm) hopen
  · obtain ⟨-, hreq, hwritten⟩ := h.written hw
    rw [← hreq] at hdirect
    exact ⟨_, (hwritten.pace hdirect).2.2.2, le_refl _⟩
  · rintro n i' hop hopen ⟨t, ht, hle⟩ hopen'
    have houtcome := outcome_of_opened hop hopen hopen'
    rcases houtcome.written with hs | ⟨w', -, hwritten⟩
    · exact ⟨t, by rw [hs.direct, ht], hle⟩
    · rw [← requested_eq cfg nonce l (n + 1)] at hdirect
      obtain ⟨-, -, hpace, hlast⟩ := hwritten.pace hdirect
      refine ⟨_, hlast, ?_⟩
      have := hpace t ht
      linarith

/-- Nor is the last batch that was used on a shared bus. -/
theorem consumedAt_from {effects : List Effect} {w : Write} {m k : ℕ}
    (hbus : cfg.requestedMode = .classicRs485 ∨ cfg.requestedMode = .channelRs485)
    (h : Iterates cfg nonce l m i effects) (hw : w ∈ writes effects) (hsite : w.site ≠ .management)
    (hmk : m < k) (hepoch : (connectionAt cfg nonce l k).epoch = (connectionAt cfg nonce l m).epoch)
    (hopen : (connectionAt cfg nonce l k).phase = .opened) :
    ∃ t, (connectionAt cfg nonce l k).policy.classic.consumedAt = some t ∧ i.now ≤ t := by
  have hnext : (connectionAt cfg nonce l (m + 1)).epoch = (connectionAt cfg nonce l m).epoch := by
    rw [h.next]
    exact (iterate_cases (requested_eq cfg nonce l m)).1
  refine epoch_invariant (R := fun c => ∃ t, c.policy.classic.consumedAt = some t ∧ i.now ≤ t)
    (fun _ => ?_) ?_ hmk (hepoch.trans hnext.symm) hopen
  · obtain ⟨-, hreq, hwritten⟩ := h.written hw
    rw [← hreq] at hbus
    exact ⟨_, (hwritten.slot hsite hbus).2.2.2.2.2, le_refl _⟩
  · rintro n i' hop hopen ⟨t, ht, hle⟩ hopen'
    have houtcome := outcome_of_opened hop hopen hopen'
    rcases houtcome.written with hs | ⟨w', -, hwritten⟩
    · exact ⟨t, by rw [hs.classic, ht], hle⟩
    · by_cases hm : w'.site = .management
      · exact ⟨t, by rw [(hwritten.management hm).2.2, ht], hle⟩
      · rw [← requested_eq cfg nonce l (n + 1)] at hbus
        obtain ⟨-, -, -, -, hold, hlast⟩ := hwritten.slot hm hbus
        exact ⟨_, hlast, hle.trans (hold t ht).le⟩

/-- **Slot discipline.** Every run of a connection keeps it, whatever is received,
    answered or read from the clock. -/
theorem slot_discipline (cfg : ConnectionConfig) (nonce : Nonce) (l : List Op) :
    SlotDiscipline cfg nonce l where
  one n effects hout := by
    by_contra hne
    obtain ⟨w, hw⟩ : ∃ w, w ∈ writes effects := List.exists_mem_of_length_pos (by omega)
    obtain ⟨i, h⟩ := iterates_of_write hout hw
    rw [(h.written hw).1] at hne
    exact hne (le_refl _)
  slot hbus n i effects w h hw hsite := by
    obtain ⟨-, hreq, hwritten⟩ := h.written hw
    rw [← hreq] at hbus
    obtain ⟨hfresh, hlast, hlow, hhigh, -⟩ := hwritten.slot hsite hbus
    exact ⟨hfresh, hlast, hlow, hhigh⟩
  once hbus m n i i' effects effects' w w' hmn h h' hepoch hw hw' hsite hsite' := by
    obtain ⟨t, ht, hle⟩ := consumedAt_from hbus h hw hsite hmn hepoch h'.opened
    obtain ⟨-, hreq, hwritten⟩ := h'.written hw'
    rw [← hreq] at hbus
    exact hle.trans_lt ((hwritten.slot hsite' hbus).2.2.2.2.1 t ht)
  paced hdirect n i effects w h hw := by
    obtain ⟨-, hreq, hwritten⟩ := h.written hw
    rw [← hreq] at hdirect
    exact ⟨(hwritten.pace hdirect).1, (hwritten.pace hdirect).2.1⟩
  apart hdirect m n i i' effects effects' w w' hmn h h' hepoch hw hw' := by
    obtain ⟨t, ht, hle⟩ := lastTx_from hdirect h hw hmn hepoch h'.opened
    obtain ⟨-, hreq, hwritten⟩ := h'.written hw'
    rw [← hreq] at hdirect
    have := (hwritten.pace hdirect).2.2.1 t ht
    linarith

end Connection

end BalboaRs485
