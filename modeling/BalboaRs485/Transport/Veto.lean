import BalboaRs485.Transport.Slots

/-!
# Fail-closed veto

Evidence against writing is latched in the policy of the epoch: channels were
seen, a direct mode is blocked, the channel session has failed. A latch never
opens again in an epoch, and a written frame shows that none was closed when its
iteration ended.

* `Latch`: what makes a condition on the policy a latch; the three latches.
* `silent_from`: once a latch is closed nothing is written in that epoch.
* `fail_closed`: the veto, from the iteration that receives the evidence.
-/

namespace BalboaRs485

namespace Connection

variable {cfg : ConnectionConfig} {nonce : Nonce} {l : List Op} {n : ℕ} {i : Iteration}

/-- The channel session of every state is sound. -/
theorem channel_sound (cfg : ConnectionConfig) (nonce : Nonce) (l : List Op) (n : ℕ) :
    (connectionAt cfg nonce l n).policy.channel.Sound := by
  refine ((connectionMachine cfg nonce).stateAt_invariant
    (P := fun c => c.policy.requested = cfg.requestedMode ∧ c.policy.channel.Sound)
    ⟨rfl, ChannelSession.sound_make nonce⟩ ?_ l n).2
  rintro c op ⟨hmode, h⟩
  show (step cfg c op).1.policy.requested = cfg.requestedMode ∧ (step cfg c op).1.policy.channel.Sound
  cases op with
  | connect nonce' opening =>
    simp only [step]
    split
    · unfold connect
      split
      · exact ⟨hmode, h⟩
      · rename_i fresh _
        cases opening <;> exact ⟨rfl, ChannelSession.sound_make fresh⟩
    · exact ⟨hmode, h⟩
  | iterate i =>
    simp only [step]
    split
    · obtain ⟨-, ⟨-, -, hp⟩ | ⟨d, houtcome, hp, -⟩⟩ := iterate_cases (i := i) hmode
      · rw [hp]
        exact ⟨hmode, h⟩
      · rw [hp]
        exact ⟨houtcome.requested.trans hmode, houtcome.sound h⟩
    · exact ⟨hmode, h⟩

/-! ## Latches -/

/-- A condition on the policy that no iteration undoes and no written frame agrees
    with. -/
structure Latch (cfg : ConnectionConfig) (R : BusPolicy → Prop) : Prop where
  keeps : ∀ {i c d}, Underway c i d → R c.policy → R d.policy
  blocks : ∀ {i c p w}, p.requested = cfg.requestedMode → p.channel.Sound →
    Written cfg i c p w → ¬ R p

/-- Every written frame comes from a supported policy or from a channel session that
    has not failed. -/
theorem Written.cases {c : Connection} {p : BusPolicy} {w : Write} (h : Written cfg i c p w) :
    (p.requested = .channelRs485 ∧ p.channel.failure = none) ∨ p.supported = true := by
  by_cases hsite : w.site = .management
  · exact .inl ⟨(h.management hsite).1, (h.management hsite).2.1⟩
  · exact .inr (h.supported hsite)

theorem latch_auto (h : cfg.requestedMode = .auto) : Latch cfg fun _ => True where
  keeps _ := id
  blocks hreq _ hw _ := by
    rw [h] at hreq
    rcases hw.cases with ⟨hc, -⟩ | hs
    · rw [hc] at hreq
      cases hreq
    · have hcases := (BusPolicy.supported_cases hs).2
      simp [hreq, Mode.direct] at hcases

theorem latch_channelSeen (h : cfg.requestedMode = .classicRs485 ∨ cfg.requestedMode = .bwaTcp) :
    Latch cfg fun p => p.channelSeen = true where
  keeps hu := hu.channelSeen
  blocks hreq _ hw hseen := by
    rw [← hreq] at h
    rcases hw.cases with ⟨hc, -⟩ | hs
    · rcases h with h | h <;> · rw [h] at hc; cases hc
    · have hcases := (BusPolicy.supported_cases hs).2
      rcases h with h | h <;> simp [h, hseen, Mode.direct] at hcases

theorem latch_directBlocked (h : cfg.requestedMode.direct = true) :
    Latch cfg fun p => p.directBlocked = true where
  keeps hu := hu.directBlocked
  blocks hreq _ hw hblocked := by
    rw [← hreq] at h
    rcases hw.cases with ⟨hc, -⟩ | hs
    · rw [hc] at h
      exact absurd h (by decide)
    · rcases (BusPolicy.supported_cases hs).2 with ⟨hr, -⟩ | ⟨-, hb⟩ | ⟨hr, -⟩ | ⟨hr, -⟩
      · rw [hr] at h
        exact absurd h (by decide)
      · rw [hb] at hblocked
        cases hblocked
      · rw [hr] at h
        exact absurd h (by decide)
      · rw [hr] at h
        exact absurd h (by decide)

theorem latch_failure (h : cfg.requestedMode = .channelRs485) :
    Latch cfg fun p => p.channel.failure ≠ none where
  keeps hu := hu.failed
  blocks hreq hsound hw hfailed := by
    rw [h] at hreq
    rcases hw.cases with ⟨-, hf⟩ | hs
    · exact hfailed hf
    · rcases (BusPolicy.supported_cases hs).2 with ⟨hr, -⟩ | ⟨hr, -⟩ | ⟨-, hready⟩ | ⟨hr, -⟩
      · rw [hr] at hreq
        cases hreq
      · rw [hreq] at hr
        exact absurd hr (by decide)
      · exact hfailed (hsound.ready hready).1
      · rw [hr] at hreq
        cases hreq

/-- An iteration that ends with the latch closed has written nothing. -/
theorem Latch.silent {R : BusPolicy → Prop} (hR : Latch cfg R) {effects : List Effect}
    (h : Iterates cfg nonce l n i effects) (hclosed : R (connectionAt cfg nonce l (n + 1)).policy) :
    writes effects = [] := by
  by_contra hne
  obtain ⟨w, hw⟩ := List.exists_mem_of_ne_nil _ hne
  obtain ⟨-, hreq, hwritten⟩ := h.written hw
  exact hR.blocks hreq (channel_sound cfg nonce l (n + 1)) hwritten hclosed

/-- Once the latch is closed nothing is written for the rest of the epoch. -/
theorem Latch.silent_from {R : BusPolicy → Prop} (hR : Latch cfg R) {j k : ℕ}
    {effects : List Effect} (hjk : j ≤ k)
    (hclosed : (connectionAt cfg nonce l j).phase = .opened → R (connectionAt cfg nonce l j).policy)
    (hepoch : (connectionAt cfg nonce l k).epoch = (connectionAt cfg nonce l j).epoch)
    (h : Iterates cfg nonce l k i effects) : writes effects = [] := by
  have hk : R (connectionAt cfg nonce l k).policy :=
    epoch_invariant (R := fun c => R c.policy) hclosed
      (fun n i hop hopen hr hopen' =>
        hR.keeps (outcome_of_opened hop hopen hopen').toUnderway hr)
      hjk hepoch h.opened
  obtain ⟨-, ⟨hnone, -⟩ | ⟨d, houtcome, hpolicy, -⟩⟩ :=
    iterate_cases (i := i) (requested_eq cfg nonce l k)
  · rw [← h.effects, hnone]
  · refine hR.silent h ?_
    rw [h.next, hpolicy]
    exact hR.keeps houtcome.toUnderway hk

/-- An iteration that closes the latch silences itself and the rest of its epoch. -/
theorem Latch.silent_since {R : BusPolicy → Prop} (hR : Latch cfg R) {j k : ℕ} {i' : Iteration}
    {effects effects' : List Effect} (hjk : j ≤ k) (h : Iterates cfg nonce l j i effects)
    (hclosed : ∀ d, Outcome cfg i (connectionAt cfg nonce l j) d effects → R d.policy)
    (hepoch : (connectionAt cfg nonce l k).epoch = (connectionAt cfg nonce l j).epoch)
    (h' : Iterates cfg nonce l k i' effects') : writes effects' = [] := by
  have hnext : (connectionAt cfg nonce l (j + 1)).epoch = (connectionAt cfg nonce l j).epoch := by
    rw [h.next]
    exact (iterate_cases (requested_eq cfg nonce l j)).1
  rcases hjk.eq_or_lt with rfl | hlt
  · obtain rfl : i = i' := by
      have := h.op.symm.trans h'.op
      cases this
      rfl
    obtain ⟨-, ⟨hnone, -⟩ | ⟨d, houtcome, hpolicy, -⟩⟩ :=
      iterate_cases (i := i) (requested_eq cfg nonce l j)
    · rw [← h'.effects, hnone]
    · refine hR.silent h' ?_
      rw [h.next, hpolicy]
      rw [h.effects] at houtcome
      exact hclosed d houtcome
  · refine hR.silent_from hlt (fun hopen => ?_) (hepoch.trans hnext.symm) h'
    have houtcome := outcome_of_opened h.op h.opened hopen
    rw [h.effects] at houtcome
    exact hclosed _ houtcome

/-! ## The veto -/

/-- The fail-closed veto of a run. -/
structure FailClosed (cfg : ConnectionConfig) (nonce : Nonce) (l : List Op) : Prop where
  /-- The automatic mode writes nothing. -/
  auto : cfg.requestedMode = .auto → ∀ n effects,
    (connectionMachine cfg nonce).outAt l n = some effects → writes effects = []
  /-- Evidence of channels silences the modes that share the bus or its module. -/
  channels : cfg.requestedMode = .classicRs485 ∨ cfg.requestedMode = .bwaTcp →
    ∀ j k i i' effects effects', j ≤ k → Iterates cfg nonce l j i effects →
      (∃ frame ∈ (connectionAt cfg nonce l j).batch i, frame.channelEvidence = true) →
      (connectionAt cfg nonce l k).epoch = (connectionAt cfg nonce l j).epoch →
      Iterates cfg nonce l k i' effects' → writes effects' = []
  /-- A second sender silences the direct modes. -/
  blocked : cfg.requestedMode.direct = true →
    ∀ j k i i' effects effects', j ≤ k → Iterates cfg nonce l j i effects →
      (∃ frame ∈ (connectionAt cfg nonce l j).batch i, frame.blocksDirect = true) →
      (connectionAt cfg nonce l k).epoch = (connectionAt cfg nonce l j).epoch →
      Iterates cfg nonce l k i' effects' → writes effects' = []
  /-- A failed channel session silences the channel mode, from the iteration that
      fails it. -/
  failure : cfg.requestedMode = .channelRs485 →
    ∀ j k i i' effects effects', j ≤ k → Iterates cfg nonce l j i effects →
      (connectionAt cfg nonce l (j + 1)).policy.channel.failure ≠ none →
      (connectionAt cfg nonce l k).epoch = (connectionAt cfg nonce l j).epoch →
      Iterates cfg nonce l k i' effects' → writes effects' = []
  /-- A channel session is never ready and failed. -/
  ready : ∀ n, (connectionAt cfg nonce l n).policy.channel.ready = true →
    (connectionAt cfg nonce l n).policy.channel.failure = none

/-- **Fail-closed veto.** In every run, from the iteration that receives the evidence,
    nothing is written for the rest of the socket epoch. -/
theorem fail_closed (cfg : ConnectionConfig) (nonce : Nonce) (l : List Op) :
    FailClosed cfg nonce l where
  auto hauto n effects hout := by
    by_contra hne
    obtain ⟨w, hw⟩ := List.exists_mem_of_ne_nil _ hne
    obtain ⟨i, h⟩ := iterates_of_write hout hw
    exact hne ((latch_auto hauto).silent h trivial)
  channels hmode j k i i' effects effects' hjk h hev hepoch h' := by
    obtain ⟨frame, hmem, hev⟩ := hev
    refine (latch_channelSeen hmode).silent_since hjk h (fun d houtcome => ?_) hepoch h'
    have hne : (connectionAt cfg nonce l j).policy.requested ≠ .channelRs485 := by
      rw [requested_eq]
      rcases hmode with hm | hm <;> · rw [hm]; decide
    exact (houtcome.evidence hne frame hmem).1 hev
  blocked hdirect j k i i' effects effects' hjk h hev hepoch h' := by
    obtain ⟨frame, hmem, hev⟩ := hev
    refine (latch_directBlocked hdirect).silent_since hjk h (fun d houtcome => ?_) hepoch h'
    rw [← requested_eq cfg nonce l j] at hdirect
    have hne : (connectionAt cfg nonce l j).policy.requested ≠ .channelRs485 := by
      intro hr
      rw [hr] at hdirect
      exact absurd hdirect (by decide)
    exact (houtcome.evidence hne frame hmem).2 hdirect hev
  failure hmode j k i i' effects effects' hjk h hfailed hepoch h' := by
    have hR := latch_failure hmode
    rcases hjk.eq_or_lt with rfl | hlt
    · exact hR.silent h' hfailed
    · have hnext : (connectionAt cfg nonce l (j + 1)).epoch =
          (connectionAt cfg nonce l j).epoch := by
        rw [h.next]
        exact (iterate_cases (requested_eq cfg nonce l j)).1
      exact hR.silent_from hlt (fun _ => hfailed) (hepoch.trans hnext.symm) h'
  ready n hready := ((channel_sound cfg nonce l n).ready hready).1

end Connection

end BalboaRs485
