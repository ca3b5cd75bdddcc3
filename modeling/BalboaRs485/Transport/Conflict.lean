import BalboaRs485.Transport.Assignment

/-!
# Conflicting offers

Two correlated offers that name different channels are a conflict, and a session that
has noticed one never acknowledges. `consider_assignments` compares an offer with the
candidate only, so a conflict is noticed if the offer that is looked at first can be
taken: its channel is assignable and no other client uses it.

* `considerFrames_named`, `considerFrames_conflict`, `considerFrames_pending`: what one
  batch makes of an offer that can be taken, and where a failure and a candidate come
  from.
* `Remembers`, `remembers`: the same over a run.
* `conflict_closes`: after a conflict no acknowledgement is ever returned if and only if
  the conflict was noticed, or the session is closed for another reason.
-/

namespace BalboaRs485

namespace ChannelSession

/-! ## One batch -/

/-- A channel that an offer can make the candidate. -/
def Eligible (s : ChannelSession) (x : UInt8) : Prop := assignable x ∧ x ∉ s.clients

variable {s : ChannelSession} {x : UInt8}

theorem considerFrames_cons_other {frame : Frame} (frames : List Frame)
    (h : frame.correlated s.nonce = false) :
    s.considerFrames (frame :: frames) = s.considerFrames frames := by
  conv_lhs => unfold considerFrames
  rw [if_neg (by simp [h])]

theorem considerFrames_cons_conflict {frame : Frame} (frames : List Frame)
    (h : frame.correlated s.nonce = true) (hx : s.pendingChannel = some x) (hne : frame.offer ≠ x) :
    s.considerFrames (frame :: frames) = { s with failure := some .conflicting } := by
  unfold considerFrames
  rw [if_pos h, if_pos]
  rw [hx]
  exact ⟨by simp, fun heq => hne (Option.some.inj heq).symm⟩

theorem considerFrames_cons_taken {frame : Frame} (frames : List Frame)
    (h : frame.correlated s.nonce = true)
    (hx : s.pendingChannel = none ∨ s.pendingChannel = some frame.offer)
    (hfree : s.Eligible frame.offer) :
    s.considerFrames (frame :: frames) =
      considerFrames { s with pendingChannel := some frame.offer } frames := by
  conv_lhs => unfold considerFrames
  rw [if_pos h, if_neg fun hother => hx.elim hother.1 hother.2]
  exact if_pos hfree

theorem considerFrames_cons_passed {frame : Frame} (frames : List Frame)
    (h : frame.correlated s.nonce = true)
    (hx : s.pendingChannel = none ∨ s.pendingChannel = some frame.offer)
    (hused : ¬ s.Eligible frame.offer) :
    s.considerFrames (frame :: frames) = s.considerFrames frames := by
  conv_lhs => unfold considerFrames
  rw [if_pos h, if_neg fun hother => hx.elim hother.1 hother.2]
  exact if_neg hused

/-- The four ways a frame is looked at. -/
inductive LookCase (s : ChannelSession) (frame : Frame) : Prop where
  | other (h : frame.correlated s.nonce = false)
  | conflict (x : UInt8) (h : frame = .assignment frame.offer s.nonce)
      (hx : s.pendingChannel = some x) (hne : frame.offer ≠ x)
  | taken (h : frame = .assignment frame.offer s.nonce)
      (hx : s.pendingChannel = none ∨ s.pendingChannel = some frame.offer)
      (hfree : s.Eligible frame.offer)
  | passed (h : frame = .assignment frame.offer s.nonce)
      (hx : s.pendingChannel = none ∨ s.pendingChannel = some frame.offer)
      (hused : ¬ s.Eligible frame.offer)

theorem lookCase (s : ChannelSession) (frame : Frame) : LookCase s frame := by
  cases hc : frame.correlated s.nonce with
  | false => exact .other hc
  | true =>
    have hframe := Frame.correlated_iff.mp hc
    have hpending : (s.pendingChannel = none ∨ s.pendingChannel = some frame.offer) ∨
        ∃ x, s.pendingChannel = some x ∧ frame.offer ≠ x := by
      cases s.pendingChannel with
      | none => exact .inl (.inl rfl)
      | some x =>
        by_cases hx : frame.offer = x
        · exact .inl (.inr (by rw [hx]))
        · exact .inr ⟨x, rfl, hx⟩
    rcases hpending with hx | ⟨x, hx, hne⟩
    · by_cases hfree : s.Eligible frame.offer
      · exact .taken hframe hx hfree
      · exact .passed hframe hx hfree
    · exact .conflict x hframe hx hne

/-- An offer that can be taken is the candidate afterwards, and those behind it name the
    same channel, if the session does not fail. -/
theorem considerFrames_named {before after : List Frame} (hfree : s.Eligible x)
    (hf : (s.considerFrames (before ++ .assignment x s.nonce :: after)).failure = none) :
    (s.considerFrames (before ++ .assignment x s.nonce :: after)).pendingChannel = some x ∧
      ∀ frame ∈ after, frame.correlated s.nonce = true → frame.offer = x := by
  induction before generalizing s with
  | nil =>
    have hc : (Frame.assignment x s.nonce).correlated s.nonce = true := Frame.correlated_iff.mpr rfl
    rw [List.nil_append] at hf ⊢
    cases lookCase s (.assignment x s.nonce) with
    | other h =>
      rw [hc] at h
      cases h
    | conflict y _ hy hne =>
      rw [considerFrames_cons_conflict after hc hy hne] at hf
      cases hf
    | taken _ hx hfree =>
      rw [considerFrames_cons_taken after hc hx hfree] at hf ⊢
      exact considerFrames_of_some (s := { s with pendingChannel := some x }) rfl hf
    | passed _ _ hused => exact absurd hfree hused
  | cons frame before ih =>
    rw [List.cons_append] at hf ⊢
    cases lookCase s frame with
    | other h =>
      rw [considerFrames_cons_other _ h] at hf ⊢
      exact ih hfree hf
    | conflict y h hy hne =>
      rw [considerFrames_cons_conflict _ (Frame.correlated_iff.mpr h) hy hne] at hf
      cases hf
    | taken h hx hfree' =>
      rw [considerFrames_cons_taken _ (Frame.correlated_iff.mpr h) hx hfree'] at hf ⊢
      exact ih (s := { s with pendingChannel := some frame.offer }) hfree hf
    | passed h hx hused =>
      rw [considerFrames_cons_passed _ (Frame.correlated_iff.mpr h) hx hused] at hf ⊢
      exact ih hfree hf

/-- The batch offers a channel that can be taken. -/
def Offers (s : ChannelSession) (frames : List Frame) (x : UInt8) (after : List Frame) : Prop :=
  s.Eligible x ∧ ∃ before, frames = before ++ .assignment x s.nonce :: after

theorem Offers.cons {frames after : List Frame} (frame : Frame) (h : s.Offers frames x after) :
    s.Offers (frame :: frames) x after := by
  obtain ⟨hfree, before, rfl⟩ := h
  exact ⟨hfree, frame :: before, rfl⟩

/-- The candidate after a batch is the one before it, or was offered by it. -/
theorem considerFrames_pending {frames : List Frame}
    (h : (s.considerFrames frames).pendingChannel = some x) :
    s.pendingChannel = some x ∨ ∃ after, s.Offers frames x after := by
  induction frames generalizing s with
  | nil => exact .inl h
  | cons frame frames ih =>
    cases lookCase s frame with
    | other hc =>
      rw [considerFrames_cons_other _ hc] at h
      exact (ih h).imp_right fun ⟨after, ho⟩ => ⟨after, ho.cons frame⟩
    | conflict y hc hy hne =>
      rw [considerFrames_cons_conflict _ (Frame.correlated_iff.mpr hc) hy hne] at h
      exact .inl h
    | taken hc hx hfree =>
      rw [considerFrames_cons_taken _ (Frame.correlated_iff.mpr hc) hx hfree] at h
      rcases ih h with hpending | ⟨after, ho⟩
      · obtain rfl := Option.some.inj hpending
        exact .inr ⟨frames, hfree, [], by rw [List.nil_append, ← hc]⟩
      · exact .inr ⟨after, Offers.cons (s := s) frame ho⟩
    | passed hc hx hused =>
      rw [considerFrames_cons_passed _ (Frame.correlated_iff.mpr hc) hx hused] at h
      exact (ih h).imp_right fun ⟨after, ho⟩ => ⟨after, ho.cons frame⟩

/-- A batch fails a session on an offer of another channel than the candidate, which was
    there before or offered by the batch. -/
theorem considerFrames_conflict {frames : List Frame} (hs : s.failure = none)
    (h : (s.considerFrames frames).failure ≠ none) :
    ∃ x y, x ≠ y ∧ ((s.pendingChannel = some x ∧ .assignment y s.nonce ∈ frames) ∨
      ∃ after, s.Offers frames x after ∧ .assignment y s.nonce ∈ after) := by
  induction frames generalizing s with
  | nil => exact absurd hs h
  | cons frame frames ih =>
    have hlater : ∀ {s' : ChannelSession}, s'.failure = none → s'.nonce = s.nonce →
        s'.clients = s.clients → s'.pendingChannel = s.pendingChannel →
        (s'.considerFrames frames).failure ≠ none →
        ∃ x y, x ≠ y ∧ ((s.pendingChannel = some x ∧ .assignment y s.nonce ∈ frame :: frames) ∨
          ∃ after, s.Offers (frame :: frames) x after ∧ .assignment y s.nonce ∈ after) := by
      intro s' hs' hnonce hclients hpending hf
      obtain ⟨x, y, hne, ⟨hx, hmem⟩ | ⟨after, ⟨hfree, before, hframes⟩, hmem⟩⟩ := ih hs' hf
      · rw [hnonce] at hmem
        exact ⟨x, y, hne, .inl ⟨hpending.symm.trans hx, List.mem_cons_of_mem _ hmem⟩⟩
      · rw [hnonce] at hmem hframes
        refine ⟨x, y, hne, .inr ⟨after, Offers.cons frame ⟨?_, before, hframes⟩, hmem⟩⟩
        exact ⟨hfree.1, by rw [← hclients]; exact hfree.2⟩
    cases lookCase s frame with
    | other hc =>
      rw [considerFrames_cons_other _ hc] at h
      exact hlater hs rfl rfl rfl h
    | conflict x hc hx hne =>
      exact ⟨x, frame.offer, Ne.symm hne, .inl ⟨hx, by rw [← hc]; simp⟩⟩
    | taken hc hx hfree =>
      rw [considerFrames_cons_taken _ (Frame.correlated_iff.mpr hc) hx hfree] at h
      obtain ⟨x, y, hne, ⟨hpending, hmem⟩ | ⟨after, ho, hmem⟩⟩ :=
        ih (s := { s with pendingChannel := some frame.offer }) hs h
      · -- the offer taken here is the one that is disputed later
        obtain rfl := Option.some.inj hpending
        exact ⟨frame.offer, y, hne, .inr ⟨frames, ⟨hfree, [], by rw [List.nil_append, ← hc]⟩, hmem⟩⟩
      · exact ⟨x, y, hne, .inr ⟨after, Offers.cons (s := s) frame ho, hmem⟩⟩
    | passed hc hx hused =>
      rw [considerFrames_cons_passed _ (Frame.correlated_iff.mpr hc) hx hused] at h
      exact hlater hs rfl rfl rfl h

/-! ## One call -/

/-- The session after a call, before what `reply` returns is sent. -/
def looked (s : ChannelSession) : ChannelOp → ChannelSession
  | .observe frame => s.observe frame
  | .consider frames t => s.considerAssignments frames t
  | .reply frames t _ => s.considerAssignments frames t
  | .idleReply _ => s
  | .expire t => s.expire t

/-- The call passes a batch within the two seconds after the request. -/
def LooksAt (s : ChannelSession) (op : ChannelOp) (frames : List Frame) : Prop :=
  ∃ r t, s.requestedAt = some r ∧ inWindow r t ∧
    (op = .consider frames t ∨ ∃ send, op = .reply frames t send)

theorem expire_case (s : ChannelSession) (t : ℚ) :
    s.expire t = s ∨ (s.expire t).failure = some .timedOut := by
  unfold expire
  split
  · exact .inl rfl
  · split
    · exact .inr rfl
    · exact .inl rfl

/-- A batch is looked at, or the call only looks at the clock. -/
theorem considerAssignments_eq (s : ChannelSession) (frames : List Frame) (t : ℚ) :
    (s.listening t ∧ s.considerAssignments frames t = s.considerFrames frames) ∨
      ¬ s.listening t ∧ s.considerAssignments frames t = s.expire t := by
  unfold considerAssignments
  by_cases hl : (s.expire t).listening t
  · rw [if_pos hl]
    rcases expire_case s t with hsame | htimed
    · rw [hsame] at hl ⊢
      exact .inl ⟨hl, rfl⟩
    · rw [hl.1] at htimed
      cases htimed
  · rw [if_neg hl]
    refine .inr ⟨fun hlistening => hl ?_, rfl⟩
    obtain ⟨hf, ha, r, hr, hw⟩ := hlistening
    have hsame : s.expire t = s := by
      unfold expire
      rw [hr]
      exact if_neg fun h => absurd h.2.2 (not_le.mpr hw.2)
    rw [hsame]
    exact ⟨hf, ha, r, hr, hw⟩

/-- A session that is neither failed nor acknowledged looks at every frame of a batch. -/
theorem LooksAt.looked {op : ChannelOp} {frames : List Frame} (h : s.LooksAt op frames)
    (hf : s.failure = none) (ha : s.acked = false) : s.looked op = s.considerFrames frames := by
  obtain ⟨r, t, hr, hw, rfl | ⟨send, rfl⟩⟩ := h
  all_goals
    rcases considerAssignments_eq s frames t with ⟨-, heq⟩ | ⟨hno, -⟩
    · exact heq
    · exact absurd ⟨hf, ha, r, hr, hw⟩ hno

/-- Any other call leaves the candidate, and fails for another reason if it fails. -/
theorem looked_case (s : ChannelSession) (op : ChannelOp) :
    (∃ frames, s.LooksAt op frames ∧ s.failure = none ∧ s.acked = false ∧
        s.looked op = s.considerFrames frames) ∨
      ((s.looked op).pendingChannel = s.pendingChannel ∧
        ((s.looked op).failure = s.failure ∨ (s.looked op).failure ≠ some .conflicting)) := by
  have hexpire : ∀ t, (s.expire t).failure = s.failure ∨ (s.expire t).failure ≠ some .conflicting := by
    intro t
    rcases expire_case s t with h | h <;> rw [h]
    · exact .inl rfl
    · exact .inr (by simp)
  have hbatch : ∀ frames t, (op = .consider frames t ∨ ∃ send, op = .reply frames t send) →
      s.looked op = s.considerAssignments frames t →
      (∃ frames, s.LooksAt op frames ∧ s.failure = none ∧ s.acked = false ∧
          s.looked op = s.considerFrames frames) ∨
        ((s.looked op).pendingChannel = s.pendingChannel ∧
          ((s.looked op).failure = s.failure ∨ (s.looked op).failure ≠ some .conflicting)) := by
    intro frames t hop hlooked
    rw [hlooked]
    rcases considerAssignments_eq s frames t with ⟨⟨hf, ha, r, hr, hw⟩, heq⟩ | ⟨-, heq⟩
    · exact .inl ⟨frames, ⟨r, t, hr, hw, hop⟩, hf, ha, heq⟩
    · rw [heq]
      exact .inr ⟨expire_pendingChannel s t, hexpire t⟩
  cases op with
  | observe frame =>
    refine .inr ⟨(observe_observes s frame).pendingChannel, ?_⟩
    simp only [looked, observe, noteFamily, noteClient, noteCollision, noteCts]
    split_ifs <;> simp
  | consider frames t => exact hbatch frames t (.inl rfl) rfl
  | reply frames t send => exact hbatch frames t (.inr ⟨send, rfl⟩) rfl
  | idleReply frames => exact .inr ⟨rfl, .inl rfl⟩
  | expire t => exact .inr ⟨expire_pendingChannel s t, hexpire t⟩

/-- What no call takes back. -/
theorem looked_mono (s : ChannelSession) (op : ChannelOp) :
    (s.looked op).nonce = s.nonce ∧ (s.looked op).requestedAt = s.requestedAt ∧
      (s.looked op).acked = s.acked ∧ s.clients ⊆ (s.looked op).clients ∧
      (s.failure ≠ none → (s.looked op).failure ≠ none) := by
  have hconsiders : ∀ {s' : ChannelSession}, Considers s s' →
      s'.nonce = s.nonce ∧ s'.requestedAt = s.requestedAt ∧ s'.acked = s.acked ∧
        s.clients ⊆ s'.clients ∧ (s.failure ≠ none → s'.failure ≠ none) := by
    intro s' h
    refine ⟨h.nonce, h.requestedAt, h.acked, h.clients.ge, fun hf => ?_⟩
    rw [h.failed hf]
    exact hf
  cases op with
  | observe frame =>
    have h := observe_observes s frame
    exact ⟨h.nonce, h.requestedAt, h.acked, h.clients, h.failed⟩
  | consider frames t => exact hconsiders (considerAssignments_considers s frames t)
  | reply frames t send => exact hconsiders (considerAssignments_considers s frames t)
  | idleReply frames => exact hconsiders (.refl s)
  | expire t => exact hconsiders (expire_considers s t)

/-- Sending only notes the request or the acknowledgement. -/
theorem step_looked (s : ChannelSession) (op : ChannelOp) :
    (s.step op).1 = s.looked op ∨ ∃ frames t response, op = .reply frames t true ∧
      (s.reply frames t).2 = some response ∧ (s.step op).1 = (s.looked op).sent response t := by
  cases op with
  | reply frames t send =>
    cases hresponse : (s.reply frames t).2 with
    | none =>
      left
      simp only [step, hresponse]
      exact reply_fst s frames t
    | some response =>
      cases send with
      | false =>
        left
        simp only [step, hresponse]
        exact reply_fst s frames t
      | true =>
        refine .inr ⟨frames, t, response, rfl, hresponse, ?_⟩
        simp only [step, hresponse, reply_fst]
        rfl
  | _ => exact .inl rfl

theorem step_keeps (s : ChannelSession) (op : ChannelOp) :
    (s.step op).1.failure = (s.looked op).failure ∧
      (s.step op).1.pendingChannel = (s.looked op).pendingChannel ∧
      (s.step op).1.clients = (s.looked op).clients ∧
      ((s.looked op).acked = true → (s.step op).1.acked = true) := by
  rcases step_looked s op with h | ⟨frames, t, response, -, -, h⟩
  · rw [h]
    exact ⟨rfl, rfl, rfl, id⟩
  · rw [h]
    unfold sent
    split
    · exact ⟨rfl, rfl, rfl, id⟩
    · split
      · exact ⟨rfl, rfl, rfl, fun _ => rfl⟩
      · exact ⟨rfl, rfl, rfl, id⟩

/-! ## Runs -/

variable {nonce : Nonce} {l : List ChannelOp} {n : ℕ}

/-- Call `k` considers the batch `frames` within the window of the request. -/
def Considered (nonce : Nonce) (l : List ChannelOp) (k : ℕ) (frames : List Frame) : Prop :=
  ∃ op, l[k]? = some op ∧ (sessionAt nonce l k).LooksAt op frames

/-- Among the first `n` calls two offers that name different channels are considered. -/
def Conflicted (nonce : Nonce) (l : List ChannelOp) (n : ℕ) : Prop :=
  ∃ x y j k frames frames', x ≠ y ∧ j < n ∧ k < n ∧ Considered nonce l j frames ∧
    Considered nonce l k frames' ∧ .assignment x nonce ∈ frames ∧ .assignment y nonce ∈ frames'

/-- Call `j` considers an offer of `x` when `x` is assignable and not used by another
    client; `after` are the frames behind it in the batch. -/
def Offered (nonce : Nonce) (l : List ChannelOp) (j : ℕ) (x : UInt8) (after : List Frame) : Prop :=
  ∃ before, Considered nonce l j (before ++ .assignment x nonce :: after) ∧
    (sessionAt nonce l j).Eligible x

/-- Among the first `n` calls an offer that can be taken is followed by one of another
    channel, in the same batch or in a later one. -/
def Noticed (nonce : Nonce) (l : List ChannelOp) (n : ℕ) : Prop :=
  ∃ x y j after, x ≠ y ∧ j < n ∧ Offered nonce l j x after ∧
    (.assignment y nonce ∈ after ∨ ∃ k frames, j < k ∧ k < n ∧ Considered nonce l k frames ∧
      .assignment y nonce ∈ frames)

/-- No run that begins with the first `n + 1` calls of `l` returns an acknowledgement from
    call `n` on. -/
def NeverAcks (nonce : Nonce) (l : List ChannelOp) (n : ℕ) : Prop :=
  ∀ l' k frames t response, l'.take (n + 1) = l.take (n + 1) → n ≤ k →
    Replied nonce l' k frames t response → response.messageType ≠ 3

/-- A session that cannot acknowledge, whatever was offered: it has acknowledged, it has
    failed for another reason, or every channel it could still take is used. -/
def Spent (s : ChannelSession) : Prop :=
  s.acked = true ∨ (s.failure ≠ none ∧ s.failure ≠ some .conflicting) ∨
    ∀ x, (s.pendingChannel = none ∨ s.pendingChannel = some x) → assignable x → x ∈ s.clients

/-! ### Closed sessions -/

/-- A session that has failed or acknowledged. -/
def Closed (s : ChannelSession) : Prop := s.failure ≠ none ∨ s.acked = true

theorem Closed.looked (h : s.Closed) (op : ChannelOp) : (s.looked op).Closed := by
  obtain ⟨-, -, hacked, -, hfailed⟩ := looked_mono s op
  exact h.imp hfailed fun ha => hacked.trans ha

theorem Closed.step {op : ChannelOp} (h : (s.looked op).Closed) : (s.step op).1.Closed := by
  obtain ⟨hfailure, -, -, hacked⟩ := step_keeps s op
  exact h.imp (fun hf => by rwa [hfailure]) hacked

/-- A session that is closed, or can take none of the assignable channels. -/
def Barren (s : ChannelSession) : Prop :=
  s.Closed ∨
    ∀ x, (s.pendingChannel = none ∨ s.pendingChannel = some x) → assignable x → x ∈ s.clients

theorem Barren.looked (h : s.Barren) (op : ChannelOp) : (s.looked op).Barren := by
  rcases h with hclosed | hused
  · exact .inl (hclosed.looked op)
  obtain ⟨-, -, -, hclients, -⟩ := looked_mono s op
  have hsame : (s.looked op).pendingChannel = s.pendingChannel → (s.looked op).Barren := by
    intro hpending
    refine .inr fun x hx ha => hclients (hused x ?_ ha)
    rwa [hpending] at hx
  rcases looked_case s op with ⟨frames, -, -, -, heq⟩ | ⟨hpending, -⟩
  · by_cases hf : (s.looked op).failure = none
    · refine hsame ?_
      rw [heq] at hf ⊢
      cases hs : s.pendingChannel with
      | some c => exact (considerFrames_of_some hs hf).1
      | none =>
        -- without a candidate only a free channel becomes one
        cases hc : (s.considerFrames frames).pendingChannel with
        | none => rfl
        | some c =>
          rcases considerFrames_pending hc with hpending | ⟨after, hfree, -⟩
          · rw [hs] at hpending
            cases hpending
          · exact absurd (hused c (.inl hs) hfree.1) hfree.2
    · exact .inl (.inl hf)
  · exact hsame hpending

theorem Barren.step {op : ChannelOp} (h : (s.looked op).Barren) : (s.step op).1.Barren := by
  obtain ⟨-, hpending, hclients, -⟩ := step_keeps s op
  rcases h with hclosed | hused
  · exact .inl hclosed.step
  · refine .inr fun x hx ha => ?_
    rw [hclients]
    rw [hpending] at hx
    exact hused x hx ha

/-- What every call keeps, kept from a call to a later one. -/
theorem looked_later {P : ChannelSession → Prop}
    (hlooked : ∀ {s : ChannelSession}, P s → ∀ op, P (s.looked op))
    (hstep : ∀ {s : ChannelSession} {op : ChannelOp}, P (s.looked op) → P (s.step op).1)
    {j k : ℕ} {op op' : ChannelOp} (hj : l[j]? = some op) (hk : l[k]? = some op') (hjk : j ≤ k)
    (h : P ((sessionAt nonce l j).looked op)) : P ((sessionAt nonce l k).looked op') := by
  rcases Nat.eq_or_lt_of_le hjk with rfl | hlt
  · obtain rfl : op = op' := Option.some.inj (hj.symm.trans hk)
    exact h
  · have hnext : P (sessionAt nonce l (j + 1)) := by
      have hsucc : sessionAt nonce l (j + 1) = ((sessionAt nonce l j).step op).1 :=
        (channelMachine nonce).stateAt_succ hj
      rw [hsucc]
      exact hstep h
    refine hlooked ((channelMachine nonce).stateAt_invariant_from (P := P) hnext ?_ k hlt) op'
    exact fun s op hs => hstep (hlooked hs op)

/-- An acknowledgement is only returned by a session that is not barren. -/
theorem Replied.not_barren {k : ℕ} {frames : List Frame} {t : ℚ} {response : Frame}
    {op : ChannelOp} (h : Replied nonce l k frames t response) (htype : response.messageType = 3)
    (hop : l[k]? = some op) : ¬ ((sessionAt nonce l k).looked op).Barren := by
  obtain ⟨frame, -, hf, ha⟩ := h.answers
  obtain ⟨r, x, -, -, hx, hacked, -, hfree, -⟩ := ha.of_ack htype
  obtain ⟨send, hreply, -⟩ := h
  obtain rfl : op = .reply frames t send := Option.some.inj (hop.symm.trans hreply)
  have hassignable := (((history nonce l k).reply hreply).pending x hx hf).2
  rintro ((hfailed | hdone) | hused)
  · exact hfailed hf
  · exact absurd (hdone.symm.trans hacked) (by decide)
  · exact hfree (hused x (.inr hx) hassignable)

theorem neverAcks_of_barren {op : ChannelOp} (hop : l[n]? = some op)
    (h : ((sessionAt nonce l n).looked op).Barren) : NeverAcks nonce l n := by
  intro l' k frames t response htake hk hreplied htype
  have hget : l'[n]? = some op := by
    rw [← hop, ← List.getElem?_take_of_lt (Nat.lt_succ_self n), htake,
      List.getElem?_take_of_lt (Nat.lt_succ_self n)]
  have hsession : sessionAt nonce l' n = sessionAt nonce l n := by
    have hshort : l'.take n = l.take n := by
      have h := congrArg (List.take n) htake
      rwa [List.take_take, List.take_take, Nat.min_eq_left (Nat.le_succ n)] at h
    rw [sessionAt, sessionAt, Machine.stateAt, Machine.stateAt, hshort]
  rw [← hsession] at h
  obtain ⟨send, hreply, hout⟩ := hreplied
  exact Replied.not_barren ⟨send, hreply, hout⟩ htype hreply
    (looked_later Barren.looked Barren.step hget hreply hk h)

/-! ### Noticed conflicts -/

theorem sessionAt_nonce (nonce : Nonce) (l : List ChannelOp) (n : ℕ) :
    (sessionAt nonce l n).nonce = nonce := (history nonce l n).same

/-- A session that is closed or has taken `x`. -/
def Took (x : UInt8) (s : ChannelSession) : Prop := s.Closed ∨ s.pendingChannel = some x

theorem Took.looked (h : s.Took x) (op : ChannelOp) : (s.looked op).Took x := by
  rcases h with hclosed | hx
  · exact .inl (hclosed.looked op)
  rcases looked_case s op with ⟨frames, -, -, -, heq⟩ | ⟨hpending, -⟩
  · by_cases hf : (s.looked op).failure = none
    · refine .inr ?_
      rw [heq] at hf ⊢
      exact (considerFrames_of_some hx hf).1
    · exact .inl (.inl hf)
  · exact .inr (hpending.trans hx)

theorem Took.step {op : ChannelOp} (h : (s.looked op).Took x) : (s.step op).1.Took x := by
  obtain ⟨-, hpending, -, -⟩ := step_keeps s op
  rcases h with hclosed | hx
  · exact .inl hclosed.step
  · exact .inr (hpending.trans hx)

/-- A batch with an offer that can be taken closes the session, or it has taken the channel
    and no offer behind it names another. -/
theorem LooksAt.named {op : ChannelOp} {before after : List Frame} (hnonce : s.nonce = nonce)
    (hfree : s.Eligible x) (h : s.LooksAt op (before ++ .assignment x nonce :: after)) :
    (s.looked op).Closed ∨ (s.looked op).pendingChannel = some x ∧
      ∀ y, .assignment y nonce ∈ after → y = x := by
  subst hnonce
  by_cases hclosed : s.Closed
  · exact .inl (hclosed.looked op)
  obtain ⟨hf, ha⟩ := not_or.mp hclosed
  have heq := h.looked (not_not.mp hf) (Bool.eq_false_iff.mpr ha)
  rw [heq]
  by_cases hf' : (s.considerFrames (before ++ .assignment x s.nonce :: after)).failure = none
  · obtain ⟨hx, hall⟩ := considerFrames_named hfree hf'
    exact .inr ⟨hx, fun y hy => hall _ hy (Frame.correlated_iff.mpr rfl)⟩
  · exact .inl (.inl hf')

/-- With a candidate, an offer of another channel closes the session. -/
theorem LooksAt.disputed {op : ChannelOp} {frames : List Frame} {y : UInt8} (hnonce : s.nonce = nonce)
    (h : s.LooksAt op frames) (hx : s.Took x) (hy : .assignment y nonce ∈ frames) (hne : x ≠ y) :
    (s.looked op).Closed := by
  subst hnonce
  rcases hx with hclosed | hx
  · exact hclosed.looked op
  by_cases hclosed : s.Closed
  · exact hclosed.looked op
  obtain ⟨hf, ha⟩ := not_or.mp hclosed
  rw [h.looked (not_not.mp hf) (Bool.eq_false_iff.mpr ha)]
  refine .inl fun hf' => hne ?_
  exact ((considerFrames_of_some hx hf').2 _ hy (Frame.correlated_iff.mpr rfl)).symm

/-- A noticed conflict closes the session. -/
theorem Noticed.closed {op : ChannelOp} (hop : l[n]? = some op) (h : Noticed nonce l (n + 1)) :
    ((sessionAt nonce l n).looked op).Closed := by
  obtain ⟨x, y, j, after, hne, hj, ⟨before, ⟨opj, hopj, hlooks⟩, hfree⟩, hy⟩ := h
  rcases hlooks.named (sessionAt_nonce nonce l j) hfree with hclosed | ⟨hx, hnamed⟩
  · exact looked_later Closed.looked Closed.step hopj hop (by omega) hclosed
  rcases hy with hy | ⟨k, frames, hjk, hk, ⟨opk, hopk, hlooksk⟩, hy⟩
  · exact absurd (hnamed y hy).symm hne
  · have htook : (sessionAt nonce l k).Took x := by
      have hsucc : sessionAt nonce l (j + 1) = ((sessionAt nonce l j).step opj).1 :=
        (channelMachine nonce).stateAt_succ hopj
      have hnext : (sessionAt nonce l (j + 1)).Took x := by
        rw [hsucc]
        exact Took.step (.inr hx)
      exact (channelMachine nonce).stateAt_invariant_from (P := Took x) hnext
        (fun s op hs => (hs.looked op).step) k hjk
    exact looked_later Closed.looked Closed.step hopk hop (by omega)
      (hlooksk.disputed (sessionAt_nonce nonce l k) htook hy hne)

/-! ### Where a candidate and a conflict come from -/

/-- The candidate was offered when it could be taken, and a conflict was noticed. -/
structure Remembers (nonce : Nonce) (l : List ChannelOp) (n : ℕ) (s : ChannelSession) : Prop where
  candidate : ∀ x, s.pendingChannel = some x → ∃ j after, j < n ∧ Offered nonce l j x after
  conflict : s.failure = some .conflicting → Noticed nonce l n

theorem Noticed.mono {m : ℕ} (h : Noticed nonce l n) (hnm : n ≤ m) : Noticed nonce l m := by
  obtain ⟨x, y, j, after, hne, hj, hoffered, hy⟩ := h
  refine ⟨x, y, j, after, hne, by omega, hoffered, hy.imp_right ?_⟩
  rintro ⟨k, frames, hjk, hk, hrest⟩
  exact ⟨k, frames, hjk, by omega, hrest⟩

/-- One call. -/
theorem Remembers.looked {op : ChannelOp} (hop : l[n]? = some op)
    (h : Remembers nonce l n (sessionAt nonce l n)) :
    Remembers nonce l (n + 1) ((sessionAt nonce l n).looked op) := by
  have hnonce := sessionAt_nonce nonce l n
  have hold : ∀ x, (sessionAt nonce l n).pendingChannel = some x →
      ∃ j after, j < n + 1 ∧ Offered nonce l j x after := by
    intro x hx
    obtain ⟨j, after, hj, hoffered⟩ := h.candidate x hx
    exact ⟨j, after, by omega, hoffered⟩
  rcases looked_case (sessionAt nonce l n) op with ⟨frames, hlooks, hf, -, heq⟩ | ⟨hpending, hfailure⟩
  · have hnow : ∀ {x after}, (sessionAt nonce l n).Offers frames x after →
        Offered nonce l n x after := by
      rintro x after ⟨hfree, before, hframes⟩
      rw [hnonce] at hframes
      subst hframes
      exact ⟨before, ⟨op, hop, hlooks⟩, hfree⟩
    constructor
    · intro x hx
      rw [heq] at hx
      rcases considerFrames_pending hx with hx | ⟨after, hoffers⟩
      · exact hold x hx
      · exact ⟨n, after, Nat.lt_succ_self n, hnow hoffers⟩
    · intro hconflict
      rw [heq] at hconflict
      obtain ⟨x, y, hne, ⟨hx, hy⟩ | ⟨after, hoffers, hy⟩⟩ :=
        considerFrames_conflict hf (by rw [hconflict]; simp)
      · obtain ⟨j, after, hj, hoffered⟩ := h.candidate x hx
        rw [hnonce] at hy
        exact ⟨x, y, j, after, hne, by omega, hoffered,
          .inr ⟨n, frames, hj, Nat.lt_succ_self n, ⟨op, hop, hlooks⟩, hy⟩⟩
      · rw [hnonce] at hy
        exact ⟨x, y, n, after, hne, Nat.lt_succ_self n, hnow hoffers, .inl hy⟩
  · constructor
    · intro x hx
      exact hold x (hpending.symm.trans hx)
    · intro hconflict
      rcases hfailure with hsame | hother
      · exact (h.conflict (hsame.symm.trans hconflict)).mono (Nat.le_succ n)
      · exact absurd hconflict hother

theorem remembers (nonce : Nonce) (l : List ChannelOp) (n : ℕ) :
    Remembers nonce l n (sessionAt nonce l n) := by
  induction n with
  | zero => exact ⟨by simp [sessionAt, channelMachine], by simp [sessionAt, channelMachine]⟩
  | succ n ih =>
    cases hop : l[n]? with
    | none =>
      have hstay : sessionAt nonce l (n + 1) = sessionAt nonce l n :=
        (channelMachine nonce).stateAt_succ_none hop
      rw [hstay]
      refine ⟨fun x hx => ?_, fun hf => (ih.conflict hf).mono (Nat.le_succ n)⟩
      obtain ⟨j, after, hj, hoffered⟩ := ih.candidate x hx
      exact ⟨j, after, by omega, hoffered⟩
    | some op =>
      have hnext : sessionAt nonce l (n + 1) = ((sessionAt nonce l n).step op).1 :=
        (channelMachine nonce).stateAt_succ hop
      obtain ⟨hfailure, hpending, -, -⟩ := step_keeps (sessionAt nonce l n) op
      have hlooked := ih.looked hop
      rw [hnext]
      exact ⟨fun x hx => hlooked.candidate x (hpending.symm.trans hx),
        fun hf => hlooked.conflict (hfailure.symm.trans hf)⟩

/-! ### After a conflict -/

/-- An open session acknowledges the offer of a channel it can take. -/
theorem reply_ack {r : ℚ} (hf : s.failure = none) (ha : s.acked = false)
    (hr : s.requestedAt = some r) (hfree : s.Eligible x)
    (hx : s.pendingChannel = none ∨ s.pendingChannel = some x) :
    (s.reply [.assignment x s.nonce] r).2 = some (.channelAck x) := by
  have hw : inWindow r r := by simp [inWindow]
  have hlooked : s.considerAssignments [.assignment x s.nonce] r =
      { s with pendingChannel := some x } := by
    rcases considerAssignments_eq s [.assignment x s.nonce] r with ⟨-, heq⟩ | ⟨hno, -⟩
    · rw [heq, considerFrames_cons_taken [] (Frame.correlated_iff.mpr rfl) hx hfree]
      rfl
    · exact absurd ⟨hf, ha, r, hr, hw⟩ hno
  simp [reply, hlooked, answer, hf, ha, hr, hw, hfree.2]

/-- A call of an open session that has sent its request returns an acknowledgement, or
    sends nothing. -/
theorem step_open {op : ChannelOp} {r : ℚ} (ha : (s.looked op).acked = false)
    (hr : (s.looked op).requestedAt = some r) :
    (s.step op).1 = s.looked op ∨ ∃ frames t response, op = .reply frames t true ∧
      (s.reply frames t).2 = some response ∧ response.messageType = 3 := by
  refine (step_looked s op).imp_right ?_
  rintro ⟨frames, t, response, rfl, hresponse, -⟩
  refine ⟨frames, t, response, rfl, hresponse, ?_⟩
  obtain ⟨frame, -, -, hanswers⟩ := reply_some hresponse
  change (s.considerAssignments frames t).acked = false at ha
  change (s.considerAssignments frames t).requestedAt = some r at hr
  cases hanswers with
  | probe hacked =>
    rw [ha] at hacked
    cases hacked
  | request hnone =>
    rw [hr] at hnone
    cases hnone
  | ack => rfl

/-- **After a conflict no acknowledgement is ever returned if and only if the conflict was
    noticed**: an offer that could be taken came before one of another channel, or the
    session is spent. -/
theorem conflict_closes (nonce : Nonce) (l : List ChannelOp) (n : ℕ) (op : ChannelOp)
    (hop : l[n]? = some op) (hconflict : Conflicted nonce l (n + 1)) :
    NeverAcks nonce l n ↔ Noticed nonce l (n + 1) ∨ ((sessionAt nonce l n).looked op).Spent := by
  constructor
  · intro hnever
    by_contra hcond
    obtain ⟨hunnoticed, hspent⟩ := not_or.mp hcond
    obtain ⟨hacked, hother, hfree⟩ : ((sessionAt nonce l n).looked op).acked ≠ true ∧
        ¬ (((sessionAt nonce l n).looked op).failure ≠ none ∧
          ((sessionAt nonce l n).looked op).failure ≠ some .conflicting) ∧ _ := by
      rwa [Spent, not_or, not_or] at hspent
    push Not at hfree
    obtain ⟨x, hx, hassignable, hunused⟩ := hfree
    have ha := Bool.eq_false_iff.mpr hacked
    -- the session has not failed: it would have noticed the conflict
    have hf : ((sessionAt nonce l n).looked op).failure = none := by
      by_contra hne
      by_cases hc : ((sessionAt nonce l n).looked op).failure = some .conflicting
      · exact hunnoticed (((remembers nonce l n).looked hop).conflict hc)
      · exact hother ⟨hne, hc⟩
    -- its request is still open
    obtain ⟨r, hr⟩ : ∃ r, ((sessionAt nonce l n).looked op).requestedAt = some r := by
      obtain ⟨-, -, j, -, -, -, -, hj, -, ⟨opj, hopj, r, -, hrequested, -⟩, -⟩ := hconflict
      have hset := (channelMachine nonce).stateAt_invariant_from
        (P := fun s => s.requestedAt ≠ none) (l := l) (m := j)
        (show (sessionAt nonce l j).requestedAt ≠ none by rw [hrequested]; simp)
        (fun s op => (step_mono s op).1) n (by omega)
      rw [(looked_mono _ op).2.1]
      exact Option.ne_none_iff_exists'.mp hset
    rcases step_open ha hr with hstep | ⟨frames, t, response, rfl, hresponse, htype⟩
    · -- the next call offers a free channel
      have htake : (l.take (n + 1)).length = n + 1 := by
        have hlt : n < l.length := (List.getElem?_eq_some_iff.mp hop).1
        rw [List.length_take]
        omega
      set l' := l.take (n + 1) ++ [.reply [.assignment x nonce] r false] with hl'
      have hprefix : l'.take (n + 1) = l.take (n + 1) := by
        rw [hl', List.take_left' htake]
      have hget : l'[n + 1]? = some (.reply [.assignment x nonce] r false) := by
        rw [hl', List.getElem?_append_right htake.le, htake]
        simp
      have hsession : sessionAt nonce l' (n + 1) = (sessionAt nonce l n).looked op := by
        rw [sessionAt, Machine.stateAt, hprefix]
        show (channelMachine nonce).stateAt l (n + 1) = _
        rw [(channelMachine nonce).stateAt_succ hop]
        exact hstep
      have hack := reply_ack hf ha hr ⟨hassignable, hunused⟩ hx
      rw [← hsession, sessionAt_nonce] at hack
      refine hnever l' (n + 1) _ r (.channelAck x) hprefix (Nat.le_succ n) ⟨false, hget, ?_⟩ rfl
      rw [(channelMachine nonce).outAt_eq hget]
      show some (step (sessionAt nonce l' (n + 1)) _).2 = _
      simp [step, hack]
    · -- the call itself returns it
      refine hnever l n frames t response rfl le_rfl ⟨true, hop, ?_⟩ htype
      rw [(channelMachine nonce).outAt_eq hop]
      show some (step (sessionAt nonce l n) _).2 = _
      simp [step, hresponse]
  · rintro (hnoticed | hacked | ⟨hfailed, -⟩ | hused)
    · exact neverAcks_of_barren hop (.inl (hnoticed.closed hop))
    · exact neverAcks_of_barren hop (.inl (.inr hacked))
    · exact neverAcks_of_barren hop (.inl (.inl hfailed))
    · exact neverAcks_of_barren hop (.inr hused)

/-- A request, and the offers of two channels in one batch. -/
def offersRun (first second : UInt8) : List ChannelOp :=
  [.reply [.bare 254 191 0] 0 true,
    .consider [.assignment first ⟨0xEE, 0x14⟩, .assignment second ⟨0xEE, 0x14⟩] 1]

theorem offersRun_considered (first second : UInt8) :
    Considered ⟨0xEE, 0x14⟩ (offersRun first second) 1
      [.assignment first ⟨0xEE, 0x14⟩, .assignment second ⟨0xEE, 0x14⟩] :=
  ⟨_, rfl, 0, 1, rfl, by decide +kernel, .inl rfl⟩

theorem offersRun_conflicted {first second : UInt8} (h : first ≠ second) :
    Conflicted ⟨0xEE, 0x14⟩ (offersRun first second) 2 :=
  ⟨first, second, 1, 1, _, _, h, by decide, by decide, offersRun_considered first second,
    offersRun_considered first second, by simp, by simp⟩

theorem conflict_closes_sample : NeverAcks ⟨0xEE, 0x14⟩ (offersRun 18 48) 1 :=
  (conflict_closes _ _ 1 _ rfl (offersRun_conflicted (by decide))).mpr
    (.inl ⟨18, 48, 1, _, by decide, by decide,
      ⟨[], offersRun_considered 18 48, by decide +kernel, by decide +kernel⟩, .inl (by simp)⟩)

/-- The same offers the other way round: the first one cannot be taken and is forgotten, and
    a CTS for the second one is acknowledged. -/
theorem conflict_unnoticed :
    ¬ ∀ (nonce : Nonce) (l : List ChannelOp) (n : ℕ), Conflicted nonce l (n + 1) →
      NeverAcks nonce l n := by
  intro h
  let l' := offersRun 48 18 ++ [.reply [.cts 18] (3 / 2) true]
  have hreplied : Replied ⟨0xEE, 0x14⟩ l' 2 [.cts 18] (3 / 2) (.channelAck 18) :=
    ⟨true, rfl, by decide +kernel⟩
  exact h ⟨0xEE, 0x14⟩ (offersRun 48 18) 1 (offersRun_conflicted (by decide)) l' 2 _ _ _ rfl
    (by decide) hreplied rfl

end ChannelSession

end BalboaRs485
