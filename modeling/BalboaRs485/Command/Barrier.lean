import BalboaRs485.Command.Step

/-!
# The resynchronization barrier

A transaction whose outcome is unknown may have toggled the spa or not. This
module states what the engine waits for after such an end, over runs of
`engineMachine`:

* `Barred`: what holds of the engine while it waits. The candidate for a settled
  observation, if there is one, was accepted after the end, and every available
  observation accepted since shows the same values.
* `Barred.settle`: an accepted observation keeps the engine waiting, or is the
  second of two that settle the state.
* `no_action_before_settled`: until then `next_action` returns no action, and
  afterwards none of the ambiguous epoch.
-/

namespace BalboaRs485

namespace Engine

variable {cfg : EngineConfig} {ops : List EngineOp}

/-! ## Positions of a run -/

/-- The engine after the first `n` calls. -/
abbrev engineAt (cfg : EngineConfig) (ops : List EngineOp) (n : ℕ) : Engine :=
  (engineMachine cfg).stateAt ops n

/-- Call `j` makes `o` the current observation. -/
def Accepts (cfg : EngineConfig) (ops : List EngineOp) (j : ℕ) (o : SpaState) : Prop :=
  ∃ op, ops[j]? = some op ∧ (engineAt cfg ops j).accepted op = some o

/-- One of the first `n` calls is a request for `control` that succeeds. -/
def Requested (cfg : EngineConfig) (ops : List EngineOp) (n : ℕ) (control : Control) : Prop :=
  ∃ m, m < n ∧ ∃ r item, ops[m]? = some (.request r) ∧ r.control = control ∧
    (engineMachine cfg).outAt ops m = some (.requested (.ok item))

/-- Call `i` ends the transaction `pending` without confirmation: its record is
    closed because of the confirmation timeout or the lost connection. -/
def EndsAmbiguously (cfg : EngineConfig) (ops : List EngineOp) (i : ℕ) (pending : Transaction) :
    Prop :=
  (engineAt cfg ops i).inflight = some pending ∧ (engineAt cfg ops (i + 1)).inflight = none ∧
    ∃ record, (engineAt cfg ops (i + 1)).history.items.getLast? = some record ∧
      Ambiguous pending record

/-- The calls `j₁` and `j₂`, from `i` on, accept two observations that settle the
    state after epoch `e` became ambiguous. -/
structure Settles (cfg : EngineConfig) (ops : List EngineOp) (i e j₁ j₂ : ℕ) (o₁ o₂ : SpaState) :
    Prop where
  after : i ≤ j₁
  order : j₁ < j₂
  first : Accepts cfg ops j₁ o₁
  second : Accepts cfg ops j₂ o₂
  available : o₁.available = true ∧ o₂.available = true
  epoch : o₁.epoch = o₂.epoch ∧ e < o₁.epoch
  sequence : o₁.sequence < o₂.sequence
  apart : cfg.resyncSettle ≤ o₂.observedAt - o₁.observedAt
  agree : ∀ j o, j₁ ≤ j → j ≤ j₂ → Accepts cfg ops j o → o.available = true →
    ∀ control, Requested cfg ops j₂ control →
      (o.value control).map Value.norm = (o₁.value control).map Value.norm

theorem engineAt_succ {n : ℕ} {op : EngineOp} (h : ops[n]? = some op) :
    engineAt cfg ops (n + 1) = ((engineAt cfg ops n).step cfg op).1 :=
  (engineMachine cfg).stateAt_succ h

/-- Only `next_action` hands out actions. -/
theorem outAt_action {n : ℕ} {action : Action}
    (h : (engineMachine cfg).outAt ops n = some (.action (some action))) :
    ∃ now, ops[n]? = some (.nextAction now) ∧
      ((engineAt cfg ops n).nextAction cfg now).1 = some action := by
  obtain ⟨op, hop, hout⟩ := (engineMachine cfg).outAt_eq_some.mp h
  cases op with
  | nextAction now => exact ⟨now, hop, by simpa [step] using hout⟩
  | _ => simp [step] at hout

/-- Only `request` returns goals. -/
theorem outAt_requested {n : ℕ} {item : Intent}
    (h : (engineMachine cfg).outAt ops n = some (.requested (.ok item))) :
    ∃ r, ops[n]? = some (.request r) ∧ ((engineAt cfg ops n).request cfg r).1 = .ok item := by
  obtain ⟨op, hop, hout⟩ := (engineMachine cfg).outAt_eq_some.mp h
  cases op with
  | request r => exact ⟨r, hop, by simpa [step] using hout⟩
  | _ => simp [step] at hout

/-- The output of a receipt that is accepted. -/
theorem outAt_receipt {n : ℕ} {action : Action} {at_ : ℚ} {ctsAt : Option ℚ}
    (hop : ops[n]? = some (.sent action at_ ctsAt)) :
    (engineMachine cfg).outAt ops n = some (.receipt (.ok ())) ↔
      ((engineAt cfg ops n).sent cfg action at_ ctsAt).1 = .ok () := by
  rw [(engineMachine cfg).outAt_eq hop]
  simp [step]

/-- The goals of the engine only gain controls. -/
theorem keys_mono (cfg : EngineConfig) (ops : List EngineOp) {m n : ℕ} (h : m ≤ n) :
    (engineAt cfg ops m).latest.keys <+: (engineAt cfg ops n).latest.keys :=
  (engineMachine cfg).stateAt_invariant_from
    (P := fun s => (engineAt cfg ops m).latest.keys <+: s.latest.keys) List.prefix_rfl
    (fun s op ih => ih.trans (step_keys cfg s op)) n h

/-- What has been observed is never undercut. -/
theorem precedes_mono {m n : ℕ} {o : SpaState} (ho : (engineAt cfg ops m).state = some o)
    (h : m ≤ n) : ∃ o', (engineAt cfg ops n).state = some o' ∧ Precedes o o' := by
  refine (engineMachine cfg).stateAt_invariant_from
    (P := fun s => ∃ o', s.state = some o' ∧ Precedes o o') ⟨o, ho, .refl o⟩ ?_ n h
  rintro s op ⟨o', ho', hp⟩
  obtain ⟨o'', ho'', hp'⟩ := step_precedes cfg op ho'
  exact ⟨o'', ho'', hp.trans hp'⟩

theorem Accepts.state {j : ℕ} {o : SpaState} (h : Accepts cfg ops j o) :
    (engineAt cfg ops (j + 1)).state = some o := by
  obtain ⟨op, hop, ha⟩ := h
  rw [engineAt_succ hop]
  exact (step_accepted cfg ha).1

theorem Accepts.unique {j : ℕ} {o o' : SpaState} (h : Accepts cfg ops j o)
    (h' : Accepts cfg ops j o') : o = o' :=
  Option.some.inj (h.state.symm.trans h'.state)

/-- A control that was requested is among the goals. -/
theorem Requested.mem_keys {n : ℕ} {control : Control} (h : Requested cfg ops n control) :
    control ∈ (engineAt cfg ops n).latest.keys := by
  obtain ⟨m, hmn, r, item, hop, rfl, hout⟩ := h
  refine (keys_mono cfg ops hmn).subset ?_
  obtain ⟨r', hop', hok⟩ := outAt_requested hout
  rw [hop] at hop'
  cases hop'
  rw [engineAt_succ hop]
  show r.control ∈ ((engineAt cfg ops m).request cfg r).2.latest.keys
  rw [(request_new hok).2.2, Dict.keys_set]
  split
  · assumption
  · exact List.mem_append_right _ (List.mem_singleton_self _)

theorem sameValues_iff {a b : List (Option Value)} :
    sameValues a b = true ↔ a.map (Option.map Value.norm) = b.map (Option.map Value.norm) := by
  simp [sameValues]

/-! ## Waiting -/

/-- The candidate `c` was taken from an observation that one of the calls `i … n-1`
    accepted, and every available observation accepted since shows its values. -/
structure Candidate (cfg : EngineConfig) (ops : List EngineOp) (i n : ℕ) (c : Settling)
    (j : ℕ) (o : SpaState) : Prop where
  after : i ≤ j
  before : j < n
  accepted : Accepts cfg ops j o
  available : o.available = true
  eq : c = ⟨(engineAt cfg ops j).latest.keys.map o.value, o.observedAt, o.sequence, o.epoch⟩
  agree : ∀ m o', j ≤ m → m < n → Accepts cfg ops m o' → o'.available = true →
    sameValues c.values ((engineAt cfg ops m).latest.keys.map o'.value) = true

/-- The engine waits for a settled observation of an epoch after `e`. -/
def Barred (cfg : EngineConfig) (ops : List EngineOp) (i n e : ℕ) (s : Engine) : Prop :=
  ∃ r, s.resyncEpoch = some r ∧ e ≤ r ∧
    ∀ c, s.settling = some c → r < c.epoch ∧ ∃ j o, Candidate cfg ops i n c j o

/-- A candidate survives a call that accepts no available observation. -/
theorem Candidate.succ {i n j : ℕ} {c : Settling} {o : SpaState}
    (h : Candidate cfg ops i n c j o)
    (hn : ∀ o', Accepts cfg ops n o' → o'.available = true →
      sameValues c.values ((engineAt cfg ops n).latest.keys.map o'.value) = true) :
    Candidate cfg ops i (n + 1) c j o where
  after := h.after
  before := h.before.trans (Nat.lt_succ_self n)
  accepted := h.accepted
  available := h.available
  eq := h.eq
  agree m o' hjm hmn ha hav := by
    rcases Nat.lt_succ_iff_lt_or_eq.mp hmn with hlt | rfl
    · exact h.agree m o' hjm hlt ha hav
    · exact hn o' ha hav

/-- The candidate's epoch has been reached. -/
theorem Candidate.epoch_le {i n j : ℕ} {c : Settling} {o o' : SpaState}
    (h : Candidate cfg ops i n c j o) (ho : (engineAt cfg ops n).state = some o') :
    c.epoch ≤ o'.epoch := by
  obtain ⟨o'', ho'', hp⟩ := precedes_mono h.accepted.state h.before
  rw [ho] at ho''; cases ho''
  rw [h.eq]
  exact hp.epoch_le

/-- Raising the barrier again does not lower its epoch. -/
theorem Barred.raised {i n e : ℕ} {s s' : Engine} (h : Barred cfg ops i n e s)
    (hf : ∀ pending, s.inflight = some pending → e ≤ pending.action.epoch) (hr : Raised s s') :
    Barred cfg ops i n e s' := by
  obtain ⟨r, hres, her, hc⟩ := h
  rcases hr with ⟨h1, h2⟩ | ⟨pending, hp, h1, h2⟩
  · exact ⟨r, h1.trans hres, her, by rwa [h2]⟩
  · exact ⟨_, h1, hf pending hp, by simp [h2]⟩

/-- The values of two observations that settle agree on every control requested
    so far: the compared lists of controls have grown from one to the other, and
    lists of equal values have equal lengths. -/
theorem Candidate.settles {i n j e r : ℕ} {c : Settling} {o o₂ : SpaState}
    (h : Candidate cfg ops i n c j o) (her : e ≤ r) (hr : r < c.epoch)
    (ha : Accepts cfg ops n o₂) (hav : o₂.available = true)
    (hv : sameValues c.values ((engineAt cfg ops n).latest.keys.map o₂.value) = true)
    (he : c.epoch = o₂.epoch) (hs : c.sequence < o₂.sequence)
    (ht : cfg.resyncSettle ≤ o₂.observedAt - c.observedAt) :
    Settles cfg ops i e j n o o₂ where
  after := h.after
  order := h.before
  first := h.accepted
  second := ha
  available := ⟨h.available, hav⟩
  epoch := by
    rw [h.eq] at he hr
    exact ⟨he, her.trans_lt hr⟩
  sequence := by rwa [h.eq] at hs
  apart := by rwa [h.eq] at ht
  agree m o' hjm hmn hm hav' control hreq := by
    have hvals : c.values = (engineAt cfg ops j).latest.keys.map o.value := by rw [h.eq]
    have hvm : sameValues c.values ((engineAt cfg ops m).latest.keys.map o'.value) = true := by
      rcases hmn.lt_or_eq with hlt | rfl
      · exact h.agree m o' hjm hlt hm hav'
      · obtain rfl := hm.unique ha
        exact hv
    -- all three lists of controls are the same
    have hlen : ∀ {b : List Control} {f : Control → Option Value},
        sameValues c.values (b.map f) = true →
        (engineAt cfg ops j).latest.keys.length = b.length := by
      intro b f hb
      simpa [hvals] using congrArg List.length (sameValues_iff.mp hb)
    have hkm := (keys_mono cfg ops hjm).eq_of_length (hlen hvm)
    have hkn := (keys_mono cfg ops (hjm.trans hmn)).eq_of_length (hlen hv)
    have hmem : control ∈ (engineAt cfg ops j).latest.keys := by
      rw [hkn]; exact hreq.mem_keys
    have heq := sameValues_iff.mp hvm
    rw [hvals, ← hkm, List.map_map, List.map_map, List.map_inj_left] at heq
    exact (heq control hmem).symm

/-- **An accepted observation** keeps the engine waiting, or settles the state
    together with an earlier one. -/
theorem Barred.settle {i n e : ℕ} {s s₁ : Engine} {o : SpaState} {b : Bool} (hin : i ≤ n)
    (h : Barred cfg ops i n e s) (hkeys : s.latest = (engineAt cfg ops n).latest)
    (hn : ∀ c j o', Candidate cfg ops i n c j o' → c.epoch ≤ o.epoch)
    (ha : Accepts cfg ops n o) (hcase : SettleCase cfg s o b s₁) :
    Barred cfg ops i (n + 1) e s₁ ∨ ∃ j₁ o₁, Settles cfg ops i e j₁ n o₁ o := by
  obtain ⟨r, hres, her, hc⟩ := h
  cases hcase with
  | clear hnone => rw [hnone] at hres; cases hres
  | ignored resync hres' hi =>
    obtain rfl : r = resync := Option.some.inj (hres.symm.trans hres')
    refine Or.inl ⟨r, hres, her, fun c hset => ?_⟩
    obtain ⟨hlt, j, o', hcand⟩ := hc c hset
    refine ⟨hlt, j, o', hcand.succ fun o'' ha'' hav => ?_⟩
    -- the candidate's epoch has been reached, so the observation is unavailable
    obtain rfl := ha.unique ha''
    rcases hi with hle | hno
    · exact absurd (hlt.trans_le (hn c j o' hcand)) (not_lt.mpr hle)
    · rw [hno] at hav; cases hav
  | restarted resync hres' he hav =>
    obtain rfl : r = resync := Option.some.inj (hres.symm.trans hres')
    refine Or.inl ⟨r, hres, her, fun c hset => ?_⟩
    obtain rfl := Option.some.inj hset
    refine ⟨he, n, o, ⟨hin, Nat.lt_succ_self n, ha, hav, by rw [hkeys], ?_⟩⟩
    intro m o' hnm hmn hm _
    obtain rfl : m = n := by omega
    obtain rfl := hm.unique ha
    rw [hkeys]
    exact sameValues_iff.mpr rfl
  | waiting resync previous hres' he hav hp hv hpe =>
    obtain rfl : r = resync := Option.some.inj (hres.symm.trans hres')
    refine Or.inl ⟨r, hres, her, fun c hset => ?_⟩
    obtain rfl := Option.some.inj (hset.symm.trans hp)
    obtain ⟨hlt, j, o', hcand⟩ := hc c hset
    refine ⟨hlt, j, o', hcand.succ fun o'' ha'' _ => ?_⟩
    obtain rfl := ha.unique ha''
    rwa [hkeys] at hv
  | released resync previous hres' he hav hp hv hpe ht hs =>
    obtain rfl : r = resync := Option.some.inj (hres.symm.trans hres')
    obtain ⟨hlt, j, o', hcand⟩ := hc previous hp
    rw [hkeys] at hv
    exact Or.inr ⟨j, o', hcand.settles her hlt ha hav hv hpe hs ht⟩

/-! ## Runs -/

/-- Where a run stands after `n` calls, once call `i` has left epoch `e` ambiguous:
    it waits, or its state has settled. -/
def Standing (cfg : EngineConfig) (ops : List EngineOp) (i e n : ℕ) : Prop :=
  (Barred cfg ops i n e (engineAt cfg ops n) ∧
      ∀ pending, (engineAt cfg ops n).inflight = some pending → e ≤ pending.action.epoch) ∨
    ∃ j₁ j₂ o₁ o₂, j₂ < n ∧ Settles cfg ops i e j₁ j₂ o₁ o₂

/-- The barrier behind an accepted observation is the one `settle` leaves. -/
theorem step_accepted_settle (cfg : EngineConfig) {s : Engine} {op : EngineOp} {o : SpaState}
    (h : s.accepted op = some o) :
    ∃ now b s₁, op = .observe o now ∧ s.stale o = false ∧
      SettleCase cfg (s.arrive cfg o now) o b s₁ ∧
      (s.step cfg op).1.resyncEpoch = s₁.resyncEpoch ∧
      (s.step cfg op).1.settling = s₁.settling := by
  have hcase := step_case cfg s op
  generalize (s.step cfg op).1 = s' at hcase
  cases hcase with
  | ticked ha => rw [ha] at h; cases h
  | requested | lost | lostFlight | sent => cases h
  | @unsettled o' now _ hs hc =>
    obtain rfl := accepted_observe hs h
    exact ⟨now, _, _, rfl, hs, hc, rfl, rfl⟩
  | @settled o' now s₁ _ hs hc hs' =>
    obtain rfl := accepted_observe hs h
    subst hs'
    obtain ⟨-, -, h1, h2, -⟩ := used_core cfg s₁ o' now
    exact ⟨now, _, _, rfl, hs, hc, h1, h2⟩

/-- `Barred` reads the barrier only. -/
theorem Barred.congr {i n e : ℕ} {s s' : Engine} (h : Barred cfg ops i n e s)
    (hr : s'.resyncEpoch = s.resyncEpoch) (hs : s'.settling = s.settling) :
    Barred cfg ops i n e s' := by
  rwa [Barred, hr, hs]

/-- An arriving observation is compared with a candidate of its past. -/
theorem Barred.arrive {i n e : ℕ} {op : EngineOp} {o : SpaState} {now : ℚ} {b : Bool}
    {s₁ : Engine} (hin : i ≤ n) (hop : ops[n]? = some op) (hop' : op = .observe o now)
    (hstale : (engineAt cfg ops n).stale o = false)
    (h : Barred cfg ops i n e ((engineAt cfg ops n).arrive cfg o now))
    (hcase : SettleCase cfg ((engineAt cfg ops n).arrive cfg o now) o b s₁) :
    Barred cfg ops i (n + 1) e s₁ ∨ ∃ j₁ o₁, Settles cfg ops i e j₁ n o₁ o := by
  have ha : Accepts cfg ops n o := ⟨op, hop, by subst hop'; simp [accepted, hstale]⟩
  refine h.settle hin (arrive_latest cfg _ o now) ?_ ha hcase
  intro c j o' hcand
  obtain ⟨old, hold, -⟩ := precedes_mono hcand.accepted.state hcand.before
  exact (hcand.epoch_le hold).trans (stale_eq_false hstale hold).1

/-- An observation that ends a transaction without confirming it does so on its arrival: a
    confirmation would have left another record. -/
theorem observe_ends {s : Engine} {o : SpaState} {now : ℚ} {pending record : Transaction}
    (ha : s.accepted (.observe o now) = some o) (hbefore : s.inflight = some pending)
    (hafter : (s.step cfg (.observe o now)).1.inflight = none)
    (hlast : (s.step cfg (.observe o now)).1.history.items.getLast? = some record)
    (hamb : Ambiguous pending record) : ∃ q, AmbiguousEnd s (s.arrive cfg o now) q := by
  obtain ⟨-, ⟨hsame, -⟩ | hq⟩ := arrive_core cfg s o now
  swap
  · exact hq
  exfalso
  have hcase := step_case cfg s (.observe o now)
  generalize (s.step cfg (.observe o now)).1 = s' at hcase hafter hlast
  cases hcase with
  | ticked hn =>
    rw [hn] at ha
    cases ha
  | unsettled _ hc =>
    rw [(settled_core hc).2.2.1, hsame.inflight, hbefore] at hafter
    cases hafter
  | @settled _ _ s₂ _ _ hc hs' =>
    subst hs'
    have hv := sameCore_verifyLatest (s₂.confirm cfg o now) o
    rw [hv.inflight] at hafter
    rw [hv.history] at hlast
    obtain hk | ⟨q, -, -, -, hhist, -⟩ := confirm_core cfg s₂ o now
    · rw [hk.inflight, (settled_core hc).2.2.1, hsame.inflight, hbefore] at hafter
      cases hafter
    · rw [hhist] at hlast
      by_cases hempty : s₂.history.items = []
      · simp [Deque.setLast, hempty] at hlast
      · rw [Deque.getLast?_setLast hempty] at hlast
        obtain rfl := Option.some.inj hlast
        obtain ⟨-, -, -, ⟨-, hreason⟩ | ⟨-, hreason⟩⟩ := hamb <;>
          (simp only [completion] at hreason; split at hreason <;> cases hreason)

/-- The run waits right after the transaction has ended. -/
theorem standing_of_end {i : ℕ} {pending : Transaction}
    (h : EndsAmbiguously cfg ops i pending) : Standing cfg ops i pending.action.epoch (i + 1) := by
  obtain ⟨hbefore, hafter, record, hlast, hamb⟩ := h
  cases hop : ops[i]? with
  | none =>
    rw [engineAt, (engineMachine cfg).stateAt_succ_none hop, hbefore] at hafter; cases hafter
  | some op =>
    rw [engineAt_succ hop] at hafter hlast
    have hflight : ∀ q, (engineAt cfg ops (i + 1)).inflight = some q →
        pending.action.epoch ≤ q.action.epoch := by
      intro q hq
      rw [engineAt_succ hop, hafter] at hq; cases hq
    -- the end raises the barrier for its epoch and drops the candidate
    have hraised : ∀ {s' q}, AmbiguousEnd (engineAt cfg ops i) s' q →
        Barred cfg ops i i pending.action.epoch s' ∧ s'.settling = none := by
      intro s' q hq
      obtain rfl := Option.some.inj (hbefore.symm.trans hq.before)
      exact ⟨⟨_, hq.resyncEpoch, le_rfl, by simp [hq.settling]⟩, hq.settling⟩
    cases ha : (engineAt cfg ops i).accepted op with
    | none =>
      refine Or.inl ⟨?_, hflight⟩
      rw [engineAt_succ hop]
      have hcase := step_case cfg (engineAt cfg ops i) op
      generalize ((engineAt cfg ops i).step cfg op).1 = s' at hcase hafter
      have hnot : ∀ {s₁ : Engine}, s₁.inflight = none → SameCore (engineAt cfg ops i) s₁ →
          False := by
        intro s₁ hn hs
        rw [hs.inflight, hbefore] at hn; cases hn
      have hb : ∀ {s₁ : Engine}, s₁.inflight = none → Ticked (engineAt cfg ops i) s₁ →
          Barred cfg ops i (i + 1) pending.action.epoch s₁ := by
        rintro s₁ hn ⟨-, ht | ⟨q, ht⟩⟩
        · exact (hnot hn ht).elim
        · obtain ⟨⟨r, h1, h2, -⟩, h3⟩ := hraised ht
          exact ⟨r, h1, h2, by simp [h3]⟩
      cases hcase with
      | ticked _ ht => exact hb hafter ht
      | requested ht _ _ _ _ _ hinflight _ hresync hsettling =>
        exact (hb (hinflight.symm.trans hafter) ht).congr hresync hsettling
      | lost _ hnone => rw [hnone] at hbefore; cases hbefore
      | lostFlight _ hq =>
        obtain ⟨⟨r, h1, h2, -⟩, h3⟩ := hraised hq
        exact ⟨r, h1, h2, by simp [h3]⟩
      | sent hnone => rw [hnone] at hbefore; cases hbefore
      | unsettled hs | settled hs => simp [accepted, hs] at ha
    | some o =>
      obtain ⟨now, b, s₁, hop', hstale, hcase, h1, h2⟩ := step_accepted_settle cfg ha
      obtain ⟨q, hq⟩ : ∃ q, AmbiguousEnd (engineAt cfg ops i)
          ((engineAt cfg ops i).arrive cfg o now) q := by
        subst hop'
        exact observe_ends ha hbefore hafter hlast hamb
      rcases (hraised hq).1.arrive le_rfl hop hop' hstale hcase with hb | ⟨j₁, o₁, hset⟩
      · refine Or.inl ⟨?_, hflight⟩
        rw [engineAt_succ hop]
        exact hb.congr h1 h2
      · exact Or.inr ⟨j₁, i, o₁, o, Nat.lt_succ_self i, hset⟩

/-- One more call. -/
theorem Standing.succ {i e n : ℕ} {op : EngineOp} (hin : i ≤ n) (hop : ops[n]? = some op)
    (h : Standing cfg ops i e n) : Standing cfg ops i e (n + 1) := by
  rcases h with ⟨hb, hf⟩ | ⟨j₁, j₂, o₁, o₂, hlt, hset⟩
  · have hflight : ∀ q, (engineAt cfg ops (n + 1)).inflight = some q → e ≤ q.action.epoch := by
      intro q hq
      rw [engineAt_succ hop] at hq
      rcases step_inflight hq with ⟨hq, -⟩ | ⟨action, at_, ctsAt, rfl, -, hv, rfl⟩
      · exact hf q hq
      · -- a receipt belongs to the current epoch, which the ambiguous one does not exceed
        obtain ⟨r, hres, her, -⟩ := hb
        obtain ⟨o, ho, hle⟩ := (stateAt_epochs cfg ops n).resync r hres
        obtain ⟨⟨o', ho', -, heq, -⟩, -⟩ := receiptValid_iff.mp hv
        obtain rfl : o = o' := Option.some.inj (ho.symm.trans ho')
        exact (her.trans hle).trans heq.ge
    cases ha : (engineAt cfg ops n).accepted op with
    | none =>
      refine Or.inl ⟨?_, hflight⟩
      rw [engineAt_succ hop]
      obtain ⟨r, hres, her, hc⟩ := hb.raised hf (step_barrier cfg ha)
      refine ⟨r, hres, her, fun c hset => ?_⟩
      obtain ⟨hlt, j, o, hcand⟩ := hc c hset
      refine ⟨hlt, j, o, hcand.succ ?_⟩
      rintro o' ⟨op', hop', ha'⟩ -
      rw [hop] at hop'; cases hop'
      rw [ha] at ha'; cases ha'
    | some o =>
      obtain ⟨now, b, s₁, hop', hstale, hcase, h1, h2⟩ := step_accepted_settle cfg ha
      have hba := hb.raised hf (arrive_raised cfg (engineAt cfg ops n) o now)
      rcases hba.arrive hin hop hop' hstale hcase with hb' | ⟨j₁, o₁, hset⟩
      · refine Or.inl ⟨?_, hflight⟩
        rw [engineAt_succ hop]
        exact hb'.congr h1 h2
      · exact Or.inr ⟨j₁, n, o₁, o, Nat.lt_succ_self n, hset⟩
  · exact Or.inr ⟨j₁, j₂, o₁, o₂, hlt.trans (Nat.lt_succ_self n), hset⟩

theorem standing_from {i n : ℕ} {pending : Transaction}
    (h : EndsAmbiguously cfg ops i pending) (hin : i + 1 ≤ n) (hn : n ≤ ops.length) :
    Standing cfg ops i pending.action.epoch n := by
  induction hin with
  | refl => exact standing_of_end h
  | @step n hin ih =>
    have hlt : n < ops.length := hn
    exact (ih hlt.le).succ (Nat.le_of_succ_le hin) (List.getElem?_eq_getElem hlt)

/-- **Ambiguity barrier.** Once call `i` has ended a transaction of epoch `e`
    without confirmation, an action is only handed out after two calls have
    settled the state in one later epoch, and never again for epoch `e`. -/
theorem no_action_before_settled (cfg : EngineConfig) (ops : List EngineOp) {i k : ℕ}
    {pending : Transaction} {action : Action} (hend : EndsAmbiguously cfg ops i pending)
    (hik : i ≤ k) (hact : (engineMachine cfg).outAt ops k = some (.action (some action))) :
    pending.action.epoch < action.epoch ∧
      ∃ j₁ j₂ o₁ o₂, j₂ < k ∧ Settles cfg ops i pending.action.epoch j₁ j₂ o₁ o₂ := by
  -- the call is `next_action`, on an engine that is neither waiting nor busy
  obtain ⟨now, hop, hsome⟩ := outAt_action hact
  have hk : k < ops.length := (List.getElem?_eq_some_iff.mp hop).1
  obtain ⟨hres, hfree, o, ho, -, -, hloop⟩ := nextAction_some hsome
  obtain ⟨_, _, _, _, _, _, -, -, -, hproposed, -⟩ := nextActionLoop_some hloop
  have hepoch := hproposed.epoch
  obtain ⟨hstate, hcore | ⟨q, hq⟩⟩ := ticked_tick cfg (engineAt cfg ops k) now
  · rw [hcore.resyncEpoch] at hres
    rw [hcore.inflight] at hfree
    rcases hik.lt_or_eq with hlt | rfl
    · rcases standing_from hend hlt hk.le with ⟨⟨r, hr, -⟩, -⟩ | ⟨j₁, j₂, o₁, o₂, hj, hset⟩
      · rw [hres] at hr; cases hr
      · refine ⟨?_, j₁, j₂, o₁, o₂, hj, hset⟩
        obtain ⟨o', ho', hp⟩ := precedes_mono hset.first.state (hset.order.trans hj)
        obtain rfl := Option.some.inj ((hstate.symm.trans ho).symm.trans ho')
        rw [hepoch]
        exact hset.epoch.2.trans_le hp.epoch_le
    · rw [hend.1] at hfree; cases hfree
  · rw [hq.resyncEpoch] at hres; cases hres

/-- The goal of the sample run. -/
def sampleGoal : Intent := { id := 1, control := .target, desired := .int 102, requestedAt := 0 }

/-- The action it leads to on an observation that shows 98 °F. -/
def sampleAction (intent : Intent) (epoch sequence : ℕ) (preparedAt : ℚ) : Action where
  intent
  epoch
  sequence
  startingValue := .float 98
  expected := .int 102
  frame := ⟨10, 191, 32, [102], by simp⟩
  preparedAt

/-- A setpoint write is lost with the connection and sent again after the state
    has settled in the next epoch. -/
def sampleRun : List EngineOp :=
  [.observe (sampleState (sampleStatus 98 0 true) 1 1 0) 0,
   .request { control := .target, desired := .int 102, now := 0 },
   .nextAction 0,
   .sent (sampleAction sampleGoal 1 1 0) 0 none,
   .suspend 1,
   .observe (sampleState (sampleStatus 98 0 true) 2 2 2) 2,
   .observe (sampleState (sampleStatus 98 0 true) 2 3 3) 3,
   .nextAction 3]

theorem no_action_before_settled_sample :
    ∃ j₁ j₂ o₁ o₂, j₂ < 7 ∧ Settles .default sampleRun 4 1 j₁ j₂ o₁ o₂ :=
  have hend : EndsAmbiguously .default sampleRun 4
      { action := sampleAction sampleGoal 1 1 0, ctsAt := none, sentAt := 0 } :=
    ⟨by decide +kernel, by decide +kernel,
      { action := sampleAction sampleGoal 1 1 0
        ctsAt := none
        sentAt := 0
        result := .cancelled
        completedAt := some 1
        reason := some .connectionLost },
      by decide +kernel, rfl, rfl, rfl, Or.inr ⟨rfl, rfl⟩⟩
  have hact : (engineMachine .default).outAt sampleRun 7 = some (.action (some
      (sampleAction { sampleGoal with reason := some .waitingForResync } 2 3 3))) := by
    decide +kernel
  (no_action_before_settled .default sampleRun hend (by decide) hact).2

end Engine

end BalboaRs485
