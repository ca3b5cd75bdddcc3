import BalboaRs485.Runtime.Commands

/-!
# The metadata scheduler

Five entry points and the other callers of the engine change what `_Commands` asks for
next: a query of the round, the filter refresh, or nothing.

* `ManageCase`, `manage_case`: what `update` does to the queries.
* `Scheduled`: a pending query is the refresh or the next one of the round.
* `Affordable`: while nothing is pending the scheduler may ask once more.
* `Tallied`: what has been asked since a query was last answered or given up.
* `metadata_scheduled`: the invariant over all runs, the calls that never raise, and the
  bound on the transmissions of a query.
-/

namespace BalboaRs485

/-- The call is a receipt. -/
def EngineOp.isReceipt : EngineOp → Bool
  | .sent .. => true
  | _ => false

namespace Engine

variable {cfg : EngineConfig} {s : Engine}

/-- A transaction that is in flight after a call other than a receipt was so before. -/
theorem step_shrinks {op : EngineOp} (hop : op.isReceipt = false)
    {pending : Transaction} (h : (s.step cfg op).1.inflight = some pending) :
    s.inflight = some pending := by
  rcases step_inflight h with ⟨hs, -⟩ | ⟨action, at_, ctsAt, heq, -⟩
  · exact hs
  · rw [heq] at hop
    cases hop

/-- **What `next_action` has handed out can be sent** as long as nothing else happens. -/
theorem nextAction_sent (hr : IntentRep s) {now at_ : ℚ} {ctsAt : Option ℚ} {action : Action}
    (h : (s.nextAction cfg now).1 = some action) (frame : Frame) (hat : now ≤ at_)
    (hcts : ∀ t, ctsAt = some t → t ≤ at_) :
    ((s.nextAction cfg now).2.sent cfg { action with frame } at_ ctsAt).1 = .ok () := by
  obtain ⟨-, hfree, o, ho, -, -, -⟩ := nextAction_some h
  obtain ⟨o', spent, ho', -, hproposed, hlatest, hintent⟩ := nextAction_intent hr h
  have hcore := nextAction_core cfg s now
  have hticked := tick_core cfg s now
  obtain rfl : o = o' := Option.some.inj (ho.symm.trans (hticked.1.trans ho'))
  have hlatest' : (s.nextAction cfg now).2.latest.get? action.intent.control =
      some action.intent.id := by
    rw [hcore.latest, (updates_tick hr cfg now).latest]
    exact hlatest
  have hinflight : (s.nextAction cfg now).2.inflight = none := hcore.inflight.trans hfree
  have hvalid : ({ (s.nextAction cfg now).2 with now := at_ }).receiptValid { action with frame }
      at_ ctsAt = true := by
    refine receiptValid_iff.mpr ⟨⟨o, hcore.state.trans ho, hproposed.safe, hproposed.epoch,
      hproposed.sequence⟩, hlatest', ⟨_, hintent, rfl⟩, ?_, ?_⟩
    · show ¬ at_ < action.preparedAt
      rw [hproposed.preparedAt]
      exact not_lt.mpr hat
    · rw [Option.any_eq_true]
      rintro ⟨t, ht, hlt⟩
      exact absurd (hcts t ht) (not_le.mpr (by simpa using hlt))
  unfold sent
  dsimp only
  rw [if_neg (by rw [hinflight]; simp), if_neg (by rw [hvalid]; simp)]

end Engine

/-- The transmission is a query. -/
def Token.isQuery : Token → Bool
  | .query _ => true
  | .action _ => false

namespace Commands

variable {γ ρ : Type} {cfg : RuntimeConfig} {c d : Commands γ}

/-! ## What the calls do to the queries -/

/-- The queries are the same, and nothing new is in flight. -/
structure Asks (c d : Commands γ) : Prop where
  refresh : d.refresh = c.refresh
  pending : d.pending = c.pending
  queryIndex : d.queryIndex = c.queryIndex
  attempts : d.attempts = c.attempts
  reads : d.filterConfirmationReads = c.filterConfirmationReads
  epoch : d.epoch = c.epoch
  inflight : ∀ pending, d.engine.inflight = some pending → c.engine.inflight = some pending

theorem Asks.refl (c : Commands γ) : Asks c c := ⟨rfl, rfl, rfl, rfl, rfl, rfl, fun _ h => h⟩

theorem Asks.trans {e : Commands γ} (h : Asks c d) (h' : Asks d e) : Asks c e :=
  ⟨h'.refresh.trans h.refresh, h'.pending.trans h.pending, h'.queryIndex.trans h.queryIndex,
    h'.attempts.trans h.attempts, h'.reads.trans h.reads, h'.epoch.trans h.epoch,
    fun p hp => h.inflight p (h'.inflight p hp)⟩

theorem Asks.writing (h : Asks c d) {pending : Transaction} (hw : d.writingFilters = some pending) :
    c.writingFilters = some pending := by
  unfold writingFilters at hw ⊢
  obtain ⟨hp, hc⟩ := Option.filter_eq_some_iff.mp hw
  exact Option.filter_eq_some_iff.mpr ⟨h.inflight pending hp, hc⟩

theorem Asks.complete (h : Asks c d) : d.metadataComplete = c.metadataComplete := by
  unfold metadataComplete
  rw [h.queryIndex]

/-- Only the guards have changed. -/
theorem asks_guards (c : Commands γ) (guards : Dict Control (ℕ × γ)) : Asks c { c with guards } :=
  ⟨rfl, rfl, rfl, rfl, rfl, rfl, fun _ h => h⟩

/-- Only the engine has changed, by a call other than a receipt. -/
theorem asks_engine (c : Commands γ) (engineCfg : EngineConfig) (op : EngineOp)
    (hop : op.isReceipt = false) :
    Asks c { c with engine := (c.engine.step engineCfg op).1 } :=
  ⟨rfl, rfl, rfl, rfl, rfl, rfl, fun _ h => Engine.step_shrinks hop h⟩

theorem observe_asks (snapshot : Snapshot) (now : ℚ) : Asks c (c.observe cfg snapshot now) := by
  unfold observe
  split
  · next state _ => exact c.asks_engine cfg.engine (.observe state now) rfl
  · have htick := c.asks_engine cfg.engine (.tick now) rfl
    exact htick.trans (asks_engine _ cfg.engine (.suspend now) rfl)

theorem disconnected_asks (now : ℚ) : Asks c (c.disconnected now) :=
  c.asks_engine .default (.suspend now) rfl

theorem admitGuards_asks (valid : Control → γ → ρ → Bool × γ × ρ) (l : List (Control × ℕ × γ))
    (c : Commands γ) (r : ρ) : Asks c (admitGuards valid l c r).1 := by
  induction l generalizing c r with
  | nil => exact .refl c
  | cons entry l ih =>
    obtain ⟨control, id, guard⟩ := entry
    unfold admitGuards
    split
    · exact (c.asks_guards _).trans (ih _ r)
    · split
      · next guard r _ => exact (c.asks_guards _).trans (ih _ r)
      · next r _ =>
        have hcancel := c.asks_engine .default (.cancel control none) rfl
        exact (hcancel.trans (asks_guards _ (c.guards.pop control))).trans (ih _ r)

theorem offer_asks (now : ℚ) : Asks c (c.offer cfg now).2 := by
  have hact : Asks c { c with engine := (c.engine.nextAction cfg.engine now).2 } :=
    c.asks_engine cfg.engine (.nextAction now) rfl
  unfold offer
  split
  · exact .refl c
  · split
    · exact .refl c
    · exact .refl c
    · split
      · next heq =>
        rw [heq] at hact
        exact hact
      · next heq =>
        rw [heq] at hact
        exact hact

theorem prepare_asks (valid : Control → γ → ρ → Bool × γ × ρ) (r : ρ) (now : ℚ) :
    Asks c (c.prepare cfg valid r now).2.1 :=
  (admitGuards_asks valid _ c r).trans (offer_asks now)

/-! ## The queries of `update` -/

/-- A new epoch or configuration (lines 61–65). -/
def Renews (cfg : RuntimeConfig) (c : Commands γ) (snapshot : Snapshot) : Prop :=
  snapshot.epoch ≠ c.epoch ∨
    (snapshot.configuration.map (Configuration.signature cfg.sha256) ≠ none ∧
      snapshot.configuration.map (Configuration.signature cfg.sha256) ≠ c.configuration)

/-- The query in flight is overdue (line 83). -/
def Late (cfg : RuntimeConfig) (c : Commands γ) (now : ℚ) : Prop :=
  c.pending ≠ none ∧ cfg.timing.queryTimeout ≤ now - c.sentAt

/-- What the first part of `update` can do. -/
inductive ManageCase (cfg : RuntimeConfig) (c : Commands γ) (snapshot : Snapshot) (now : ℚ) :
    Commands γ → Prop where
  | renewed (h : c.Renews cfg snapshot) :
      ManageCase cfg c snapshot now (c.renew cfg snapshot now)
  /-- A new round begins. -/
  | restarted (h : ¬ c.Renews cfg snapshot) (hidle : c.metadataIdle = true)
      (hfree : c.engine.busy = false) :
      ManageCase cfg c snapshot now { c with
        queryIndex := 0
        attempts := 0
        nextMetadataRefresh := now + cfg.metadataRefreshInterval
        failures := [] }
  | kept (h : ¬ c.Renews cfg snapshot) : ManageCase cfg c snapshot now c
  /-- The query may be asked again. -/
  | lost (h : ¬ c.Renews cfg snapshot) (hlate : c.Late cfg now)
      (hmore : c.attempts < cfg.timing.queryAttempts) :
      ManageCase cfg c snapshot now { c with pending := none }
  | refreshFailed (h : ¬ c.Renews cfg snapshot) (hlate : c.Late cfg now)
      (hspent : cfg.timing.queryAttempts ≤ c.attempts) (hrefresh : c.refresh ≠ none) :
      ManageCase cfg c snapshot now { c with
        pending := none
        refresh := none
        refreshSuccess := false
        refreshVersion := c.refreshVersion + 1
        attempts := 0 }
  | queryFailed (h : ¬ c.Renews cfg snapshot) (hlate : c.Late cfg now)
      (hspent : cfg.timing.queryAttempts ≤ c.attempts) (hrefresh : c.refresh = none) :
      ManageCase cfg c snapshot now { c with
        pending := none
        failures := c.failures ++ queries[c.queryIndex]?.toList
        queryIndex := c.queryIndex + 1
        attempts := 0 }

theorem metadataComplete_iff : c.metadataComplete = true ↔ 3 ≤ c.queryIndex := by
  simp [metadataComplete, queries]

theorem metadataIdle_iff : c.metadataIdle = true ↔
    c.metadataComplete = true ∧ c.pending = none ∧ c.refresh = none := by
  simp [metadataIdle]

theorem restartQueries_case (cfg : RuntimeConfig) (c : Commands γ) (now : ℚ) :
    c.restartQueries cfg now = c ∨ (c.metadataIdle = true ∧ c.engine.busy = false ∧
      c.restartQueries cfg now = { c with
        queryIndex := 0
        attempts := 0
        nextMetadataRefresh := now + cfg.metadataRefreshInterval
        failures := [] }) := by
  unfold restartQueries
  split
  · next h => exact Or.inr ⟨h.1, by simpa using h.2.1, rfl⟩
  · exact Or.inl rfl

theorem expireQuery_of_not_late {now : ℚ} (h : ¬ c.Late cfg now) : c.expireQuery cfg now = c :=
  if_neg h

theorem expireQuery_of_late {now : ℚ} (h : c.Late cfg now) :
    c.expireQuery cfg now = ({ c with pending := none } : Commands γ).giveUpQuery cfg := if_pos h

theorem manage_case (cfg : RuntimeConfig) (c : Commands γ) (snapshot : Snapshot) (now : ℚ) :
    ManageCase cfg c snapshot now (c.manageQueries cfg snapshot now) := by
  unfold manageQueries
  by_cases hrenew : c.Renews cfg snapshot
  · -- nothing is pending in a new epoch, and its round has begun
    have hnew : (c.renew cfg snapshot now).pending = none ∧
        (c.renew cfg snapshot now).queryIndex = 0 := by
      rw [show c.renew cfg snapshot now = _ from if_pos hrenew]
      exact ⟨rfl, rfl⟩
    rcases restartQueries_case cfg (c.renew cfg snapshot now) now with hsame | ⟨hidle, -⟩
    · rw [hsame, expireQuery_of_not_late fun hlate => hlate.1 hnew.1]
      exact .renewed hrenew
    · have hcomplete := metadataComplete_iff.mp (metadataIdle_iff.mp hidle).1
      omega
  · have hkept : c.renew cfg snapshot now = c := if_neg hrenew
    rw [hkept]
    rcases restartQueries_case cfg c now with hsame | ⟨hidle, hfree, hrestart⟩
    · rw [hsame]
      by_cases hlate : c.Late cfg now
      · rw [expireQuery_of_late hlate]
        unfold giveUpQuery
        split
        · next hspent =>
          split
          · next hrefresh => exact .refreshFailed hrenew hlate hspent hrefresh
          · next hrefresh => exact .queryFailed hrenew hlate hspent (not_not.mp hrefresh)
        · next hmore => exact .lost hrenew hlate (not_le.mp hmore)
      · rw [expireQuery_of_not_late hlate]
        exact .kept hrenew
    · have hnone : ¬ (c.restartQueries cfg now).Late cfg now := by
        rw [hrestart]
        exact fun hlate => hlate.1 (metadataIdle_iff.mp hidle).2.1
      rw [expireQuery_of_not_late hnone, hrestart]
      exact .restarted hrenew hidle hfree

/-! ## The invariant -/

/-- The refresh waits for the round; a pending query is the refresh, or the next one of the
    round. -/
structure Scheduled (c : Commands γ) : Prop where
  refresh : ∀ query, c.refresh = some query → query = .filters ∧ c.metadataComplete = true
  pending : ∀ query, c.pending = some query →
    (c.refresh = some .filters ∧ query = .filters) ∨
      (c.queryIndex < 3 ∧ queries[c.queryIndex]? = some query)

/-- A query may be asked again while none is pending. -/
structure Budgeted (cfg : RuntimeConfig) (c : Commands γ) : Prop where
  idle : c.pending = none → c.attempts < cfg.timing.queryAttempts
  spent : c.attempts ≤ cfg.timing.queryAttempts

theorem budgeted_zero (cfg : RuntimeConfig) (h : c.attempts = 0) : Budgeted cfg c where
  idle _ := h ▸ cfg.timing.positive.2.2.2.2.2.2.1
  spent := h ▸ Nat.zero_le _

theorem scheduled_idle (hrefresh : c.refresh = none) (hpending : c.pending = none) : Scheduled c :=
  ⟨by rw [hrefresh]; nofun, by rw [hpending]; nofun⟩

theorem Scheduled.asks (h : Scheduled c) (ha : Asks c d) : Scheduled d where
  refresh := by
    rw [ha.refresh, ha.complete]
    exact h.refresh
  pending := by
    rw [ha.refresh, ha.pending, ha.queryIndex]
    exact h.pending

theorem Budgeted.asks (h : Budgeted cfg c) (ha : Asks c d) : Budgeted cfg d where
  idle := by
    rw [ha.pending, ha.attempts]
    exact h.idle
  spent := ha.attempts ▸ h.spent

/-- While a query of the round is due there is no refresh. -/
theorem Scheduled.no_refresh (h : Scheduled c) (hindex : c.queryIndex < 3) : c.refresh = none := by
  cases hr : c.refresh with
  | none => rfl
  | some query =>
    have hcomplete := metadataComplete_iff.mp (h.refresh query hr).2
    omega

/-- `tally` queries have been asked since one was last answered or given up. -/
structure Tallied (c : Commands γ) (tally : ℕ) : Prop where
  attempts : tally ≤ c.attempts
  reads : ∀ pending, c.writingFilters = some pending → c.refresh ≠ none →
    tally ≤ c.filterConfirmationReads
  idle : c.metadataComplete = true → c.refresh = none → tally = 0

theorem Tallied.asks {tally : ℕ} (h : Tallied c tally) (ha : Asks c d) : Tallied d tally where
  attempts := ha.attempts ▸ h.attempts
  reads pending hw hr := ha.reads ▸ h.reads pending (ha.writing hw) (ha.refresh ▸ hr)
  idle hcomplete hr := h.idle (ha.complete ▸ hcomplete) (ha.refresh ▸ hr)

theorem tallied_zero (c : Commands γ) : Tallied c 0 := ⟨Nat.zero_le _, fun _ _ _ => Nat.zero_le _,
  fun _ _ => rfl⟩

/-! ### `update` -/

theorem Renews.renew {snapshot : Snapshot} (h : c.Renews cfg snapshot) (now : ℚ) :
    (c.renew cfg snapshot now).refresh = none ∧ (c.renew cfg snapshot now).pending = none ∧
      (c.renew cfg snapshot now).attempts = 0 := by
  rw [show c.renew cfg snapshot now = _ from if_pos h]
  exact ⟨rfl, rfl, rfl⟩

theorem Scheduled.manage (h : Scheduled c) (snapshot : Snapshot) (now : ℚ) :
    Scheduled (c.manageQueries cfg snapshot now) := by
  have hcase := manage_case cfg c snapshot now
  generalize c.manageQueries cfg snapshot now = d at hcase
  cases hcase with
  | renewed hrenew =>
    obtain ⟨hrefresh, hpending, -⟩ := hrenew.renew now
    exact scheduled_idle hrefresh hpending
  | restarted _ hidle _ =>
    obtain ⟨-, hpending, hrefresh⟩ := metadataIdle_iff.mp hidle
    exact scheduled_idle hrefresh hpending
  | kept => exact h
  | lost => exact ⟨h.refresh, nofun⟩
  | refreshFailed => exact scheduled_idle rfl rfl
  | queryFailed _ _ _ hrefresh => exact scheduled_idle hrefresh rfl

theorem Budgeted.manage (h : Budgeted cfg c) (snapshot : Snapshot) (now : ℚ) :
    Budgeted cfg (c.manageQueries cfg snapshot now) := by
  have hcase := manage_case cfg c snapshot now
  generalize c.manageQueries cfg snapshot now = d at hcase
  cases hcase with
  | renewed hrenew => exact budgeted_zero cfg (hrenew.renew now).2.2
  | restarted => exact budgeted_zero cfg rfl
  | kept => exact h
  | lost _ _ hmore => exact ⟨fun _ => hmore, h.spent⟩
  | refreshFailed => exact budgeted_zero cfg rfl
  | queryFailed => exact budgeted_zero cfg rfl

/-- The queries given up in `update` are those it has asked for often enough. -/
theorem Tallied.manage {tally : ℕ} (h : Tallied c tally) {snapshot : Snapshot} {now : ℚ}
    (hkeep : ¬ c.Renews cfg snapshot)
    (hmore : c.Late cfg now → c.attempts < cfg.timing.queryAttempts) :
    Tallied (c.manageQueries cfg snapshot now) tally := by
  have hcase := manage_case cfg c snapshot now
  generalize c.manageQueries cfg snapshot now = d at hcase
  cases hcase with
  | renewed hrenew => exact absurd hrenew hkeep
  | restarted _ hidle _ =>
    obtain ⟨hcomplete, -, hrefresh⟩ := metadataIdle_iff.mp hidle
    rw [h.idle hcomplete hrefresh]
    exact tallied_zero _
  | kept => exact h
  | lost => exact ⟨h.attempts, h.reads, h.idle⟩
  | refreshFailed _ hlate hspent => exact absurd (hmore hlate) (not_lt.mpr hspent)
  | queryFailed _ hlate hspent => exact absurd (hmore hlate) (not_lt.mpr hspent)

/-! ### `received` -/

theorem store_asks (at_ : ℚ) (message : Message) : Asks c (c.store at_ message) := by
  unfold store
  split <;> exact ⟨rfl, rfl, rfl, rfl, rfl, rfl, fun _ h => h⟩

/-- The message answers the query in flight (lines 164–177). -/
def Matches (c : Commands γ) (message : Message) (epoch : ℕ) : Prop :=
  epoch = c.epoch ∧ answers message ≠ none ∧ c.pending = answers message

/-- What `received` can do. -/
theorem received_case (cfg : RuntimeConfig) (c : Commands γ) (message : Message) (epoch : ℕ)
    (at_ : ℚ) :
    (¬ c.Matches message epoch ∧ Asks c (c.received cfg message epoch at_)) ∨
      (c.Matches message epoch ∧ Asks c (c.store at_ message) ∧
        c.received cfg message epoch at_ = (c.store at_ message).answered cfg epoch message) := by
  unfold received
  split
  · next hepoch => exact Or.inl ⟨fun h => hepoch h.1, .refl c⟩
  · next hepoch =>
    split
    · next hanswer => exact Or.inr ⟨⟨not_not.mp hepoch, hanswer⟩, store_asks at_ message, rfl⟩
    · next hanswer => exact Or.inl ⟨fun h => hanswer h.2, store_asks at_ message⟩

theorem Scheduled.answered (h : Scheduled c) (epoch : ℕ) (message : Message) :
    Scheduled (c.answered cfg epoch message) := by
  unfold Commands.answered
  split
  · exact ⟨h.refresh, nofun⟩
  · split
    · exact scheduled_idle rfl rfl
    · next hrefresh => exact scheduled_idle (not_not.mp hrefresh) rfl

theorem rereads_iff {epoch : ℕ} {message : Message} (h : c.rereads cfg epoch message = true) :
    c.refresh = some .filters ∧ c.filterConfirmationReads < cfg.timing.queryAttempts ∧
      ∃ pending, c.writingFilters = some pending := by
  unfold rereads at h
  split at h
  · simp only [Bool.decide_and, Bool.and_eq_true, decide_eq_true_eq] at h
    obtain ⟨hrefresh, hreads, hany⟩ := h
    obtain ⟨pending, hpending, -⟩ := Option.any_eq_true .. |>.mp hany
    exact ⟨hrefresh, hreads, pending, hpending⟩
  · cases h

theorem budgeted_answered (cfg : RuntimeConfig) (c : Commands γ) (epoch : ℕ) (message : Message) :
    Budgeted cfg (c.answered cfg epoch message) := by
  unfold Commands.answered
  split
  · next hreread =>
    have hlt := (rereads_iff hreread).2.1
    exact ⟨fun _ => hlt, hlt.le⟩
  · split <;> exact budgeted_zero cfg rfl

/-- A record that is read again has been asked for while the write was in flight. -/
theorem Tallied.reread {tally : ℕ} (h : Tallied c tally) {epoch : ℕ} {message : Message}
    (hreread : c.rereads cfg epoch message = true) :
    Tallied (c.answered cfg epoch message) tally := by
  obtain ⟨hrefresh, -, pending, hpending⟩ := rereads_iff hreread
  have hreads := h.reads pending hpending (by rw [hrefresh]; simp)
  unfold Commands.answered
  rw [if_pos hreread]
  exact ⟨hreads, fun _ _ _ => hreads, fun _ hr => by rw [hrefresh] at hr; cases hr⟩

/-! ### `refresh_filters` and `sent` -/

theorem refreshFilters_ok (hcomplete : c.metadataComplete = true) (hp : c.pending = none)
    (hr : c.refresh = none) : c.refreshFilters =
      (.ok (), { c with refresh := some .filters, attempts := 0, refreshSuccess := false }) :=
  if_neg (by simp [hcomplete, hp, hr])

/-- `refresh_filters` raises without a trace, or begins a refresh. -/
theorem refreshFilters_case (c : Commands γ) :
    (∃ e, c.refreshFilters = (.error e, c)) ∨
      (c.metadataComplete = true ∧ c.pending = none ∧ c.refresh = none) := by
  by_cases hidle : c.metadataComplete = true ∧ c.pending = none ∧ c.refresh = none
  · exact Or.inr hidle
  · exact Or.inl ⟨.metadata, if_pos (by tauto)⟩

/-- What `prepare` leaves behind when it returns `message`. -/
structure Offers (cfg : RuntimeConfig) (c : Commands γ) (message : Transmission) (preparedAt : ℚ) :
    Prop where
  idle : c.pending = none
  query : ∀ query, message.token = .query query →
    (c.queryIndex < 3 ∧ queries[c.queryIndex]? = some query) ∨
      (c.metadataComplete = true ∧ c.refresh = some query)
  action : ∀ action, message.token = .action action →
    c.metadataComplete = true ∧ c.refresh = none ∧
      ∃ s, Engine.IntentRep s ∧ (s.nextAction cfg.engine preparedAt).1 = some action ∧
        c.engine = (s.nextAction cfg.engine preparedAt).2

theorem offer_offers (hr : Engine.IntentRep c.engine) {message : Transmission} {now : ℚ}
    (h : (c.offer cfg now).1 = some message) : Offers cfg (c.offer cfg now).2 message now := by
  have hcomplete : queries[c.queryIndex]? = none → c.metadataComplete = true := by
    intro hnone
    rw [metadataComplete_iff]
    simpa [queries] using hnone
  unfold offer at h ⊢
  split at h
  · cases h
  next hp =>
  rw [if_neg hp]
  have hidle := not_not.mp hp
  split at h
  · next query _ hquery =>
    cases h
    have hindex : c.queryIndex < 3 := (List.getElem?_eq_some_iff.mp hquery).1
    refine ⟨hidle, fun q hq => ?_, fun action ha => by cases ha⟩
    cases hq
    exact Or.inl ⟨hindex, hquery⟩
  · next query hquery hrefresh =>
    cases h
    refine ⟨hidle, fun q hq => ?_, fun action ha => by cases ha⟩
    cases hq
    exact Or.inr ⟨hcomplete hquery, hrefresh⟩
  · next hquery hrefresh =>
    split at h
    · next action engine hnext =>
      cases h
      refine ⟨hidle, fun q hq => (by cases hq), fun action' ha => ?_⟩
      cases ha
      exact ⟨hcomplete hquery, hrefresh, c.engine, hr, by rw [hnext], by rw [hnext]⟩
    · cases h

/-- What is left when `message` has been sent, readdressed. -/
inductive SentCase (cfg : RuntimeConfig) (c : Commands γ) (message : Transmission) (at_ : ℚ) :
    Commands γ → Prop where
  | query (query : Query) (htoken : message.token = .query query)
      (hdue : (c.queryIndex < 3 ∧ queries[c.queryIndex]? = some query) ∨
        (c.metadataComplete = true ∧ c.refresh = some query)) :
      SentCase cfg c message at_ { c with
        pending := some query
        sentAt := at_
        attempts := c.attempts + 1
        filterConfirmationReads := c.filterConfirmationReads +
          if query = .filters ∧ c.writingFilters.isSome then 1 else 0 }
  /-- A filter write begins its readback. -/
  | filters (action : Action) (htoken : message.token = .action action)
      (hcomplete : c.metadataComplete = true) (hrefresh : c.refresh = none) (engine : Engine) :
      SentCase cfg c message at_ { c with
        engine
        filterConfirmationReads := 0
        refresh := some .filters
        attempts := 0
        refreshSuccess := false }
  | action (action : Action) (htoken : message.token = .action action)
      (hcomplete : c.metadataComplete = true) (hrefresh : c.refresh = none) (engine : Engine) :
      SentCase cfg c message at_ { c with engine }

/-- **What `prepare` has offered can be sent**: neither the engine nor `refresh_filters`
    raises. -/
theorem Offers.sent {message : Transmission} {preparedAt at_ : ℚ} {ctsAt : Option ℚ}
    (h : Offers cfg c message preparedAt) (hat : preparedAt ≤ at_)
    (hcts : ∀ t, ctsAt = some t → t ≤ at_) (frame : Frame) :
    (c.sent cfg { message with frame } at_ ctsAt).1 = .ok () ∧
      SentCase cfg c message at_ (c.sent cfg { message with frame } at_ ctsAt).2 := by
  cases htoken : message.token with
  | query query =>
    unfold Commands.sent
    dsimp only
    exact ⟨rfl, .query query htoken (h.query query htoken)⟩
  | action action =>
    obtain ⟨hcomplete, hrefresh, s, hr, hnext, hengine⟩ := h.action action htoken
    have hok : (c.engine.sent cfg.engine { action with frame } at_ ctsAt).1 = .ok () := by
      rw [hengine]
      exact Engine.nextAction_sent hr hnext frame hat hcts
    unfold Commands.sent
    dsimp only
    split
    · next e engine heq =>
      rw [heq] at hok
      cases hok
    · next engine heq =>
      split
      · -- the round is done and nothing is pending, so the refresh is accepted
        rw [refreshFilters_ok (c := { c with engine, filterConfirmationReads := 0 }) hcomplete h.idle
          hrefresh]
        exact ⟨rfl, .filters action htoken hcomplete hrefresh engine⟩
      · exact ⟨rfl, .action action htoken hcomplete hrefresh engine⟩

theorem SentCase.scheduled {message : Transmission} {at_ : ℚ} (hcase : SentCase cfg c message at_ d)
    (hp : c.pending = none) (h : Scheduled c) : Scheduled d := by
  cases hcase with
  | query query _ hdue =>
    refine ⟨h.refresh, fun q hq => ?_⟩
    cases hq
    rcases hdue with hround | ⟨-, hrefresh⟩
    · exact Or.inr hround
    · have hfilters := (h.refresh query hrefresh).1
      exact Or.inl ⟨hfilters ▸ hrefresh, hfilters⟩
  | filters action _ hcomplete _ engine =>
    refine ⟨fun query hr => ⟨(Option.some.inj hr).symm, hcomplete⟩, fun query hq => ?_⟩
    rw [show c.pending = some query from hq] at hp
    cases hp
  | action action _ _ _ engine => exact ⟨h.refresh, h.pending⟩

theorem SentCase.budgeted {message : Transmission} {at_ : ℚ} (hcase : SentCase cfg c message at_ d)
    (hp : c.pending = none) (h : Budgeted cfg c) : Budgeted cfg d := by
  cases hcase with
  | query => exact ⟨nofun, h.idle hp⟩
  | filters => exact budgeted_zero cfg rfl
  | action => exact ⟨h.idle, h.spent⟩

/-- A query is counted where it is asked; a write is only sent when nothing is asked. -/
theorem SentCase.tallied {message : Transmission} {at_ : ℚ} {tally : ℕ}
    (hcase : SentCase cfg c message at_ d) (hs : Scheduled c) (h : Tallied c tally) :
    Tallied d (tally + if message.token.isQuery then 1 else 0) := by
  cases hcase with
  | query query htoken hdue =>
    rw [htoken, Token.isQuery, if_pos rfl]
    refine ⟨Nat.succ_le_succ h.attempts, fun pending hw hr => ?_, fun hcomplete hr => ?_⟩
    · -- a refresh asks for the filter record, and a write is in flight
      have hindex : c.metadataComplete = true ∧ c.refresh = some query := by
        rcases hdue with ⟨hlt, -⟩ | hdue
        · exact absurd (hs.no_refresh hlt) hr
        · exact hdue
      have hfilters := (hs.refresh query hindex.2).1
      have hw : c.writingFilters = some pending := hw
      have hreads := h.reads pending hw hr
      rw [if_pos ⟨hfilters, by rw [hw]; rfl⟩]
      exact Nat.succ_le_succ hreads
    · have hr : c.refresh = none := hr
      rcases hdue with ⟨hlt, -⟩ | ⟨-, hdue⟩
      · exact absurd (metadataComplete_iff.mp hcomplete) (by simpa using hlt)
      · rw [hr] at hdue
        cases hdue
  | filters action htoken hcomplete hrefresh engine =>
    rw [htoken, Token.isQuery, h.idle hcomplete hrefresh]
    exact tallied_zero _
  | action action htoken hcomplete hrefresh engine =>
    rw [htoken, Token.isQuery, h.idle hcomplete hrefresh]
    exact tallied_zero _

end Commands

/-! ## Runs -/

/-- The participant, and what the call before the next one has returned if it was
    `prepare`, with its time. -/
structure Participant (γ : Type) where
  commands : Commands γ := {}
  offered : Option (Transmission × ℚ) := none

namespace Participant

open Commands

/-- A call of the participant by the connection or a user, or by someone else who shares its
    engine and its guards. -/
inductive Op (γ ρ : Type) where
  | update (snapshot : Snapshot) (now : ℚ)
  | prepare (valid : Control → γ → ρ → Bool × γ × ρ) (owner : ρ) (now : ℚ)
  /-- `sent` with the transmission the preceding `prepare` has returned, readdressed
      (`transport/connection.py` lines 551–563). -/
  | sent (address : UInt8) (at_ : ℚ) (ctsAt : Option ℚ)
  | received (message : Message) (epoch : ℕ) (at_ : ℚ)
  | refreshFilters
  | disconnected (now : ℚ)
  /-- A call of the engine by someone else; receipts only come through `sent`. -/
  | caller (op : EngineOp)
  /-- A guard is attached or detached. -/
  | attach (guards : Dict Control (ℕ × γ))

/-- What a call returns or raises. -/
inductive Out where
  | done
  | handed (message : Option Transmission)
  | receipt (result : Except CommandsError Unit)
  | refreshed (result : Except CommandsError Unit)
  /-- The call is not one the connection makes. -/
  | refused

variable {γ ρ : Type} (cfg : RuntimeConfig)

/-- The connection reports a transmission it has just been given, at a time that is not
    before it nor before its CTS. -/
def reports (p : Participant γ) (at_ : ℚ) (ctsAt : Option ℚ) : Option Transmission :=
  p.offered.bind fun (message, preparedAt) =>
    if preparedAt ≤ at_ ∧ ctsAt.all (· ≤ at_) then some message else none

/-- One call. -/
def step (p : Participant γ) : Op γ ρ → Participant γ × Out
  | .update snapshot now => (⟨p.commands.update cfg snapshot now, none⟩, .done)
  | .prepare valid owner now =>
    let (message, commands, _) := p.commands.prepare cfg valid owner now
    (⟨commands, message.map fun message => (message, now)⟩, .handed message)
  | .sent address at_ ctsAt =>
    match p.reports at_ ctsAt with
    | some message =>
      let message := { message with frame := message.frame.readdress address }
      (⟨(p.commands.sent cfg message at_ ctsAt).2, none⟩,
        .receipt (p.commands.sent cfg message at_ ctsAt).1)
    | none => (⟨p.commands, none⟩, .refused)
  | .received message epoch at_ => (⟨p.commands.received cfg message epoch at_, none⟩, .done)
  | .refreshFilters => (⟨p.commands.refreshFilters.2, none⟩, .refreshed p.commands.refreshFilters.1)
  | .disconnected now => (⟨p.commands.disconnected now, none⟩, .done)
  | .caller op =>
    if op.isReceipt then (⟨p.commands, none⟩, .refused)
    else
      (⟨{ p.commands with engine := (p.commands.engine.step cfg.engine op).1 }, none⟩, .done)
  | .attach guards => (⟨{ p.commands with guards }, none⟩, .done)

/-- A fresh participant and its calls. -/
def machine (γ ρ : Type) : Machine (Participant γ) (Op γ ρ) Out where
  init := {}
  step := step cfg

/-- The participant after the first `n` calls of a run. -/
def participantAt (run : List (Op γ ρ)) (n : ℕ) : Participant γ :=
  (machine cfg γ ρ).stateAt run n

variable {cfg} {p : Participant γ} {run : List (Op γ ρ)} {n : ℕ}

theorem reports_some {at_ : ℚ} {ctsAt : Option ℚ} {message : Transmission}
    (h : p.reports at_ ctsAt = some message) :
    ∃ preparedAt, p.offered = some (message, preparedAt) ∧ preparedAt ≤ at_ ∧
      ∀ t, ctsAt = some t → t ≤ at_ := by
  unfold reports at h
  obtain ⟨⟨message', preparedAt⟩, hoffered, hguard⟩ := Option.bind_eq_some_iff.mp h
  dsimp only at hguard
  split at hguard
  · next hok =>
    cases hguard
    exact ⟨preparedAt, hoffered, hok.1, fun t ht => by simpa [ht] using hok.2⟩
  · cases hguard

/-- What holds between two calls. -/
structure Sound (cfg : RuntimeConfig) (p : Participant γ) : Prop where
  rep : Engine.IntentRep p.commands.engine
  scheduled : Scheduled p.commands
  budgeted : Budgeted cfg p.commands
  offered : ∀ message preparedAt, p.offered = some (message, preparedAt) →
    Offers cfg p.commands message preparedAt

theorem rep_calls {P : EngineOp → Prop} {s s' : Engine} (h : Engine.Calls cfg.engine P s s')
    (hr : Engine.IntentRep s) : Engine.IntentRep s' :=
  h.induct (fun _ op _ hr => (Engine.step_intent cfg.engine hr op).1) hr

/-- Between two calls that are not `prepare` and `sent` nothing is offered. -/
theorem sound_of {c : Commands γ} (hr : Engine.IntentRep c.engine) (hs : Scheduled c)
    (hb : Budgeted cfg c) : Sound cfg ⟨c, none⟩ where
  rep := hr
  scheduled := hs
  budgeted := hb
  offered message preparedAt hoffered := by
    have hnone : (none : Option (Transmission × ℚ)) = some (message, preparedAt) := hoffered
    cases hnone

/-- The calls that only show the queries something. -/
theorem Sound.asks {c : Commands γ} (h : Sound cfg p) (ha : Asks p.commands c)
    (hr : Engine.IntentRep c.engine) : Sound cfg ⟨c, none⟩ :=
  sound_of hr (h.scheduled.asks ha) (h.budgeted.asks ha)

theorem Sound.update (h : Sound cfg p) (snapshot : Snapshot) (now : ℚ) :
    Sound cfg ⟨p.commands.update cfg snapshot now, none⟩ := by
  have ha : Asks (p.commands.manageQueries cfg snapshot now) (p.commands.update cfg snapshot now) :=
    observe_asks snapshot now
  have hr : Engine.IntentRep (p.commands.update cfg snapshot now).engine := by
    rcases update_engine cfg p.commands snapshot now with ⟨o, -, he⟩ | ⟨-, he⟩
    · rw [he]
      exact (Engine.step_intent cfg.engine h.rep (.observe o now)).1
    · rw [he]
      exact (Engine.step_intent cfg.engine
        (Engine.step_intent cfg.engine h.rep (.tick now)).1 (.suspend now)).1
  exact sound_of hr ((h.scheduled.manage snapshot now).asks ha)
    ((h.budgeted.manage snapshot now).asks ha)

theorem Sound.prepare (h : Sound cfg p) (valid : Control → γ → ρ → Bool × γ × ρ) (owner : ρ)
    (now : ℚ) : Sound cfg (step cfg p (.prepare valid owner now)).1 := by
  have ha : Asks p.commands (p.commands.prepare cfg valid owner now).2.1 :=
    prepare_asks valid owner now
  have hguards := rep_calls (admitGuards_engine cfg p.commands valid p.commands.guards.entries owner)
    h.rep
  refine ⟨rep_calls (prepare_engine cfg p.commands valid owner now) h.rep, h.scheduled.asks ha,
    h.budgeted.asks ha, fun message preparedAt hoffered => ?_⟩
  obtain ⟨message', hmessage, heq⟩ := Option.map_eq_some_iff.mp hoffered
  cases heq
  exact offer_offers hguards hmessage

theorem Sound.sent (h : Sound cfg p) {at_ : ℚ} {ctsAt : Option ℚ} {message : Transmission}
    (hreports : p.reports at_ ctsAt = some message) (frame : Frame) :
    (p.commands.sent cfg { message with frame } at_ ctsAt).1 = .ok () ∧
      SentCase cfg p.commands message at_ (p.commands.sent cfg { message with frame } at_ ctsAt).2 ∧
      Sound cfg ⟨(p.commands.sent cfg { message with frame } at_ ctsAt).2, none⟩ := by
  obtain ⟨preparedAt, hoffered, hat, hcts⟩ := reports_some hreports
  have hoffers := h.offered message preparedAt hoffered
  obtain ⟨hok, hcase⟩ := hoffers.sent hat hcts frame
  have hr : Engine.IntentRep (p.commands.sent cfg { message with frame } at_ ctsAt).2.engine := by
    rcases (sent_engine cfg p.commands { message with frame } at_ ctsAt).1 with he | ⟨action, he⟩
    · rw [he]
      exact h.rep
    · rw [he]
      exact (Engine.step_intent cfg.engine h.rep (.sent action at_ ctsAt)).1
  exact ⟨hok, hcase, sound_of hr (hcase.scheduled hoffers.idle h.scheduled)
    (hcase.budgeted hoffers.idle h.budgeted)⟩

theorem Sound.received (h : Sound cfg p) (message : Message) (epoch : ℕ) (at_ : ℚ) :
    Sound cfg ⟨p.commands.received cfg message epoch at_, none⟩ := by
  have hr : Engine.IntentRep (p.commands.received cfg message epoch at_).engine := by
    rw [(received_engine cfg p.commands message epoch at_).1]
    exact h.rep
  rcases received_case cfg p.commands message epoch at_ with ⟨-, ha⟩ | ⟨-, ha, he⟩
  · exact h.asks ha hr
  · rw [he] at hr ⊢
    exact sound_of hr ((h.scheduled.asks ha).answered epoch message)
      (budgeted_answered cfg _ epoch message)

theorem Sound.refreshFilters (h : Sound cfg p) : Sound cfg ⟨p.commands.refreshFilters.2, none⟩ := by
  rcases refreshFilters_case p.commands with ⟨e, he⟩ | ⟨hcomplete, hp, hr⟩
  · rw [he]
    exact h.asks (.refl _) h.rep
  · rw [refreshFilters_ok hcomplete hp hr]
    refine sound_of h.rep ⟨fun query hq => ⟨(Option.some.inj hq).symm, hcomplete⟩, fun query hq => ?_⟩
      (budgeted_zero cfg rfl)
    rw [show p.commands.pending = some query from hq] at hp
    cases hp

theorem Sound.step (h : Sound cfg p) (op : Op γ ρ) : Sound cfg (step cfg p op).1 := by
  cases op with
  | update snapshot now => exact h.update snapshot now
  | prepare valid owner now => exact h.prepare valid owner now
  | sent address at_ ctsAt =>
    unfold Participant.step
    dsimp only
    split
    · next message hreports => exact (h.sent hreports _).2.2
    · exact h.asks (.refl _) h.rep
  | received message epoch at_ => exact h.received message epoch at_
  | refreshFilters => exact h.refreshFilters
  | disconnected now =>
    exact h.asks (disconnected_asks now) (Engine.step_intent cfg.engine h.rep (.suspend now)).1
  | caller op =>
    unfold Participant.step
    dsimp only
    split
    · exact h.asks (.refl _) h.rep
    · next hop =>
      exact h.asks (asks_engine _ cfg.engine op (Bool.eq_false_iff.mpr hop))
        (Engine.step_intent cfg.engine h.rep op).1
  | attach guards => exact h.asks (asks_guards _ guards) h.rep

theorem sound (cfg : RuntimeConfig) (run : List (Op γ ρ)) (n : ℕ) :
    Sound cfg (participantAt cfg run n) :=
  (machine cfg γ ρ).stateAt_invariant
    (sound_of Engine.intentRep_init (scheduled_idle rfl rfl) (budgeted_zero cfg rfl))
    (fun _ op h => h.step op) run n

/-! ## Transmissions -/

/-- The query in flight is answered or given up, or a new epoch or configuration drops it. A
    record that is read again is no answer. -/
def Settles (cfg : RuntimeConfig) (p : Participant γ) : Op γ ρ → Prop
  | .update snapshot now => p.commands.Renews cfg snapshot ∨
    (p.commands.Late cfg now ∧ cfg.timing.queryAttempts ≤ p.commands.attempts)
  | .received message epoch at_ => p.commands.Matches message epoch ∧
    (p.commands.store at_ message).rereads cfg epoch message = false
  | _ => False

/-- What a call transmits. -/
def reported (p : Participant γ) : Op γ ρ → Option Transmission
  | .sent _ at_ ctsAt => p.reports at_ ctsAt
  | _ => none

/-- Call `n` transmits something of the kind. -/
def sendsAt (kind : Token → Bool) (cfg : RuntimeConfig) (run : List (Op γ ρ)) (n : ℕ) : Bool :=
  (run[n]?.bind (participantAt cfg run n).reported).any fun message => kind message.token

/-- The number of transmissions of the kind from call `m` on, before call `n`. -/
def transmissions (kind : Token → Bool) (cfg : RuntimeConfig) (run : List (Op γ ρ)) (m : ℕ) : ℕ → ℕ
  | 0 => 0
  | n + 1 => transmissions kind cfg run m n + if m ≤ n ∧ sendsAt kind cfg run n then 1 else 0

variable {kind : Token → Bool}

theorem transmissions_of_le (cfg : RuntimeConfig) (run : List (Op γ ρ)) {m : ℕ} (h : n ≤ m) :
    transmissions kind cfg run m n = 0 := by
  induction n with
  | zero => rfl
  | succ n ih =>
    rw [transmissions, ih (by omega), if_neg fun hle => by omega]

theorem transmissions_succ {m : ℕ} {op : Op γ ρ} (h : m ≤ n) (hop : run[n]? = some op) :
    transmissions kind cfg run m (n + 1) = transmissions kind cfg run m n +
      if ((participantAt cfg run n).reported op).any fun message => kind message.token
        then 1 else 0 := by
  simp only [transmissions, sendsAt, hop, h, true_and, Option.bind_some]

theorem transmissions_succ_none {m : ℕ} (hop : run[n]? = none) :
    transmissions kind cfg run m (n + 1) = transmissions kind cfg run m n := by
  simp [transmissions, sendsAt, hop]

theorem reported_sent {p : Participant γ} {address : UInt8} {at_ : ℚ} {ctsAt : Option ℚ}
    {reported : Option Transmission} (h : p.reports at_ ctsAt = reported) :
    p.reported (.sent address at_ ctsAt : Op γ ρ) = reported := h

/-- A call that settles nothing keeps the tally. -/
theorem Sound.tallied (h : Sound cfg p) {tally : ℕ} (ht : Tallied p.commands tally) (op : Op γ ρ)
    (hop : ¬ Settles cfg p op) :
    Tallied (Participant.step cfg p op).1.commands
      (tally + if (p.reported op).any fun message => message.token.isQuery then 1 else 0) := by
  cases op with
  | update snapshot now =>
    have hop : ¬ (p.commands.Renews cfg snapshot ∨
      (p.commands.Late cfg now ∧ cfg.timing.queryAttempts ≤ p.commands.attempts)) := hop
    push Not at hop
    exact (ht.manage hop.1 fun hlate => hop.2 hlate).asks (observe_asks snapshot now)
  | prepare valid owner now => exact ht.asks (prepare_asks valid owner now)
  | sent address at_ ctsAt =>
    unfold Participant.step
    dsimp only
    split
    · next message hreports =>
      rw [reported_sent hreports]
      exact (h.sent hreports _).2.1.tallied h.scheduled ht
    · next hnone =>
      rw [reported_sent hnone]
      exact ht
  | received message epoch at_ =>
    show Tallied (p.commands.received cfg message epoch at_) tally
    rcases received_case cfg p.commands message epoch at_ with ⟨-, ha⟩ | ⟨hmatch, ha, he⟩
    · exact ht.asks ha
    · rw [he]
      refine (ht.asks ha).reread (Bool.not_eq_false _ |>.mp fun hno => hop ⟨hmatch, hno⟩)
  | refreshFilters =>
    show Tallied p.commands.refreshFilters.2 tally
    rcases refreshFilters_case p.commands with ⟨e, he⟩ | ⟨hcomplete, hp, hr⟩
    · rw [he]
      exact ht
    · rw [ht.idle hcomplete hr]
      exact tallied_zero _
  | disconnected now => exact ht.asks (disconnected_asks now)
  | caller op =>
    show Tallied (Participant.step cfg p (.caller op : Op γ ρ)).1.commands tally
    unfold Participant.step
    dsimp only
    split
    · exact ht
    · next hop => exact ht.asks (asks_engine _ cfg.engine op (Bool.eq_false_iff.mpr hop))
  | attach guards => exact ht.asks (asks_guards _ guards)

theorem participantAt_succ {op : Op γ ρ} (h : run[n]? = some op) :
    participantAt cfg run (n + 1) = (step cfg (participantAt cfg run n) op).1 :=
  (machine cfg γ ρ).stateAt_succ h

theorem participantAt_succ_none (h : run[n]? = none) :
    participantAt cfg run (n + 1) = participantAt cfg run n :=
  (machine cfg γ ρ).stateAt_succ_none h

/-- While nothing is settled, everything that is asked is tallied. -/
theorem tallied (cfg : RuntimeConfig) (run : List (Op γ ρ)) {m n : ℕ} (hmn : m ≤ n)
    (hkeep : ∀ k op, m ≤ k → k < n → run[k]? = some op → ¬ Settles cfg (participantAt cfg run k) op) :
    Tallied (participantAt cfg run n).commands (transmissions Token.isQuery cfg run m n) := by
  induction hmn with
  | refl =>
    rw [transmissions_of_le cfg run (le_refl m)]
    exact tallied_zero _
  | @step n hmn ih =>
    have ih := ih fun k op hk hkn => hkeep k op hk (by omega)
    have hm : m ≤ n := hmn
    cases hop : run[n]? with
    | none =>
      rw [transmissions_succ_none hop, participantAt_succ_none hop]
      exact ih
    | some op =>
      rw [transmissions_succ hm hop, participantAt_succ hop]
      exact (sound cfg run n).tallied ih op (hkeep n op hm (by omega) hop)

/-- The line of `update` that reads `self._queries[self._query_index]` finds it
    (lines 60–91). -/
def IndexInRange (cfg : RuntimeConfig) (c : Commands γ) : Prop :=
  ∀ snapshot now, let d := (c.renew cfg snapshot now).restartQueries cfg now
    d.Late cfg now → cfg.timing.queryAttempts ≤ d.attempts → d.refresh = none →
      d.queryIndex < queries.length

/-- What the scheduler guarantees in a run. -/
structure MetadataSafety (cfg : RuntimeConfig) (run : List (Op γ ρ)) : Prop where
  scheduled : ∀ n, Scheduled (participantAt cfg run n).commands
  index : ∀ n, IndexInRange cfg (participantAt cfg run n).commands
  /-- A transmission that has been prepared can always be reported. -/
  sent : ∀ n e, (machine cfg γ ρ).outAt run n ≠ some (.receipt (.error e))
  /-- Until it is answered or given up, a query is transmitted at most `query_attempts`
      times. -/
  bounded : ∀ m n, (∀ k op, m ≤ k → k < n → run[k]? = some op →
    ¬ Settles cfg (participantAt cfg run k) op) →
      transmissions Token.isQuery cfg run m n ≤ cfg.timing.queryAttempts

theorem Scheduled.restart {c : Commands γ} (h : Scheduled c) (snapshot : Snapshot) (now : ℚ) :
    Scheduled ((c.renew cfg snapshot now).restartQueries cfg now) := by
  have hrenewed : Scheduled (c.renew cfg snapshot now) := by
    by_cases hrenew : c.Renews cfg snapshot
    · obtain ⟨hrefresh, hpending, -⟩ := hrenew.renew now
      exact scheduled_idle hrefresh hpending
    · rw [show c.renew cfg snapshot now = c from if_neg hrenew]
      exact h
  rcases restartQueries_case cfg (c.renew cfg snapshot now) now with hsame | ⟨hidle, -, hrestart⟩
  · rw [hsame]
    exact hrenewed
  · obtain ⟨-, hpending, hrefresh⟩ := metadataIdle_iff.mp hidle
    rw [hrestart]
    exact scheduled_idle hrefresh hpending

/-- **The metadata scheduler is safe in every run.** -/
theorem metadata_scheduled (cfg : RuntimeConfig) (run : List (Op γ ρ)) : MetadataSafety cfg run where
  scheduled n := (sound cfg run n).scheduled
  index n snapshot now hlate _ hrefresh := by
    obtain ⟨query, hquery⟩ := Option.ne_none_iff_exists'.mp hlate.1
    rcases (Scheduled.restart (sound cfg run n).scheduled snapshot now).pending query hquery with
      ⟨hfilters, -⟩ | ⟨hindex, -⟩
    · rw [hrefresh] at hfilters
      cases hfilters
    · exact hindex
  sent n e hout := by
    obtain ⟨op, -, hstep⟩ := (machine cfg γ ρ).outAt_eq_some.mp hout
    have hs := sound cfg run n
    cases op with
    | sent address at_ ctsAt =>
      have hstep : (step cfg (participantAt cfg run n) (.sent address at_ ctsAt : Op γ ρ)).2 =
        .receipt (.error e) := hstep
      unfold step at hstep
      dsimp only at hstep
      split at hstep
      · next message hreports =>
        rw [(hs.sent hreports _).1] at hstep
        cases hstep
      · cases hstep
    | caller op =>
      have hstep : (step cfg (participantAt cfg run n) (.caller op : Op γ ρ)).2 =
        .receipt (.error e) := hstep
      unfold step at hstep
      dsimp only at hstep
      split at hstep <;> cases hstep
    | _ => cases hstep
  bounded m n hkeep := by
    rcases Nat.le_total m n with hmn | hnm
    · exact (tallied cfg run hmn hkeep).attempts.trans (sound cfg run n).budgeted.spent
    · rw [transmissions_of_le cfg run hnm]
      exact Nat.zero_le _

end Participant

end BalboaRs485
