import BalboaRs485.Command.Pending
import BalboaRs485.Transport.Connection

/-!
# The participant of the connection

Model of `_Commands` in `runtime.py`: the command engine, the metadata queries
around it and the guards that callers attach to their goals. A guard is a closure
of its caller; here it is a value of a type `γ`, and calling it may change the
state `ρ` of its owner.

* `update_engine`, `prepare_engine`, `sent_engine`, `received_engine`: every
  method only uses the interface of the engine, and never `request`.
* `prepare_action`: an action that `prepare` returns is the next action of the
  engine the guards have been applied to.
-/

namespace BalboaRs485

/-- `busy` (`command/engine.py` lines 183–185). -/
def Engine.busy (s : Engine) : Bool := s.inflight.isSome

/-- What `update` reads of a `Snapshot` (`transport/connection.py` lines 63–90). The
    latest status comes with `health.last_status`, which `update` asserts to be known
    with it. -/
structure Snapshot where
  state : ConnectionState := .disconnected
  epoch : ℕ := 0
  configuration : Option Configuration := none
  status : Option (StatusMessage × ℚ) := none
  statusSequence : ℕ := 0

/-- `available` (`transport/connection.py` lines 86–88). -/
def Snapshot.available (s : Snapshot) : Bool := s.state = .ready

/-- `snapshot` (`transport/connection.py` lines 179–220). -/
def Connection.snapshot (c : Connection) : Snapshot where
  state := c.state
  epoch := c.epoch
  configuration := c.configuration
  status :=
    match c.status, c.lastStatus with
    | some status, some lastStatus => some (status, lastStatus)
    | _, _ => none
  statusSequence := c.statusSequence

/-- A snapshot with what else its observers in Home Assistant read: two flags of its `Health`. -/
structure ObservedSnapshot where
  snapshot : Snapshot
  statusStale : Bool
  readyMissing : Bool

namespace ObservedSnapshot

variable (v : ObservedSnapshot)

/-- `observed_status` (`transport/connection.py` lines 91–104), with its time. -/
def observedStatus : Option (StatusMessage × ℚ) :=
  if v.snapshot.state ∈ [.disconnected, .connecting, .waitingForFrame, .recovering] ∨
      v.statusStale then none
  else v.snapshot.status

/-- `_ready_epoch` of an observer, after the snapshot. -/
def readyEpoch (ready : Option ℕ) : Option ℕ :=
  if v.snapshot.available then some v.snapshot.epoch else ready

/-- `refresh` of an observer: a routine refresh of the metadata. -/
def Refresh (ready : Option ℕ) : Prop :=
  v.snapshot.state = .synchronizing ∧ v.readyEpoch ready = some v.snapshot.epoch ∧ ¬ v.readyMissing

instance (ready : Option ℕ) : Decidable (v.Refresh ready) :=
  inferInstanceAs (Decidable (_ ∧ _ ∧ ¬ _))

end ObservedSnapshot

/-- What a `SpaRuntime` is built with (`runtime.py` lines 212–240). -/
structure RuntimeConfig where
  engine : EngineConfig
  timing : Timing := .default
  metadataRefreshInterval : ℚ := 300
  interval_pos : 0 < metadataRefreshInterval := by norm_num
  sha256 : Bytes → Bytes

/-- `Transmission.token`: what the participant recognizes its frame by. -/
inductive Token where
  | query (query : Query)
  | action (action : Action)
deriving DecidableEq

/-- `Transmission` (`transport/participant.py` lines 15–18). -/
structure Transmission where
  frame : Frame
  token : Token
deriving DecidableEq

/-- `_Commands` (lines 20–41). -/
structure Commands (γ : Type) where
  engine : Engine := {}
  setup : Option SetupMessage := none
  filters : Option FilterCyclesMessage := none
  filtersAt : Option ℚ := none
  refresh : Option Query := none
  refreshVersion : ℕ := 0
  refreshSuccess : Bool := false
  fault : Option FaultLogMessage := none
  epoch : ℕ := 0
  nextMetadataRefresh : ℚ := 0
  configuration : Option Bytes := none
  queryIndex : ℕ := 0
  pending : Option Query := none
  sentAt : ℚ := 0
  attempts : ℕ := 0
  filterConfirmationReads : ℕ := 0
  failures : List Query := []
  guards : Dict Control (ℕ × γ) := .empty

/-- The errors the participant raises. -/
inductive CommandsError where
  /-- `ValueError("Metadata query already pending or not synchronized")`. -/
  | metadata
  | sent (e : Engine.SentError)
deriving DecidableEq

namespace Commands

variable {γ ρ : Type}

/-- `self._queries`. -/
def queries : List Query := [.setup, .filters, .fault]

/-- `metadata_complete` (lines 47–49). -/
def metadataComplete (c : Commands γ) : Bool := queries.length ≤ c.queryIndex

/-- `metadata_idle` (lines 51–53). -/
def metadataIdle (c : Commands γ) : Bool :=
  c.metadataComplete ∧ c.pending = none ∧ c.refresh = none

/-- `busy` (lines 55–57). -/
def busy (c : Commands γ) : Bool := c.engine.busy ∨ c.pending ≠ none

/-! ## Updates -/

/-- A new epoch or configuration drops what was read before (lines 60–78). -/
def renew (cfg : RuntimeConfig) (c : Commands γ) (snapshot : Snapshot) (now : ℚ) : Commands γ :=
  let signature := snapshot.configuration.map (Configuration.signature cfg.sha256)
  if snapshot.epoch ≠ c.epoch ∨ (signature ≠ none ∧ signature ≠ c.configuration) then
    { c with
      epoch := snapshot.epoch
      configuration := signature
      setup := none
      filters := none
      filtersAt := none
      refresh := none
      refreshSuccess := false
      refreshVersion := c.refreshVersion + 1
      fault := none
      pending := none
      queryIndex := 0
      attempts := 0
      filterConfirmationReads := 0
      nextMetadataRefresh := now + cfg.metadataRefreshInterval
      failures := [] }
  else c

/-- The periodic round of queries (lines 79–82). -/
def restartQueries (cfg : RuntimeConfig) (c : Commands γ) (now : ℚ) : Commands γ :=
  if c.metadataIdle ∧ ¬ c.engine.busy ∧ c.nextMetadataRefresh ≤ now then
    { c with
      queryIndex := 0
      attempts := 0
      nextMetadataRefresh := now + cfg.metadataRefreshInterval
      failures := [] }
  else c

/-- A query without an answer is given up (lines 85–93). -/
def giveUpQuery (cfg : RuntimeConfig) (c : Commands γ) : Commands γ :=
  if cfg.timing.queryAttempts ≤ c.attempts then
    if c.refresh ≠ none then
      { c with
        refresh := none
        refreshSuccess := false
        refreshVersion := c.refreshVersion + 1
        attempts := 0 }
    else
      { c with
        failures := c.failures ++ queries[c.queryIndex]?.toList
        queryIndex := c.queryIndex + 1
        attempts := 0 }
  else c

/-- The query timeout (lines 83–93). -/
def expireQuery (cfg : RuntimeConfig) (c : Commands γ) (now : ℚ) : Commands γ :=
  if c.pending ≠ none ∧ cfg.timing.queryTimeout ≤ now - c.sentAt then
    { c with pending := none }.giveUpQuery cfg
  else c

/-- The observation of a snapshot (lines 94–107). -/
def observation (c : Commands γ) (snapshot : Snapshot) : Option SpaState :=
  match snapshot.configuration, snapshot.status with
  | some configuration, some (status, lastStatus) =>
    some
      { status
        configuration
        epoch := snapshot.epoch
        sequence := snapshot.statusSequence
        observedAt := lastStatus
        available := snapshot.available
        setup := c.setup
        filters := c.filters
        fault := c.fault
        filtersAt := c.filtersAt }
  | _, _ => none

/-- Lines 94–111: the engine observes, or loses its connection. -/
def observe (cfg : RuntimeConfig) (c : Commands γ) (snapshot : Snapshot) (now : ℚ) : Commands γ :=
  match c.observation snapshot with
  | some state => { c with engine := c.engine.observe cfg.engine state now }
  | none => { c with engine := (c.engine.tick cfg.engine now).suspend now }

/-- The part of `update` in front of the engine (lines 60–93). -/
def manageQueries (cfg : RuntimeConfig) (c : Commands γ) (snapshot : Snapshot) (now : ℚ) :
    Commands γ :=
  ((c.renew cfg snapshot now).restartQueries cfg now).expireQuery cfg now

/-- `update` (lines 59–111). -/
def update (cfg : RuntimeConfig) (c : Commands γ) (snapshot : Snapshot) (now : ℚ) : Commands γ :=
  (c.manageQueries cfg snapshot now).observe cfg snapshot now

/-! ## Transmission -/

/-- The goal of a guard can still be sent. -/
def guardsPending (c : Commands γ) (id : ℕ) : Bool :=
  (c.engine.intent id).any fun item => ¬ item.stage.terminal

/-- The loop over the guards (lines 116–127), which runs over a copy of them.
    `valid` calls a guard: its answer, and what the call has changed. -/
def admitGuards (valid : Control → γ → ρ → Bool × γ × ρ) :
    List (Control × ℕ × γ) → Commands γ → ρ → Commands γ × ρ
  | [], c, r => (c, r)
  | (control, id, guard) :: rest, c, r =>
    if ¬ c.guardsPending id then
      admitGuards valid rest { c with guards := c.guards.pop control } r
    else
      match valid control guard r with
      | (true, guard, r) =>
        admitGuards valid rest { c with guards := c.guards.set control (id, guard) } r
      | (false, _, r) =>
        admitGuards valid rest
          { c with
            engine := c.engine.cancel control none
            guards := c.guards.pop control } r

/-- What `prepare` offers once the guards are applied (lines 128–136). -/
def offer (cfg : RuntimeConfig) (c : Commands γ) (now : ℚ) : Option Transmission × Commands γ :=
  if c.pending ≠ none then (none, c)
  else
    match queries[c.queryIndex]?, c.refresh with
    | some query, _ => (some ⟨encodeQuery query, .query query⟩, c)
    | none, some query => (some ⟨encodeQuery query, .query query⟩, c)
    | none, none =>
      match c.engine.nextAction cfg.engine now with
      | (some action, engine) => (some ⟨action.frame, .action action⟩, { c with engine })
      | (none, engine) => (none, { c with engine })

/-- `prepare` (lines 113–136). -/
def prepare (cfg : RuntimeConfig) (valid : Control → γ → ρ → Bool × γ × ρ) (c : Commands γ) (r : ρ)
    (now : ℚ) : Option Transmission × Commands γ × ρ :=
  let admitted := admitGuards valid c.guards.entries c r
  let offered := admitted.1.offer cfg now
  (offered.1, offered.2, admitted.2)

/-- `refresh_filters` (lines 156–161). -/
def refreshFilters (c : Commands γ) : Except CommandsError Unit × Commands γ :=
  if ¬ c.metadataComplete ∨ c.pending ≠ none ∨ c.refresh ≠ none then (.error .metadata, c)
  else (.ok (), { c with refresh := some .filters, attempts := 0, refreshSuccess := false })

/-- A filter write waits for its confirmation (lines 141–146 and 182–187). -/
def writingFilters (c : Commands γ) : Option Transaction :=
  c.engine.inflight.filter fun pending => pending.action.intent.control = .filters

/-- `sent` (lines 138–154). The engine records the frame as it was readdressed. -/
def sent (cfg : RuntimeConfig) (c : Commands γ) (message : Transmission) (at_ : ℚ)
    (ctsAt : Option ℚ) : Except CommandsError Unit × Commands γ :=
  match message.token with
  | .query query =>
    (.ok (), { c with
      pending := some query
      sentAt := at_
      attempts := c.attempts + 1
      filterConfirmationReads := c.filterConfirmationReads +
        if query = .filters ∧ c.writingFilters.isSome then 1 else 0 })
  | .action action =>
    match c.engine.sent cfg.engine { action with frame := message.frame } at_ ctsAt with
    | (.error e, engine) => (.error (.sent e), { c with engine })
    | (.ok (), engine) =>
      if action.intent.control = .filters then
        { c with engine, filterConfirmationReads := 0 }.refreshFilters
      else (.ok (), { c with engine })

/-! ## Answers -/

/-- The record a message carries (lines 166–176). A reflected write is no
    confirmation, so only an answer dates the filter record. -/
def store (c : Commands γ) (at_ : ℚ) : Message → Commands γ
  | .setup m => { c with setup := some m }
  | .filterCycles m =>
    { c with
      filters := some m
      filtersAt := if c.pending = some .filters then some at_ else none }
  | .faultLog m => { c with fault := some m }
  | _ => c

/-- The query a message answers. -/
def answers : Message → Option Query
  | .setup _ => some .setup
  | .filterCycles _ => some .filters
  | .faultLog _ => some .fault
  | _ => none

/-- The record read back is not the one written, and may be read again
    (lines 182–190). -/
def rereads (cfg : RuntimeConfig) (c : Commands γ) (epoch : ℕ) : Message → Bool
  | .filterCycles m =>
    c.refresh = some .filters ∧ c.filterConfirmationReads < cfg.timing.queryAttempts ∧
      c.writingFilters.any fun pending => pending.action.epoch = epoch ∧
        ¬ (Value.filters m.schedule).pyEq pending.action.intent.desired
  | _ => false

/-- The query in flight is answered (lines 179–203). -/
def answered (cfg : RuntimeConfig) (c : Commands γ) (epoch : ℕ) (message : Message) : Commands γ :=
  if c.rereads cfg epoch message then { c with pending := none, attempts := c.filterConfirmationReads }
  else if c.refresh ≠ none then
    { c with
      pending := none
      attempts := 0
      refresh := none
      refreshVersion := c.refreshVersion + 1
      refreshSuccess := true }
  else { c with pending := none, attempts := 0, queryIndex := c.queryIndex + 1 }

/-- `received` (lines 163–203). -/
def received (cfg : RuntimeConfig) (c : Commands γ) (message : Message) (epoch : ℕ) (at_ : ℚ) :
    Commands γ :=
  if epoch ≠ c.epoch then c
  else if answers message ≠ none ∧ c.pending = answers message then
    (c.store at_ message).answered cfg epoch message
  else c.store at_ message

/-- `disconnected` (lines 205–206). -/
def disconnected (c : Commands γ) (now : ℚ) : Commands γ :=
  { c with engine := c.engine.suspend now }

/-! ## The engine and the guards -/

section Lemmas

variable (cfg : RuntimeConfig) (c : Commands γ)

theorem giveUpQuery_engine : (c.giveUpQuery cfg).engine = c.engine ∧
    (c.giveUpQuery cfg).guards = c.guards := by
  unfold giveUpQuery
  split
  · split <;> exact ⟨rfl, rfl⟩
  · exact ⟨rfl, rfl⟩

/-- The queries are managed apart from the engine and the guards. -/
theorem manageQueries_engine (snapshot : Snapshot) (now : ℚ) :
    (c.manageQueries cfg snapshot now).engine = c.engine ∧
      (c.manageQueries cfg snapshot now).guards = c.guards := by
  have hrenew : (c.renew cfg snapshot now).engine = c.engine ∧
      (c.renew cfg snapshot now).guards = c.guards := by
    unfold renew
    dsimp only
    split <;> exact ⟨rfl, rfl⟩
  have hrestart : ∀ c : Commands γ, (c.restartQueries cfg now).engine = c.engine ∧
      (c.restartQueries cfg now).guards = c.guards := by
    intro c
    unfold restartQueries
    split <;> exact ⟨rfl, rfl⟩
  have hexpire : ∀ c : Commands γ, (c.expireQuery cfg now).engine = c.engine ∧
      (c.expireQuery cfg now).guards = c.guards := by
    intro c
    unfold expireQuery
    split
    · exact giveUpQuery_engine cfg _
    · exact ⟨rfl, rfl⟩
  unfold manageQueries
  rw [(hexpire _).1, (hexpire _).2, (hrestart _).1, (hrestart _).2]
  exact hrenew

theorem update_guards (snapshot : Snapshot) (now : ℚ) :
    (c.update cfg snapshot now).guards = c.guards := by
  unfold update observe
  split <;> exact (manageQueries_engine cfg c snapshot now).2

/-- `update` shows the engine the observation of the snapshot, or takes the one it
    has away. -/
theorem update_engine (snapshot : Snapshot) (now : ℚ) :
    (∃ o, (c.manageQueries cfg snapshot now).observation snapshot = some o ∧
        (c.update cfg snapshot now).engine = c.engine.observe cfg.engine o now) ∨
      (c.manageQueries cfg snapshot now).observation snapshot = none ∧
        (c.update cfg snapshot now).engine = (c.engine.tick cfg.engine now).suspend now := by
  unfold update observe
  split
  · next o ho => exact Or.inl ⟨o, ho, by rw [(manageQueries_engine cfg c snapshot now).1]⟩
  · next ho => exact Or.inr ⟨ho, by rw [(manageQueries_engine cfg c snapshot now).1]⟩

theorem refreshFilters_engine : c.refreshFilters.2.engine = c.engine ∧
    c.refreshFilters.2.guards = c.guards := by
  unfold refreshFilters
  split <;> exact ⟨rfl, rfl⟩

theorem sent_engine (message : Transmission) (at_ : ℚ) (ctsAt : Option ℚ) :
    ((c.sent cfg message at_ ctsAt).2.engine = c.engine ∨
      ∃ action, (c.sent cfg message at_ ctsAt).2.engine =
        (c.engine.sent cfg.engine action at_ ctsAt).2) ∧
      (c.sent cfg message at_ ctsAt).2.guards = c.guards := by
  unfold sent
  split
  · exact ⟨Or.inl rfl, rfl⟩
  · next action _ =>
    split
    · next engine he => exact ⟨Or.inr ⟨_, (congrArg Prod.snd he).symm⟩, rfl⟩
    · next engine he =>
      split
      · rw [(refreshFilters_engine _).1, (refreshFilters_engine _).2]
        exact ⟨Or.inr ⟨_, (congrArg Prod.snd he).symm⟩, rfl⟩
      · exact ⟨Or.inr ⟨_, (congrArg Prod.snd he).symm⟩, rfl⟩

theorem received_engine (message : Message) (epoch : ℕ) (at_ : ℚ) :
    (c.received cfg message epoch at_).engine = c.engine ∧
      (c.received cfg message epoch at_).guards = c.guards := by
  have hstore : (c.store at_ message).engine = c.engine ∧
      (c.store at_ message).guards = c.guards := by
    unfold store
    split <;> exact ⟨rfl, rfl⟩
  have hanswered : ∀ c : Commands γ, (c.answered cfg epoch message).engine = c.engine ∧
      (c.answered cfg epoch message).guards = c.guards := by
    intro c
    unfold answered
    split
    · exact ⟨rfl, rfl⟩
    · split <;> exact ⟨rfl, rfl⟩
  unfold received
  split
  · exact ⟨rfl, rfl⟩
  · split
    · rw [(hanswered _).1, (hanswered _).2]
      exact hstore
    · exact hstore

/-! ## `prepare` -/

/-- A call of `prepare` on the engine. -/
def PrepareOp : EngineOp → Prop
  | .cancel _ none => True
  | .nextAction _ => True
  | _ => False

theorem PrepareOp.noRequest {op : EngineOp} (h : PrepareOp op) : Engine.NoRequest op := by
  rintro r rfl
  exact h

theorem PrepareOp.noObserve {op : EngineOp} (h : PrepareOp op) : Engine.NoObserve op := by
  rintro o now rfl
  exact h

variable (valid : Control → γ → ρ → Bool × γ × ρ)

/-- The guards cancel goals, and do nothing else to the engine. -/
theorem admitGuards_engine (l : List (Control × ℕ × γ)) (r : ρ) :
    Engine.Calls cfg.engine PrepareOp c.engine (admitGuards valid l c r).1.engine := by
  induction l generalizing c r with
  | nil => exact .refl _
  | cons entry l ih =>
    obtain ⟨control, id, guard⟩ := entry
    unfold admitGuards
    split
    · exact ih { c with guards := c.guards.pop control } r
    · split
      · next guard r _ => exact ih { c with guards := c.guards.set control (id, guard) } r
      · next r _ =>
        have hcancel : Engine.Calls cfg.engine PrepareOp c.engine (c.engine.cancel control none) :=
          .one (.cancel control none) trivial
        exact hcancel.trans (ih { c with
          engine := c.engine.cancel control none
          guards := c.guards.pop control } r)

/-- What every call of a guard keeps of its owners is kept. -/
theorem admitGuards_owner {P : ρ → Prop} (hP : ∀ control g r, P r → P (valid control g r).2.2)
    (l : List (Control × ℕ × γ)) (r : ρ) (h : P r) : P (admitGuards valid l c r).2 := by
  induction l generalizing c r with
  | nil => exact h
  | cons entry l ih =>
    obtain ⟨control, id, guard⟩ := entry
    unfold admitGuards
    split
    · exact ih _ _ h
    · split
      · next g r' heq => exact ih _ _ (by have := hP control guard r h; rwa [heq] at this)
      · next g r' heq => exact ih _ _ (by have := hP control guard r h; rwa [heq] at this)

theorem offer_engine (now : ℚ) :
    Engine.Calls cfg.engine PrepareOp c.engine (c.offer cfg now).2.engine := by
  have hnext : Engine.Calls cfg.engine PrepareOp c.engine (c.engine.nextAction cfg.engine now).2 :=
    .one (.nextAction now) trivial
  unfold offer
  split
  · exact .refl _
  · split
    · exact .refl _
    · exact .refl _
    · split
      · next heq => rwa [heq] at hnext
      · next heq => rwa [heq] at hnext

theorem prepare_engine (r : ρ) (now : ℚ) :
    Engine.Calls cfg.engine PrepareOp c.engine (c.prepare cfg valid r now).2.1.engine :=
  (admitGuards_engine cfg c valid _ r).trans (offer_engine cfg _ now)

/-- An action is only offered as the next action of the engine. -/
theorem offer_action {now : ℚ} {t : Transmission} {action : Action}
    (h : (c.offer cfg now).1 = some t) (ht : t.token = .action action) :
    (c.engine.nextAction cfg.engine now).1 = some action ∧ t.frame = action.frame := by
  unfold offer at h
  split at h
  · cases h
  · split at h
    · cases h; cases ht
    · cases h; cases ht
    · split at h
      · next heq => cases h; cases ht; exact ⟨by rw [heq], rfl⟩
      · cases h

/-- **What `prepare` hands out**: the next action of the engine the guards have been
    applied to. -/
theorem prepare_action {r : ρ} {now : ℚ} {t : Transmission} {action : Action}
    (h : (c.prepare cfg valid r now).1 = some t) (ht : t.token = .action action) :
    ∃ e, Engine.Calls cfg.engine PrepareOp c.engine e ∧
      (e.nextAction cfg.engine now).1 = some action :=
  ⟨_, admitGuards_engine cfg c valid c.guards.entries r, (offer_action cfg _ h ht).1⟩

end Lemmas

end Commands

end BalboaRs485
