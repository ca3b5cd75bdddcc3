import BalboaRs485.Command.Readback
import BalboaRs485.Runtime.Metadata

/-!
# The readback of a filter write

A filter write that is sent asks for the record until a reply shows it. Two counters
bound how often: `_attempts` for lost replies, `_filter_confirmation_reads` for those
that differ.

* `Reading`: while a write is the pending transaction, both counters know how often the
  record has been asked for.
* `Reading.step`: every call that leaves the write pending keeps that.
* `confirmation_bounded`: the transaction stays as it is, nothing else is sent, and the
  record is asked for until a reply shows it or `query_attempts` times.
-/

namespace BalboaRs485

namespace Participant

open Commands

variable {γ ρ : Type} {cfg : RuntimeConfig} {run : List (Op γ ρ)} {p : Participant γ}
  {c d : Commands γ} {tx : Transaction} {n reads others : ℕ}

/-- The token asks for the filter record. -/
def asksFilters (token : Token) : Bool := token = .query .filters

/-- Someone else asks for a fresh filter record, and `refresh_filters` accepts it. -/
def refreshes (p : Participant γ) : Op γ ρ → Bool
  | .refreshFilters => p.commands.refreshFilters.1.isOk
  | _ => false

/-- The reply to the query in flight shows the record that was written. -/
def Confirms (tx : Transaction) (p : Participant γ) : Op γ ρ → Prop
  | .received (.filterCycles m) epoch _ => p.commands.Matches (.filterCycles m) epoch ∧
    (Value.filters m.schedule).pyEq tx.action.intent.desired = true
  | _ => False

/-- The write `tx` is pending in its epoch; the record has been asked for `reads` times, and
    `others` more refreshes have been accepted. -/
structure Reading (cfg : RuntimeConfig) (tx : Transaction) (c : Commands γ) (reads others : ℕ) :
    Prop where
  inflight : c.engine.inflight = some tx
  filters : tx.action.intent.control = .filters
  epoch : tx.action.epoch = c.epoch
  complete : c.metadataComplete = true
  attempts : c.refresh ≠ none → c.attempts ≤ c.filterConfirmationReads
  refreshing : c.refresh ≠ none → reads ≤ cfg.timing.queryAttempts * others + c.attempts
  total : reads ≤ cfg.timing.queryAttempts * (others + 1)

/-- The readback that the write has begun goes on, or has been made often enough. -/
def Continues (cfg : RuntimeConfig) (c : Commands γ) (reads : ℕ) : Prop :=
  (c.refresh = some .filters ∧ c.attempts = reads ∧ c.filterConfirmationReads = reads) ∨
    cfg.timing.queryAttempts ≤ reads

theorem Reading.writing (h : Reading cfg tx c reads others) : c.writingFilters = some tx :=
  Option.filter_eq_some_iff.mpr ⟨h.inflight, by simpa using h.filters⟩

theorem Reading.asks (h : Reading cfg tx c reads others) (ha : Asks c d)
    (hnext : d.engine.inflight ≠ none) : Reading cfg tx d reads others := by
  obtain ⟨pending, hpending⟩ := Option.ne_none_iff_exists'.mp hnext
  have hsame := ha.inflight pending hpending
  rw [h.inflight] at hsame
  cases hsame
  exact ⟨hpending, h.filters, h.epoch.trans ha.epoch.symm, ha.complete.trans h.complete,
    by rw [ha.refresh, ha.attempts, ha.reads]; exact h.attempts,
    by rw [ha.refresh, ha.attempts]; exact h.refreshing, h.total⟩

theorem Continues.asks (h : Continues cfg c reads) (ha : Asks c d) : Continues cfg d reads := by
  unfold Continues
  rw [ha.refresh, ha.attempts, ha.reads]
  exact h

/-! ## `update` -/

/-- `update` gives the readback up when it has been made often enough. -/
theorem Reading.manage (h : Reading cfg tx c reads others) (hs : Scheduled c)
    {snapshot : Snapshot} (hkeep : ¬ c.Renews cfg snapshot) (now : ℚ) :
    Reading cfg tx (c.manageQueries cfg snapshot now) reads others ∧
      (Continues cfg c reads → Continues cfg (c.manageQueries cfg snapshot now) reads) := by
  have hcase := manage_case cfg c snapshot now
  generalize c.manageQueries cfg snapshot now = d at hcase
  cases hcase with
  | renewed hrenew => exact absurd hrenew hkeep
  | restarted _ _ hfree =>
    rw [Engine.busy, h.inflight] at hfree
    cases hfree
  | kept => exact ⟨h, id⟩
  | lost => exact ⟨⟨h.inflight, h.filters, h.epoch, h.complete, h.attempts, h.refreshing, h.total⟩, id⟩
  | refreshFailed _ _ hspent hrefresh =>
    refine ⟨⟨h.inflight, h.filters, h.epoch, h.complete, fun hr => absurd rfl hr,
      fun hr => absurd rfl hr, h.total⟩, ?_⟩
    rintro (⟨-, hattempts, -⟩ | hdone)
    · exact Or.inr (hattempts ▸ hspent)
    · exact Or.inr hdone
  | queryFailed _ hlate _ hrefresh =>
    -- nothing but the refresh is pending behind the round
    obtain ⟨query, hquery⟩ := Option.ne_none_iff_exists'.mp hlate.1
    rcases hs.pending query hquery with ⟨hfilters, -⟩ | ⟨hindex, -⟩
    · rw [hrefresh] at hfilters
      cases hfilters
    · exact absurd (metadataComplete_iff.mp h.complete) (by omega)

/-! ## `received` -/

/-- Behind the round only the filter refresh waits for a reply. -/
theorem Reading.awaits (h : Reading cfg tx c reads others) (hs : Scheduled c) {message : Message}
    {epoch : ℕ} (hmatch : c.Matches message epoch) :
    c.refresh = some .filters ∧ ∃ m, message = .filterCycles m := by
  obtain ⟨-, hanswers, hpending⟩ := hmatch
  obtain ⟨query, hquery⟩ := Option.ne_none_iff_exists'.mp hanswers
  rw [hquery] at hpending
  rcases hs.pending query hpending with ⟨hrefresh, rfl⟩ | ⟨hindex, -⟩
  · refine ⟨hrefresh, ?_⟩
    unfold answers at hquery
    split at hquery <;> first | cases hquery; done | exact ⟨_, rfl⟩
  · exact absurd (metadataComplete_iff.mp h.complete) (by omega)

theorem Reading.answered (h : Reading cfg tx c reads others)
    {m : FilterCyclesMessage} {epoch : ℕ} (hrefresh : c.refresh = some .filters)
    (hepoch : epoch = c.epoch) :
    Reading cfg tx (c.answered cfg epoch (.filterCycles m)) reads others ∧
      (Continues cfg c reads →
        (Value.filters m.schedule).pyEq tx.action.intent.desired = false →
        Continues cfg (c.answered cfg epoch (.filterCycles m)) reads) := by
  have hne : c.refresh ≠ none := by rw [hrefresh]; simp
  have hattempts := h.attempts hne
  unfold Commands.answered
  split
  · -- the record is asked for again; every reply so far was to one of the reads
    refine ⟨⟨h.inflight, h.filters, h.epoch, h.complete, fun _ => le_rfl, fun _ => ?_, h.total⟩, ?_⟩
    · exact (h.refreshing hne).trans (Nat.add_le_add_left hattempts _)
    · rintro (⟨hr, -, hreads⟩ | hdone) -
      · exact Or.inl ⟨hr, hreads, hreads⟩
      · exact Or.inr hdone
  next hno =>
  refine ⟨⟨h.inflight, h.filters, h.epoch, h.complete, fun hr => absurd rfl hr,
    fun hr => absurd rfl hr, h.total⟩, ?_⟩
  rintro (⟨-, -, hreads⟩ | hdone) hdiffers
  · -- a record that differs is only accepted when the budget is spent
    refine Or.inr (not_lt.mp fun hlt => hno ?_)
    unfold rereads
    simp [hrefresh, hreads, hlt, h.writing, h.epoch, hepoch, hdiffers]
  · exact Or.inr hdone

theorem Reading.received (h : Reading cfg tx c reads others) (hs : Scheduled c)
    (message : Message) (epoch : ℕ) (at_ : ℚ) :
    Reading cfg tx (c.received cfg message epoch at_) reads others ∧
      (Continues cfg c reads → (∀ m, message = .filterCycles m → c.Matches message epoch →
        (Value.filters m.schedule).pyEq tx.action.intent.desired = false) →
        Continues cfg (c.received cfg message epoch at_) reads) := by
  have hengine := (received_engine cfg c message epoch at_).1
  rcases received_case cfg c message epoch at_ with ⟨-, ha⟩ | ⟨hmatch, ha, he⟩
  · have hnext : (c.received cfg message epoch at_).engine.inflight ≠ none := by
      rw [hengine, h.inflight]
      simp
    exact ⟨h.asks ha hnext, fun hc _ => hc.asks ha⟩
  · obtain ⟨hrefresh, m, rfl⟩ := h.awaits hs hmatch
    have hstored : (c.store at_ (.filterCycles m)).engine.inflight ≠ none := by
      show c.engine.inflight ≠ none
      rw [h.inflight]
      simp
    obtain ⟨hread, hcontinues⟩ := (h.asks ha hstored).answered (m := m)
      (ha.refresh.trans hrefresh) (hmatch.1.trans ha.epoch.symm)
    rw [he]
    exact ⟨hread, fun hc hdiffers => hcontinues (hc.asks ha) (hdiffers m rfl hmatch)⟩

/-! ## `refresh_filters` and `sent` -/

theorem Reading.refreshFilters (h : Reading cfg tx c reads others) :
    Reading cfg tx c.refreshFilters.2 reads (others + if c.refreshFilters.1.isOk then 1 else 0) ∧
      (Continues cfg c reads → Continues cfg c.refreshFilters.2 reads) := by
  rcases refreshFilters_case c with ⟨e, he⟩ | ⟨hcomplete, hp, hr⟩
  · rw [he]
    exact ⟨h, id⟩
  · rw [refreshFilters_ok hcomplete hp hr]
    refine ⟨⟨h.inflight, h.filters, h.epoch, h.complete, fun _ => Nat.zero_le _, fun _ => h.total, ?_⟩,
      ?_⟩
    · show reads ≤ cfg.timing.queryAttempts * (others + 1 + 1)
      exact h.total.trans (Nat.mul_le_mul_left _ (Nat.le_succ _))
    · rintro (⟨hfilters, -⟩ | hdone)
      · rw [hr] at hfilters
        cases hfilters
      · exact Or.inr hdone

/-- No action is offered while a transaction is in flight. -/
theorem Offers.free {message : Transmission} {preparedAt : ℚ} {action : Action}
    (h : Offers cfg c message preparedAt) (htoken : message.token = .action action) :
    c.engine.inflight = none := by
  obtain ⟨-, -, s, -, hnext, hengine⟩ := h.action action htoken
  rw [hengine, (Engine.nextAction_core cfg.engine s preparedAt).inflight]
  exact (Engine.nextAction_some hnext).2.1

/-- While the write is pending, what is sent asks for the record, within the budget. -/
theorem Reading.sent (h : Reading cfg tx c reads others) (hs : Scheduled c) (hb : Budgeted cfg c)
    {message : Transmission} {preparedAt at_ : ℚ} (ho : Offers cfg c message preparedAt)
    (hcase : SentCase cfg c message at_ d) :
    message.token = .query .filters ∧ Reading cfg tx d (reads + 1) others ∧
      (Continues cfg c reads → Continues cfg d (reads + 1)) := by
  cases hcase with
  | query query htoken hdue =>
    have hrefresh : c.refresh = some query := by
      rcases hdue with ⟨hindex, -⟩ | ⟨-, hdue⟩
      · exact absurd (metadataComplete_iff.mp h.complete) (by omega)
      · exact hdue
    obtain rfl := (hs.refresh query hrefresh).1
    have hne : c.refresh ≠ none := by rw [hrefresh]; simp
    have hattempts := h.attempts hne
    have hreads := h.refreshing hne
    have hroom := hb.idle ho.idle
    have hcount : (if (Query.filters = .filters ∧ c.writingFilters.isSome) then 1 else 0) = 1 :=
      if_pos ⟨rfl, by rw [h.writing]; rfl⟩
    refine ⟨htoken, ⟨h.inflight, h.filters, h.epoch, h.complete, fun _ => ?_, fun _ => ?_, ?_⟩, ?_⟩
    · show c.attempts + 1 ≤ c.filterConfirmationReads + _
      rw [hcount]
      exact Nat.succ_le_succ hattempts
    · exact Nat.succ_le_succ hreads
    · calc reads + 1 ≤ cfg.timing.queryAttempts * others + c.attempts + 1 := Nat.succ_le_succ hreads
        _ ≤ cfg.timing.queryAttempts * others + cfg.timing.queryAttempts := by omega
        _ = cfg.timing.queryAttempts * (others + 1) := (Nat.mul_succ _ _).symm
    · rintro (⟨hr, ha, hf⟩ | hdone)
      · refine Or.inl ⟨hr, congrArg Nat.succ ha, ?_⟩
        show c.filterConfirmationReads + _ = reads + 1
        rw [hcount, hf]
      · exact Or.inr (hdone.trans (Nat.le_succ _))
  | filters action htoken _ _ engine =>
    have hfree := Offers.free ho htoken
    rw [h.inflight] at hfree
    cases hfree
  | action action htoken _ _ engine =>
    have hfree := Offers.free ho htoken
    rw [h.inflight] at hfree
    cases hfree

/-! ## Runs -/

/-- A new epoch or configuration drops the readback. -/
def Renewed (cfg : RuntimeConfig) (p : Participant γ) : Op γ ρ → Prop
  | .update snapshot _ => p.commands.Renews cfg snapshot
  | _ => False

/-- The transaction a call puts in flight. -/
def begins (p : Participant γ) : Op γ ρ → Option Transaction
  | .sent address at_ ctsAt => (p.reports at_ ctsAt).bind fun
    | ⟨frame, .action action⟩ => some {
        action := { action with frame := frame.readdress address }
        ctsAt
        sentAt := at_ }
    | ⟨_, .query _⟩ => none
  | _ => none

/-- What a call makes of the readback of the write: all that it sends is a query for the record,
    and both are counted. -/
structure Readback (cfg : RuntimeConfig) (tx : Transaction) (p : Participant γ) (op : Op γ ρ)
    (reads others : ℕ) : Prop where
  single : ∀ message, p.reported op = some message → message.token = .query .filters
  reading : Reading cfg tx (step cfg p op).1.commands
    (reads + if (p.reported op).any fun message => asksFilters message.token then 1 else 0)
    (others + if p.refreshes op then 1 else 0)
  continues : Continues cfg p.commands reads → ¬ Confirms tx p op →
    Continues cfg (step cfg p op).1.commands
      (reads + if (p.reported op).any fun message => asksFilters message.token then 1 else 0)

/-- A call that sends nothing. -/
theorem readback_silent {op : Op γ ρ} (hreported : p.reported op = none)
    (hread : Reading cfg tx (step cfg p op).1.commands reads
      (others + if p.refreshes op then 1 else 0))
    (hcontinues : Continues cfg p.commands reads → ¬ Confirms tx p op →
      Continues cfg (step cfg p op).1.commands reads) :
    Readback cfg tx p op reads others where
  single message hmessage := by
    rw [hreported] at hmessage
    cases hmessage
  reading := by
    rw [hreported]
    exact hread
  continues := by
    rw [hreported]
    exact hcontinues

/-- A call that only shows the queries something. -/
theorem Reading.silent {op : Op γ ρ} (h : Reading cfg tx p.commands reads others)
    (hreported : p.reported op = none) (hrefreshes : p.refreshes op = false)
    (ha : Asks p.commands (step cfg p op).1.commands)
    (hnext : (step cfg p op).1.commands.engine.inflight ≠ none) :
    Readback cfg tx p op reads others := by
  refine readback_silent hreported ?_ fun hc _ => hc.asks ha
  rw [hrefreshes]
  exact h.asks ha hnext

theorem step_sent {address : UInt8} {at_ : ℚ} {ctsAt : Option ℚ} {message : Transmission}
    (h : p.reports at_ ctsAt = some message) :
    (step cfg p (.sent address at_ ctsAt : Op γ ρ)).1.commands =
      (p.commands.sent cfg { message with frame := message.frame.readdress address } at_
        ctsAt).2 := by
  simp only [step, h]

/-- **What any call does to the readback** of a write that stays pending. -/
theorem Reading.step (h : Reading cfg tx p.commands reads others) (hsound : Sound cfg p)
    (op : Op γ ρ) (hkeep : ¬ Renewed cfg p op)
    (hnext : (step cfg p op).1.commands.engine.inflight ≠ none) :
    Readback cfg tx p op reads others := by
  cases op with
  | update snapshot now =>
    obtain ⟨hread, hcontinues⟩ := h.manage hsound.scheduled hkeep now
    have ha : Asks (p.commands.manageQueries cfg snapshot now)
        (p.commands.update cfg snapshot now) := observe_asks snapshot now
    exact readback_silent rfl (hread.asks ha hnext) fun hc _ => (hcontinues hc).asks ha
  | prepare valid owner now => exact h.silent rfl rfl (prepare_asks valid owner now) hnext
  | sent address at_ ctsAt =>
    cases hreports : p.reports at_ ctsAt with
    | none =>
      have hstep : (Participant.step cfg p (.sent address at_ ctsAt : Op γ ρ)).1.commands =
          p.commands := by
        simp only [Participant.step, hreports]
      exact h.silent (reported_sent hreports) rfl (hstep ▸ .refl _) hnext
    | some message =>
      obtain ⟨preparedAt, hoffered, -, -⟩ := reports_some hreports
      have hoffers := hsound.offered message preparedAt hoffered
      obtain ⟨htoken, hread, hcontinues⟩ := h.sent hsound.scheduled hsound.budgeted hoffers
        (hsound.sent hreports (message.frame.readdress address)).2.1
      have hcount : (if (p.reported (.sent address at_ ctsAt : Op γ ρ)).any
          fun message => asksFilters message.token then 1 else 0) = 1 := by
        rw [reported_sent hreports]
        simp [asksFilters, htoken]
      constructor
      · intro message' hmessage
        rw [reported_sent hreports] at hmessage
        cases hmessage
        exact htoken
      · rw [hcount, step_sent hreports]
        exact hread
      · rw [hcount, step_sent hreports]
        exact fun hc _ => hcontinues hc
  | received message epoch at_ =>
    obtain ⟨hread, hcontinues⟩ := h.received hsound.scheduled message epoch at_
    refine readback_silent rfl hread fun hc hdiffers => hcontinues hc fun m hm hmatch => ?_
    subst hm
    exact Bool.eq_false_iff.mpr fun hsame => hdiffers ⟨hmatch, hsame⟩
  | refreshFilters =>
    obtain ⟨hread, hcontinues⟩ := h.refreshFilters
    exact readback_silent rfl hread fun hc _ => hcontinues hc
  | disconnected now => exact h.silent rfl rfl (disconnected_asks now) hnext
  | caller op =>
    refine h.silent rfl rfl ?_ hnext
    unfold Participant.step
    dsimp only
    split
    · exact .refl _
    · next hop => exact asks_engine _ cfg.engine op (Bool.eq_false_iff.mpr hop)
  | attach guards => exact h.silent rfl rfl (asks_guards _ guards) hnext

/-- A filter write that is sent is pending, and its readback is due. -/
theorem Offers.writes {message : Transmission} {preparedAt at_ : ℚ} {ctsAt : Option ℚ}
    {action : Action} (h : Offers cfg c message preparedAt) (hat : preparedAt ≤ at_)
    (hcts : ∀ t, ctsAt = some t → t ≤ at_) (frame : Frame)
    (htoken : message.token = .action action) (hfilters : action.intent.control = .filters) :
    ∃ engine : Engine,
      engine.inflight = some { action := { action with frame }, ctsAt, sentAt := at_ } ∧
        (c.sent cfg { message with frame } at_ ctsAt).2 = { c with
          engine
          filterConfirmationReads := 0
          refresh := some .filters
          attempts := 0
          refreshSuccess := false } := by
  obtain ⟨hcomplete, hrefresh, -⟩ := h.action action htoken
  have hok := (h.sent hat hcts frame).1
  have hcore := Engine.sent_core cfg.engine c.engine { action with frame } at_ ctsAt
  unfold Commands.sent at hok ⊢
  simp only [htoken] at hok ⊢
  generalize c.engine.sent cfg.engine { action with frame } at_ ctsAt = result at hcore hok ⊢
  obtain ⟨outcome, engine⟩ := result
  cases outcome with
  | error e => cases hok
  | ok _ =>
    rcases hcore with ⟨e, he, -⟩ | ⟨-, -, -, -, -, hinflight, -⟩
    · cases he
    · refine ⟨engine, hinflight, ?_⟩
      dsimp only
      rw [if_pos hfilters, refreshFilters_ok (c := { c with engine, filterConfirmationReads := 0 })
        hcomplete h.idle hrefresh]

/-- The readback of a write begins when it is sent. -/
theorem Sound.begins (hsound : Sound cfg p) {op : Op γ ρ} (h : p.begins op = some tx)
    (hfilters : tx.action.intent.control = .filters) (hepoch : tx.action.epoch = p.commands.epoch) :
    Reading cfg tx (Participant.step cfg p op).1.commands 0 0 ∧
      Continues cfg (Participant.step cfg p op).1.commands 0 := by
  cases op with
  | sent address at_ ctsAt =>
    obtain ⟨message, hreports, hbegins⟩ := Option.bind_eq_some_iff.mp h
    obtain ⟨preparedAt, hoffered, hat, hcts⟩ := reports_some hreports
    have hoffers := hsound.offered message preparedAt hoffered
    obtain ⟨frame, token⟩ := message
    cases token with
    | action action =>
      cases hbegins
      obtain ⟨engine, hinflight, hsent⟩ := Offers.writes hoffers hat hcts
        (frame.readdress address) rfl hfilters
      have hcomplete := (hoffers.action action rfl).1
      rw [step_sent hreports, hsent]
      exact ⟨⟨hinflight, hfilters, hepoch, hcomplete, fun _ => le_rfl, fun _ => Nat.zero_le _,
        Nat.zero_le _⟩, Or.inl ⟨rfl, rfl, rfl⟩⟩
    | query query => cases hbegins
  | _ => cases h

/-- Call `n` asks for another fresh filter record. -/
def refreshesAt (cfg : RuntimeConfig) (run : List (Op γ ρ)) (n : ℕ) : Bool :=
  run[n]?.any (participantAt cfg run n).refreshes

/-- The accepted `refresh_filters` from call `m` on, before call `n`. -/
def refreshCount (cfg : RuntimeConfig) (run : List (Op γ ρ)) (m n : ℕ) : ℕ :=
  (List.range' m (n - m)).countP (refreshesAt cfg run)

theorem refreshCount_self (cfg : RuntimeConfig) (run : List (Op γ ρ)) (m : ℕ) :
    refreshCount cfg run m m = 0 := by
  simp [refreshCount]

theorem refreshCount_succ {m : ℕ} (h : m ≤ n) :
    refreshCount cfg run m (n + 1) =
      refreshCount cfg run m n + if refreshesAt cfg run n then 1 else 0 := by
  unfold refreshCount
  rw [Nat.succ_sub h, List.range'_concat, List.countP_append, List.countP_singleton]
  simp [Nat.add_sub_cancel' h]

/-- Call `w` sends the filter write `tx`, in the epoch it was prepared in. -/
structure FilterWrite (cfg : RuntimeConfig) (run : List (Op γ ρ)) (w : ℕ) (tx : Transaction) :
    Prop where
  sent : run[w]?.bind (participantAt cfg run w).begins = some tx
  filters : tx.action.intent.control = .filters
  epoch : tx.action.epoch = (participantAt cfg run w).commands.epoch

/-- From call `w` to call `n` there is a pending transaction and no new epoch or
    configuration. -/
structure Window (cfg : RuntimeConfig) (run : List (Op γ ρ)) (w n : ℕ) : Prop where
  lt : w < n
  pending : ∀ k, w < k → k ≤ n → (participantAt cfg run k).commands.engine.inflight ≠ none
  same : ∀ k op, w < k → k < n → run[k]? = some op → ¬ Renewed cfg (participantAt cfg run k) op

/-- No reply in the window shows the record that was written. -/
def Unconfirmed (cfg : RuntimeConfig) (run : List (Op γ ρ)) (w n : ℕ) (tx : Transaction) : Prop :=
  ∀ k op, w < k → k < n → run[k]? = some op → ¬ Confirms tx (participantAt cfg run k) op

/-- The readback of the write, up to call `n`. -/
structure ReadbackBounded (cfg : RuntimeConfig) (run : List (Op γ ρ)) (w n : ℕ)
    (tx : Transaction) : Prop where
  /-- The transaction is the one that was sent, at the time it was sent. -/
  pending : (participantAt cfg run n).commands.engine.inflight = some tx
  /-- Whatever is sent after the write asks for the record. -/
  single : ∀ k message, w < k → k < n →
    run[k]?.bind (participantAt cfg run k).reported = some message →
      message.token = .query .filters
  /-- The record is asked for `query_attempts` times, and as often again for each other
      caller of `refresh_filters`. -/
  reads : transmissions asksFilters cfg run (w + 1) n ≤
    cfg.timing.queryAttempts * (refreshCount cfg run (w + 1) n + 1)
  /-- The readback goes on until the budget is spent. -/
  scheduled : Unconfirmed cfg run w n tx →
    transmissions asksFilters cfg run (w + 1) n < cfg.timing.queryAttempts →
      (participantAt cfg run n).commands.refresh = some .filters

/-- The readback in a window. -/
theorem reading (cfg : RuntimeConfig) (run : List (Op γ ρ)) {w n : ℕ} {tx : Transaction}
    (hwrite : FilterWrite cfg run w tx) (hwindow : Window cfg run w n) :
    Reading cfg tx (participantAt cfg run n).commands
        (transmissions asksFilters cfg run (w + 1) n) (refreshCount cfg run (w + 1) n) ∧
      (Unconfirmed cfg run w n tx → Continues cfg (participantAt cfg run n).commands
        (transmissions asksFilters cfg run (w + 1) n)) ∧
      ∀ k message, w < k → k < n →
        run[k]?.bind (participantAt cfg run k).reported = some message →
          message.token = .query .filters := by
  obtain ⟨hlt, hpending, hsame⟩ := hwindow
  induction hlt with
  | refl =>
    obtain ⟨op, hop, hbegins⟩ := Option.bind_eq_some_iff.mp hwrite.sent
    obtain ⟨hread, hcontinues⟩ := (sound cfg run w).begins hbegins hwrite.filters hwrite.epoch
    rw [transmissions_of_le cfg run le_rfl, refreshCount_self, participantAt_succ hop]
    exact ⟨hread, fun _ => hcontinues, fun k _ hk hkn => absurd hk (by omega)⟩
  | @step n hlt ih =>
    have hlt : w + 1 ≤ n := hlt
    obtain ⟨hread, hcontinues, hsingle⟩ := ih (fun k hk hkn => hpending k hk (by omega))
      fun k op hk hkn => hsame k op hk (by omega)
    have hnext := hpending (n + 1) (by omega) le_rfl
    rw [refreshCount_succ hlt]
    cases hop : run[n]? with
    | none =>
      rw [transmissions_succ_none hop, participantAt_succ_none hop]
      refine ⟨?_, fun hno => hcontinues fun k op hk hkn => hno k op hk (by omega), ?_⟩
      · simpa [refreshesAt, hop] using hread
      · intro k message hk hkn hsent
        rcases Nat.lt_succ_iff_lt_or_eq.mp hkn with hkn | rfl
        · exact hsingle k message hk hkn hsent
        · rw [hop] at hsent
          cases hsent
    | some op =>
      rw [participantAt_succ hop] at hnext
      have hstep := hread.step (sound cfg run n) op (hsame n op (by omega) (by omega) hop) hnext
      rw [transmissions_succ hlt hop, participantAt_succ hop]
      refine ⟨?_, fun hno => ?_, ?_⟩
      · simpa only [refreshesAt, hop, Option.any_some] using hstep.reading
      · exact hstep.continues (hcontinues fun k op hk hkn => hno k op hk (by omega))
          (hno n op (by omega) (by omega) hop)
      · intro k message hk hkn hsent
        rcases Nat.lt_succ_iff_lt_or_eq.mp hkn with hkn | rfl
        · exact hsingle k message hk hkn hsent
        · rw [hop] at hsent
          exact hstep.single message hsent

/-- **The readback of a filter write is bounded**, and sends nothing else. -/
theorem confirmation_bounded (cfg : RuntimeConfig) (run : List (Op γ ρ)) {w n : ℕ}
    {tx : Transaction} (hwrite : FilterWrite cfg run w tx) (hwindow : Window cfg run w n) :
    ReadbackBounded cfg run w n tx := by
  obtain ⟨hread, hcontinues, hsingle⟩ := reading cfg run hwrite hwindow
  refine ⟨hread.inflight, hsingle, hread.total, fun hno hroom => ?_⟩
  rcases hcontinues hno with ⟨hrefresh, -⟩ | hspent
  · exact hrefresh
  · exact absurd hroom (not_lt.mpr hspent)

/-! ## A sample run -/

/-- The connection publishes the state, the participant prepares and reports. -/
def sampleExchange (reply : List (Op Unit Unit)) : List (Op Unit Unit) :=
  [.prepare (fun _ guard owner => (true, guard, owner)) () 0, .sent 10 0 none] ++ reply

def sampleReady : Op Unit Unit :=
  .update
    { state := .ready, epoch := 1, configuration := some sampleConfiguration,
      status := some (sampleStatus 98 0 true, 0), statusSequence := 1 } 0

/-- The first filter cycle is to start at eleven; the first reply after the write still shows
    ten. -/
def mismatchRun : List (Op Unit Unit) :=
  [sampleReady] ++
    sampleExchange [.received (.setup
      ⟨⟨10, 0xBF, 0x25, [0, 0, 50, 80, 80, 104, 0, 0, 0, 0], by simp⟩, (50, 80), (80, 104)⟩) 1 0] ++
    sampleExchange [.received (.filterCycles (Engine.sampleFilters 10 (by decide))) 1 0] ++
    sampleExchange [.received
      (.faultLog ⟨⟨10, 0xBF, 0x28, [0, 0, 0, 0, 0, 0, 0, 0, 0, 0], by simp⟩, 0, 0, 0⟩) 1 0] ++
    [sampleReady, .caller (.request
      { control := .filters
        desired := .filters (Engine.sampleFilters 11 (by decide)).schedule
        now := 0 })] ++
    sampleExchange [] ++
    sampleExchange [.received (.filterCycles (Engine.sampleFilters 10 (by decide))) 1 0]

/-- A participant that reads the metadata every four minutes. -/
def sampleParticipant : RuntimeConfig where
  engine := .default
  metadataRefreshInterval := 240
  sha256 := id

/-- The write the sample run sends. -/
def sampleWrite : Option Transaction :=
  mismatchRun[13]?.bind (participantAt sampleParticipant mismatchRun 13).begins

theorem confirmation_bounded_sample : ∃ tx, sampleWrite = some tx ∧
    transmissions asksFilters sampleParticipant mismatchRun 14 17 = 1 ∧
    ReadbackBounded sampleParticipant mismatchRun 13 17 tx := by
  have hwrite : sampleWrite.isSome ∧ sampleWrite.all fun tx =>
      tx.action.intent.control = .filters ∧
        tx.action.epoch = (participantAt sampleParticipant mismatchRun 13).commands.epoch := by
    decide +kernel
  obtain ⟨tx, htx⟩ := Option.isSome_iff_exists.mp hwrite.1
  rw [htx] at hwrite
  obtain ⟨hfilters, hepoch⟩ : tx.action.intent.control = .filters ∧ tx.action.epoch = _ := by
    simpa using hwrite.2
  refine ⟨tx, htx, by decide +kernel, confirmation_bounded _ _ ⟨htx, hfilters, hepoch⟩ ⟨by decide,
    fun k hk hkn => ?_, fun k op hk hkn hop => ?_⟩⟩
  · have hpending : ∀ k ∈ List.range' 14 4,
        (participantAt sampleParticipant mismatchRun k).commands.engine.inflight.isSome := by
      decide +kernel
    rw [← Option.isSome_iff_ne_none]
    exact hpending k (List.mem_range'_1.mpr ⟨hk, by omega⟩)
  · obtain rfl | rfl | rfl : k = 14 ∨ k = 15 ∨ k = 16 := by omega
    all_goals
      obtain rfl := Option.some.inj hop
      exact id

end Participant

end BalboaRs485
