import BalboaRs485.Command.Occupied
import BalboaRs485.Command.Readback
import BalboaRs485.Runtime.Admission

/-!
# The cycle a filter edit does not change

`async_update_filter` reads the filter record, changes one cycle and writes both back.
The record it writes is fixed when it is read, but the write waits for the bus, and a
record that is received meanwhile changes nothing about it: the planner and the guard
ask how old the newest record is, not whether the edit was made on it.

* `Undisturbed`: no such record shows another value of the cycle that is copied, and the
  edit is made on the record received last.
* `step_kept`: then the write that waits copies the cycle of the record received last.
* `filters_kept`: the same over whole runs.
* `filters_lost`: a run in which a periodic read delivers the panel's change of the other
  cycle before the write is handed out.
-/

namespace BalboaRs485

/-! ## The stored record -/

namespace Commands

variable {γ ρ : Type} (cfg : RuntimeConfig) (c : Commands γ)

/-- The stored filter record and its epoch are the same. -/
def SameRecord (c c' : Commands γ) : Prop := c'.filters = c.filters ∧ c'.epoch = c.epoch

theorem SameRecord.trans {c c₁ c' : Commands γ} (h : SameRecord c c₁) (h' : SameRecord c₁ c') :
    SameRecord c c' := ⟨h'.1.trans h.1, h'.2.trans h.2⟩

theorem refreshFilters_record : SameRecord c c.refreshFilters.2 := by
  unfold refreshFilters
  split <;> exact ⟨rfl, rfl⟩

theorem sent_record (message : Transmission) (at_ : ℚ) (ctsAt : Option ℚ) :
    SameRecord c (c.sent cfg message at_ ctsAt).2 := by
  unfold sent
  split
  · exact ⟨rfl, rfl⟩
  · split
    · exact ⟨rfl, rfl⟩
    · next engine _ =>
      split
      · have hsame : SameRecord c { c with engine, filterConfirmationReads := 0 } := ⟨rfl, rfl⟩
        exact hsame.trans (refreshFilters_record _)
      · exact ⟨rfl, rfl⟩

theorem request_record (r : Engine.Request) (guard : Option γ) :
    SameRecord c (c.request cfg r guard).2 := by
  obtain ⟨e, heq, -⟩ | ⟨intent, -, heq⟩ := request_case cfg c r guard
  · rw [heq]
    exact ⟨rfl, rfl⟩
  · rw [heq]
    exact ⟨rfl, rfl⟩

theorem prepare_record (valid : Control → γ → ρ → Bool × γ × ρ) (r : ρ) (now : ℚ) :
    SameRecord c (c.prepare cfg valid r now).2.1 := by
  have hguards : ∀ l (c : Commands γ) r, SameRecord c (admitGuards valid l c r).1 := by
    intro l
    induction l with
    | nil => exact fun c r => ⟨rfl, rfl⟩
    | cons entry l ih =>
      intro c r
      obtain ⟨control, id, guard⟩ := entry
      obtain ⟨c₁, r₁, hcase, heq⟩ := admitGuards_cons valid c r control id guard l
      rw [heq]
      refine SameRecord.trans ?_ (ih c₁ r₁)
      cases hcase <;> exact ⟨rfl, rfl⟩
  refine (hguards c.guards.entries c r).trans ?_
  show SameRecord _ (offer cfg _ now).2
  unfold offer
  split
  · exact ⟨rfl, rfl⟩
  · split
    · exact ⟨rfl, rfl⟩
    · exact ⟨rfl, rfl⟩
    · split <;> exact ⟨rfl, rfl⟩

/-- The queries leave the stored record alone, or a new epoch or configuration drops it. -/
theorem manageQueries_record (snapshot : Snapshot) (now : ℚ) :
    (c.manageQueries cfg snapshot now).epoch = snapshot.epoch ∧
      (SameRecord c (c.manageQueries cfg snapshot now) ∨
        (c.manageQueries cfg snapshot now).filters = none) := by
  have hrestart : ∀ c : Commands γ, SameRecord c (c.restartQueries cfg now) := by
    intro c
    unfold restartQueries
    split <;> exact ⟨rfl, rfl⟩
  have hexpire : ∀ c : Commands γ, SameRecord c (c.expireQuery cfg now) := by
    intro c
    unfold expireQuery giveUpQuery
    split
    · split
      · split <;> exact ⟨rfl, rfl⟩
      · exact ⟨rfl, rfl⟩
    · exact ⟨rfl, rfl⟩
  have hrest : SameRecord (c.renew cfg snapshot now) (c.manageQueries cfg snapshot now) :=
    (hrestart _).trans (hexpire _)
  have hrenew : (c.renew cfg snapshot now).epoch = snapshot.epoch ∧
      (SameRecord c (c.renew cfg snapshot now) ∨ (c.renew cfg snapshot now).filters = none) := by
    unfold renew
    dsimp only
    split
    · exact ⟨rfl, Or.inr rfl⟩
    · next hsame => exact ⟨(not_not.mp (not_or.mp hsame).1).symm, Or.inl ⟨rfl, rfl⟩⟩
  refine ⟨hrest.2.trans hrenew.1, ?_⟩
  rcases hrenew.2 with hsame | hnone
  · exact Or.inl (hsame.trans hrest)
  · exact Or.inr (hrest.1.trans hnone)

theorem update_record (snapshot : Snapshot) (now : ℚ) :
    SameRecord (c.manageQueries cfg snapshot now) (c.update cfg snapshot now) := by
  unfold update observe
  split <;> exact ⟨rfl, rfl⟩

/-- An observation shows the stored record, in the epoch of the snapshot. -/
theorem observation_record {snapshot : Snapshot} {o : SpaState}
    (h : c.observation snapshot = some o) : o.filters = c.filters ∧ o.epoch = snapshot.epoch := by
  unfold observation at h
  split at h
  · cases h
    exact ⟨rfl, rfl⟩
  · cases h

/-- A received filter record is stored if it is of the current epoch, and nothing else is. -/
theorem received_record (message : Message) (epoch : ℕ) (at_ : ℚ) :
    (c.received cfg message epoch at_).epoch = c.epoch ∧
      ((c.received cfg message epoch at_).filters = c.filters ∧
          (∀ m, message = .filterCycles m → epoch ≠ c.epoch) ∨
        ∃ m, message = .filterCycles m ∧ epoch = c.epoch ∧
          (c.received cfg message epoch at_).filters = some m) := by
  have hstore : (c.store at_ message).epoch = c.epoch ∧
      ((c.store at_ message).filters = c.filters ∧ (∀ m, message ≠ .filterCycles m) ∨
        ∃ m, message = .filterCycles m ∧ (c.store at_ message).filters = some m) := by
    unfold store
    split
    · exact ⟨rfl, Or.inl ⟨rfl, by simp⟩⟩
    · next m => exact ⟨rfl, Or.inr ⟨m, rfl, rfl⟩⟩
    · exact ⟨rfl, Or.inl ⟨rfl, by simp⟩⟩
    · next _ hother _ => exact ⟨rfl, Or.inl ⟨rfl, fun m heq => hother m heq⟩⟩
  have hanswered : ∀ c : Commands γ, SameRecord c (c.answered cfg epoch message) := by
    intro c
    unfold answered
    split
    · exact ⟨rfl, rfl⟩
    · split <;> exact ⟨rfl, rfl⟩
  by_cases hepoch : epoch = c.epoch
  swap
  · unfold received
    rw [if_pos hepoch]
    exact ⟨rfl, Or.inl ⟨rfl, fun _ _ => hepoch⟩⟩
  have hrecord : SameRecord (c.store at_ message) (c.received cfg message epoch at_) := by
    unfold received
    rw [if_neg (not_not.mpr hepoch)]
    split
    · exact hanswered _
    · exact ⟨rfl, rfl⟩
  refine ⟨hrecord.2.trans hstore.1, ?_⟩
  rcases hstore.2 with ⟨hsame, hother⟩ | ⟨m, hm, hstored⟩
  · exact Or.inl ⟨hrecord.1.trans hsame, fun m heq => absurd heq (hother m)⟩
  · exact Or.inr ⟨m, hm, hepoch, hrecord.1.trans hstored⟩

end Commands

namespace SpaRuntime

variable {ρ : Type}

/-! ## Records -/

/-- The filter record that a step receives in an epoch. -/
def recordIn (epoch : ℕ) : Op ρ → Option FilterCyclesMessage
  | .received (.filterCycles m) e _ => if e = epoch then some m else none
  | _ => none

/-- The most recent filter record of an epoch. -/
def latestRecord (before : List (Op ρ)) (epoch : ℕ) : Option FilterCyclesMessage :=
  (before.filterMap (recordIn epoch)).getLast?

theorem latestRecord_append (before : List (Op ρ)) (op : Op ρ) (epoch : ℕ) :
    latestRecord (before ++ [op]) epoch = (recordIn epoch op).or (latestRecord before epoch) := by
  unfold latestRecord
  rw [List.filterMap_append, List.getLast?_append]
  cases h : recordIn epoch op with
  | none => simp [h]
  | some m => simp [h]

/-- A step that receives no record changes nothing. -/
theorem latestRecord_other (before : List (Op ρ)) {op : Op ρ}
    (h : ∀ epoch, recordIn epoch op = none) (epoch : ℕ) :
    latestRecord (before ++ [op]) epoch = latestRecord before epoch := by
  rw [latestRecord_append, h, Option.none_or]

theorem recordIn_eq_some {epoch : ℕ} {op : Op ρ} {m : FilterCyclesMessage} :
    recordIn epoch op = some m ↔ ∃ at_, op = .received (.filterCycles m) epoch at_ := by
  unfold recordIn
  split
  · next m' e at_ =>
    constructor
    · intro h
      split at h
      · next heq =>
        subst heq
        obtain rfl := Option.some.inj h
        exact ⟨at_, rfl⟩
      · cases h
    · rintro ⟨at', ⟨⟩⟩
      exact if_pos rfl
  · next hother =>
    constructor
    · intro h
      cases h
    · rintro ⟨at_, rfl⟩
      exact absurd rfl (hother m epoch at_)

end SpaRuntime

/-- The write of an edit copies the other cycle of a record. -/
def Grant.copies {ρ : Type} (g : Grant ρ) (m : FilterCyclesMessage) : Bool :=
  match g.edit, g.request.desired with
  | some edit, .filters schedule => schedule.other edit.index = m.schedule.other edit.index
  | _, _ => true

namespace SpaRuntime

variable {ρ : Type} {cfg : RuntimeConfig} {before : List (Op ρ)} {w w' : SpaRuntime ρ}

/-! ## The condition -/

/-- The goal of a grant can still be sent. -/
def Live (w : SpaRuntime ρ) (g : Grant ρ) : Prop :=
  ∃ item, w.commands.engine.intent g.id = some item ∧ item.stage.terminal = false

instance (w : SpaRuntime ρ) (g : Grant ρ) : Decidable (Live w g) :=
  decidable_of_iff (∃ item ∈ w.commands.engine.intent g.id, item.stage.terminal = false) .rfl

/-- The write of a grant is in flight, or its epoch has become ambiguous. -/
def Occupied (w : SpaRuntime ρ) (g : Grant ρ) : Prop :=
  w.commands.engine.Occupied g.id w.snapshot.epoch g.request.desired

instance (w : SpaRuntime ρ) (g : Grant ρ) : Decidable (Occupied w g) :=
  inferInstanceAs (Decidable (w.commands.engine.Occupied _ _ _))

/-- The write of an edit waits to be handed out. -/
structure Waits (w : SpaRuntime ρ) (g : Grant ρ) : Prop where
  edit : g.edit.isSome = true
  epoch : g.epoch = w.snapshot.epoch
  live : Live w g
  free : ¬ Occupied w g

instance (w : SpaRuntime ρ) (g : Grant ρ) : Decidable (Waits w g) :=
  decidable_of_iff (g.edit.isSome = true ∧ g.epoch = w.snapshot.epoch ∧ Live w g ∧ ¬ Occupied w g)
    ⟨fun ⟨hedit, hepoch, hlive, hfree⟩ => ⟨hedit, hepoch, hlive, hfree⟩,
      fun h => ⟨h.edit, h.epoch, h.live, h.free⟩⟩

/-- The edit whose fresh read has ended when it looks again, and the record it is made on. -/
def reads (w : SpaRuntime ρ) : Op ρ → Option (FilterEdit ρ × FilterCyclesMessage)
  | .wake =>
    match w.task with
    | .reading edit epoch generation =>
      if w.snapshot.epoch = epoch ∧ w.commands.refreshVersion ≠ generation ∧
          w.commands.refreshSuccess = true then
        (w.state.bind SpaState.filters).map fun m => (edit, m)
      else none
    | _ => none
  | _ => none

/-- The step neither receives a record with another value of a cycle that a waiting write
    copies, nor makes an edit on a record with another value of that cycle than the one
    received last. -/
structure Undisturbed (before : List (Op ρ)) (w : SpaRuntime ρ) (op : Op ρ) : Prop where
  received : ∀ m ∈ recordIn w.snapshot.epoch op, ∀ g ∈ w.grants, Waits w g → g.copies m = true
  edited : ∀ r ∈ w.reads op, ∃ m ∈ latestRecord before w.snapshot.epoch,
    r.2.schedule.other r.1.index = m.schedule.other r.1.index

instance (before : List (Op ρ)) (w : SpaRuntime ρ) (op : Op ρ) :
    Decidable (Undisturbed before w op) :=
  decidable_of_iff
    ((∀ m ∈ recordIn w.snapshot.epoch op, ∀ g ∈ w.grants, Waits w g → g.copies m = true) ∧
      ∀ r ∈ w.reads op, ∃ m ∈ latestRecord before w.snapshot.epoch,
        r.2.schedule.other r.1.index = m.schedule.other r.1.index)
    ⟨fun ⟨hreceived, hedited⟩ => ⟨hreceived, hedited⟩, fun h => ⟨h.received, h.edited⟩⟩

/-! ## The invariant -/

/-- The write of a grant copies the cycle of the record received last in this epoch. -/
def Based (before : List (Op ρ)) (w : SpaRuntime ρ) (g : Grant ρ) : Prop :=
  ∃ m, latestRecord before w.snapshot.epoch = some m ∧ g.copies m = true

/-- What the participant stores is what was received last; a write of an edit that can still be
    handed out in this epoch copies it. -/
structure Kept (before : List (Op ρ)) (w : SpaRuntime ρ) : Prop where
  epochs : Engine.Epochs w.commands.engine
  seen : ∀ o, w.commands.engine.state = some o → o.epoch ≤ w.snapshot.epoch
  past : ∀ g ∈ w.grants, g.epoch ≤ w.snapshot.epoch
  stored : ∀ m, w.commands.filters = some m → latestRecord before w.commands.epoch = some m
  based : ∀ g ∈ w.grants, g.edit.isSome = true → g.epoch = w.snapshot.epoch → Live w g →
    Occupied w g ∨ Based before w g

/-- Nothing is received or observed, and a new write of an edit copies the cycle of the record
    received last. -/
structure Quiet (cfg : RuntimeConfig) (before : List (Op ρ)) (w w' : SpaRuntime ρ) : Prop where
  calls : Engine.Calls cfg.engine Engine.NoObserve w.commands.engine w'.commands.engine
  snapshot : w'.snapshot = w.snapshot
  filters : w'.commands.filters = w.commands.filters
  epoch : w'.commands.epoch = w.commands.epoch
  grants : ∀ g ∈ w'.grants, g ∈ w.grants ∨
    g.epoch = w.snapshot.epoch ∧ (g.edit.isSome = true → Based before w g)

theorem Quiet.refl (w : SpaRuntime ρ) : Quiet cfg before w w :=
  ⟨.refl _, rfl, rfl, rfl, fun _ hg => Or.inl hg⟩

theorem Quiet.trans {w₁ : SpaRuntime ρ} (h : Quiet cfg before w w₁) (h' : Quiet cfg before w₁ w') :
    Quiet cfg before w w' where
  calls := h.calls.trans h'.calls
  snapshot := h'.snapshot.trans h.snapshot
  filters := h'.filters.trans h.filters
  epoch := h'.epoch.trans h.epoch
  grants := by
    intro g hg
    rcases h'.grants g hg with hg | ⟨hepoch, hbased⟩
    · exact h.grants g hg
    · refine Or.inr ⟨hepoch.trans (congrArg Snapshot.epoch h.snapshot), fun hedit => ?_⟩
      obtain ⟨m, hlatest, hcopies⟩ := hbased hedit
      exact ⟨m, h.snapshot ▸ hlatest, hcopies⟩

/-- Calls revive no goal: one that can be sent after them could be sent before. -/
theorem Granted.live (hg : Granted w) {cfg : EngineConfig} {P : EngineOp → Prop} {engine : Engine}
    (hcalls : Engine.Calls cfg P w.commands.engine engine) {g : Grant ρ} (hmem : g ∈ w.grants)
    (h : ∃ item, engine.intent g.id = some item ∧ item.stage.terminal = false) : Live w g := by
  obtain ⟨item', hi', hlive'⟩ := h
  obtain ⟨item, hi, -, hlive⟩ :=
    (hcalls.descends hg.rep hg.pending).goal g.id item' (hg.known g hmem) hi'
  exact ⟨item, hi, hlive hlive'⟩

theorem Kept.quiet (h : Kept before w) (hg : Granted w) (hq : Quiet cfg before w w')
    {after : List (Op ρ)} (hafter : ∀ epoch, latestRecord after epoch = latestRecord before epoch) :
    Kept after w' where
  epochs := hq.calls.epochs h.epochs
  seen := by
    rw [hq.snapshot]
    exact hq.calls.seen h.seen
  past := by
    intro g hmem
    rw [hq.snapshot]
    rcases hq.grants g hmem with hmem | ⟨hepoch, -⟩
    · exact h.past g hmem
    · exact hepoch.le
  stored := by
    intro m hm
    rw [hafter, hq.epoch]
    exact h.stored m (hq.filters ▸ hm)
  based := by
    intro g hmem hedit hepoch hlive
    have hbased : Based before w g → Based after w' g := by
      rintro ⟨m, hlatest, hcopies⟩
      exact ⟨m, by rw [hafter, hq.snapshot, hlatest], hcopies⟩
    rcases hq.grants g hmem with hmem | ⟨-, hnew⟩
    · rw [hq.snapshot] at hepoch
      rcases h.based g hmem hedit hepoch (hg.live hq.calls hmem hlive) with hocc | hb
      · left
        unfold Occupied
        rw [hq.snapshot]
        exact hq.calls.occupied h.epochs h.seen hocc
      · exact Or.inr (hbased hb)
    · exact Or.inr (hbased (hnew hedit))

/-! ## What is quiet -/

/-- Calls of the engine that are no observations. -/
theorem quiet_engine {w : SpaRuntime ρ} {engine : Engine}
    (h : Engine.Calls cfg.engine Engine.NoObserve w.commands.engine engine) :
    Quiet cfg before w (w.setEngine engine) := ⟨h, rfl, rfl, rfl, fun _ hg => Or.inl hg⟩

/-- What does not reach the participant. -/
theorem quiet_congr (hcommands : w'.commands = w.commands) (hsnapshot : w'.snapshot = w.snapshot)
    (hgrants : w'.grants = w.grants) : Quiet cfg before w w' := by
  refine ⟨?_, hsnapshot, by rw [hcommands], by rw [hcommands], fun g hg => Or.inl (hgrants ▸ hg)⟩
  rw [hcommands]
  exact .refl _

/-- A request, if a write of an edit copies the cycle of the record received last. -/
theorem quiet_request (w : SpaRuntime ρ) (r : SpaRequest ρ) (edit : Option (FilterEdit ρ))
    (hbased : ∀ id, edit.isSome = true → Based before w ⟨id, r, w.snapshot.epoch, edit⟩) :
    Quiet cfg before w (w.request cfg r edit).2 := by
  have hcalls : Engine.Calls cfg.engine Engine.NoObserve w.commands.engine
      (w.commands.request cfg (r.engineRequest w.time) (r.guard w.snapshot.epoch)).2.engine := by
    rw [(Commands.request_engine cfg w.commands _ _).1]
    exact .one (.request (r.engineRequest w.time)) (by intro o now; simp)
  have hrecord := Commands.request_record cfg w.commands (r.engineRequest w.time)
    (r.guard w.snapshot.epoch)
  obtain heq | ⟨err, -, heq⟩ | ⟨intent, -, heq⟩ := request_case cfg w r edit
  · rw [heq]
    exact .refl w
  · rw [heq]
    exact ⟨hcalls, rfl, hrecord.1, hrecord.2, fun _ hg => Or.inl hg⟩
  · rw [heq]
    refine ⟨hcalls, rfl, hrecord.1, hrecord.2, fun g hg => ?_⟩
    rcases List.mem_append.mp hg with hg | hg
    · exact Or.inl hg
    · rw [List.mem_singleton.mp hg]
      exact Or.inr ⟨rfl, hbased intent.id⟩

/-- A filter edit, if it is made on a record with the cycle that was received last. -/
theorem quiet_stretch {P : FilterEdit ρ → FilterSchedule → Prop} (hs : Stretch cfg P w w')
    (hP : ∀ edit desired, P edit desired → ∃ m, latestRecord before w.snapshot.epoch = some m ∧
      desired.other edit.index = m.schedule.other edit.index) :
    Quiet cfg before w w' := by
  induction hs with
  | begins => exact .refl w
  | moves _ world task ih => exact ih.trans (quiet_congr rfl rfl rfl)
  | @asks w' _ ih =>
    have hrecord := Commands.refreshFilters_record w'.commands
    refine ih.trans ⟨?_, rfl, hrecord.1, hrecord.2, fun _ hg => Or.inl hg⟩
    show Engine.Calls _ _ _ w'.commands.refreshFilters.2.engine
    rw [(Commands.refreshFilters_engine w'.commands).1]
    exact .refl _
  | @writes w' _ edit desired hwrites ih =>
    obtain ⟨m, hlatest, hother⟩ := hP edit desired hwrites
    refine ih.trans (quiet_request w' _ _ fun _ _ => ⟨m, ?_, by simpa [Grant.copies] using hother⟩)
    rw [ih.snapshot]
    exact hlatest
  | ticks _ now ih => exact ih.trans (quiet_engine (.one (.tick now) (by intro o t; simp)))
  | cancels _ ih =>
    exact ih.trans (quiet_engine (.one (.cancel .filters none) (by intro o now; simp)))

/-- A stretch without a request. -/
theorem quiet_silent (hs : Stretch cfg (fun _ _ => False) w w') : Quiet cfg before w w' :=
  quiet_stretch hs fun _ _ hwrites => hwrites.elim

/-- A fresh read is one that the step sees. -/
theorem reads_of_fresh {edit : FilterEdit ρ} {desired : FilterSchedule} (h : Fresh w edit desired) :
    ∃ m, w.reads .wake = some (edit, m) ∧
      desired.other edit.index = m.schedule.other edit.index := by
  obtain ⟨⟨generation, htask, hversion⟩, hsuccess, m, hm, hdesired⟩ := h
  refine ⟨m, ?_, FilterSchedule.update_other hdesired⟩
  unfold reads
  rw [htask]
  simp [hversion, hsuccess, hm]

theorem quiet_wake (h : Undisturbed before w .wake) : Quiet cfg before w (w.wake cfg).1 := by
  refine quiet_stretch (stretch_wake cfg w) fun edit desired hfresh => ?_
  obtain ⟨m, hreads, hother⟩ := reads_of_fresh hfresh
  obtain ⟨m', hlatest, hsame⟩ := h.edited (edit, m) hreads
  exact ⟨m', hlatest, hother.trans hsame⟩

/-! ## What is not -/

theorem Kept.publish (h : Kept before w) (snapshot : Snapshot) :
    Kept before (w.publish snapshot) := by
  unfold SpaRuntime.publish
  split
  · exact h
  next hle =>
  have hle : w.snapshot.epoch ≤ snapshot.epoch := not_lt.mp hle
  refine ⟨h.epochs, fun o ho => (h.seen o ho).trans hle, fun g hg => (h.past g hg).trans hle,
    h.stored, fun g hg hedit hepoch hlive => ?_⟩
  -- a grant is no younger than the snapshot before, so its epoch is that one
  have hsame : snapshot.epoch = w.snapshot.epoch := by
    have hpast := h.past g hg
    have hepoch : g.epoch = snapshot.epoch := hepoch
    omega
  rcases h.based g hg hedit (hepoch.trans hsame) hlive with hocc | ⟨m, hlatest, hcopies⟩
  · left
    show w.commands.engine.Occupied g.id snapshot.epoch g.request.desired
    rw [hsame]
    exact hocc
  · refine Or.inr ⟨m, ?_, hcopies⟩
    show latestRecord before snapshot.epoch = some m
    rw [hsame]
    exact hlatest

/-- The participant does something else than to receive a record. -/
theorem Kept.commands (h : Kept before w) (hg : Granted w) {P : EngineOp → Prop}
    {c : Commands (Predicate ρ)} (hcalls : Engine.Calls cfg.engine P w.commands.engine c.engine)
    (hseen : ∀ o, c.engine.state = some o → o.epoch ≤ w.snapshot.epoch)
    (hstored : ∀ m, c.filters = some m → latestRecord before c.epoch = some m)
    (hocc : ∀ g ∈ w.grants, Occupied w g →
      c.engine.Occupied g.id w.snapshot.epoch g.request.desired ∨ Based before w g) :
    Kept before { w with commands := c } := by
  refine ⟨hcalls.epochs h.epochs, hseen, h.past, hstored, fun g hmem hedit hepoch hlive => ?_⟩
  rcases h.based g hmem hedit hepoch (hg.live hcalls hmem hlive) with ho | hbased
  · exact hocc g hmem ho
  · exact Or.inr hbased

/-- The record that was read back is the one that was written. -/
theorem copies_of_shows {g : Grant ρ} {o : SpaState}
    (h : Value.shows (o.value .filters) g.request.desired = true) :
    ∃ m, o.filters = some m ∧ g.copies m = true := by
  obtain ⟨v, hv, hsame⟩ := Value.shows_iff.mp h
  obtain ⟨m, hm, rfl⟩ : ∃ m, o.filters = some m ∧ .filters m.schedule = v := by
    unfold SpaState.value at hv
    exact Option.map_eq_some_iff.mp hv
  refine ⟨m, hm, ?_⟩
  unfold Grant.copies
  rw [Value.pyEq_iff] at hsame
  split
  · next hdesired =>
    rw [hdesired] at hsame
    cases hsame
    simp
  · rfl

theorem Kept.update (h : Kept before w) (hg : Granted w) (now : ℚ) :
    Kept before { w with commands := w.commands.update cfg w.snapshot now } := by
  have hrecord := Commands.update_record cfg w.commands w.snapshot now
  obtain ⟨hepoch, hfilters⟩ := Commands.manageQueries_record cfg w.commands w.snapshot now
  have hlatest : ∀ m, (w.commands.manageQueries cfg w.snapshot now).filters = some m →
      latestRecord before w.snapshot.epoch = some m := by
    intro m hm
    rcases hfilters with hsame | hnone
    · rw [← hepoch, hsame.2]
      exact h.stored m (hsame.1 ▸ hm)
    · rw [hnone] at hm
      cases hm
  have hstored : ∀ m, (w.commands.update cfg w.snapshot now).filters = some m →
      latestRecord before (w.commands.update cfg w.snapshot now).epoch = some m := by
    intro m hm
    rw [hrecord.2, hepoch]
    exact hlatest m (hrecord.1 ▸ hm)
  obtain ⟨o, ho, heq⟩ | ⟨-, heq⟩ := Commands.update_engine cfg w.commands w.snapshot now
  · obtain ⟨ofilters, oepoch⟩ := Commands.observation_record _ ho
    have hstep : (w.commands.update cfg w.snapshot now).engine =
        (w.commands.engine.step cfg.engine (.observe o now)).1 := heq
    have hcalls : Engine.Calls cfg.engine (fun _ => True) w.commands.engine
        (w.commands.update cfg w.snapshot now).engine := by
      rw [hstep]
      exact .one (.observe o now) trivial
    have hstay : ∀ o' now', EngineOp.observe o now = .observe o' now' →
        o'.epoch ≤ w.snapshot.epoch := by
      rintro o' now' ⟨⟩
      exact oepoch.le
    refine h.commands hg hcalls ?_ hstored fun g hmem hocc => ?_
    · rw [hstep]
      exact Engine.step_seen h.seen _ hstay
    · rw [hstep]
      rcases Engine.step_occupied hocc h.epochs h.seen (.observe o now) hstay with
        hocc | ⟨o', now', hop, hshows⟩
      · exact Or.inl hocc
      · cases hop
        obtain ⟨m, hm, hcopies⟩ := copies_of_shows hshows
        exact Or.inr ⟨m, hlatest m (ofilters ▸ hm), hcopies⟩
  · have hcalls : Engine.Calls cfg.engine Engine.NoObserve w.commands.engine
        (w.commands.update cfg w.snapshot now).engine := by
      rw [heq]
      exact (Engine.Calls.one (.tick now) (by intro o t; simp)).trans
        (Engine.Calls.one (.suspend now) (by intro o t; simp))
    exact h.commands hg hcalls (hcalls.seen h.seen) hstored fun g _ hocc =>
      Or.inl (hcalls.occupied h.epochs h.seen hocc)

/-- **A received record** becomes the stored one, and no write that waits disagrees with it. -/
theorem Kept.received (h : Kept before w) (message : Message) (epoch : ℕ) (at_ : ℚ)
    (hu : Undisturbed before w (.received message epoch at_)) :
    Kept (before ++ [.received message epoch at_])
      { w with commands := w.commands.received cfg message epoch at_ } := by
  have hengine := (Commands.received_engine cfg w.commands message epoch at_).1
  obtain ⟨hepoch, hfilters⟩ := Commands.received_record cfg w.commands message epoch at_
  refine ⟨?_, ?_, h.past, ?_, ?_⟩
  · rw [hengine]
    exact h.epochs
  · rw [hengine]
    exact h.seen
  · intro m hm
    rw [hepoch, latestRecord_append]
    rcases hfilters with ⟨hsame, hother⟩ | ⟨m', rfl, rfl, hstored⟩
    · have hnone : recordIn w.commands.epoch (.received message epoch at_ : Op ρ) = none := by
        rw [Option.eq_none_iff_forall_ne_some]
        intro m' hrecord
        obtain ⟨at', heq⟩ := recordIn_eq_some.mp hrecord
        cases heq
        exact hother m' rfl rfl
      rw [hnone, Option.none_or]
      exact h.stored m (hsame ▸ hm)
    · have hrecord : recordIn w.commands.epoch
          (.received (.filterCycles m') w.commands.epoch at_ : Op ρ) = some m' :=
        recordIn_eq_some.mpr ⟨at_, rfl⟩
      rw [hrecord, Option.some_or]
      exact hstored.symm.trans hm
  · intro g hmem hedit hsame hlive'
    have hlive : Live w g := by
      unfold Live at hlive'
      rw [hengine] at hlive'
      exact hlive'
    by_cases hocc : Occupied w g
    · left
      unfold Occupied
      rw [hengine]
      exact hocc
    right
    obtain ⟨m, hlatest, hcopies⟩ := (h.based g hmem hedit hsame hlive).resolve_left hocc
    unfold Based
    rw [latestRecord_append]
    cases hrecord : recordIn w.snapshot.epoch (.received message epoch at_ : Op ρ) with
    | none => exact ⟨m, hlatest, hcopies⟩
    | some m' =>
      exact ⟨m', rfl, hu.received m' hrecord g hmem ⟨hedit, hsame, hlive, hocc⟩⟩

theorem quiet_prepare (w : SpaRuntime ρ) (now : ℚ) : Quiet cfg before w (w.prepare cfg now).1 := by
  have hcalls := Commands.prepare_engine cfg w.commands w.callGuard w.world now
  have hrecord := Commands.prepare_record cfg w.commands w.callGuard w.world now
  exact ⟨hcalls.mono fun _ hop => hop.noObserve, rfl, hrecord.1, hrecord.2, fun _ hg => Or.inl hg⟩

theorem quiet_sent (w : SpaRuntime ρ) (message : Transmission) (at_ : ℚ) (ctsAt : Option ℚ) :
    Quiet cfg before w { w with commands := (w.commands.sent cfg message at_ ctsAt).2 } := by
  have hrecord := Commands.sent_record cfg w.commands message at_ ctsAt
  refine ⟨?_, rfl, hrecord.1, hrecord.2, fun _ hg => Or.inl hg⟩
  show Engine.Calls _ _ _ (w.commands.sent cfg message at_ ctsAt).2.engine
  obtain ⟨heq | ⟨action, heq⟩, -⟩ := Commands.sent_engine cfg w.commands message at_ ctsAt
  · rw [heq]
    exact .refl _
  · rw [heq]
    exact .one (.sent action at_ ctsAt) (by intro o now; simp)

/-! ## Steps -/

/-- **A step that is not disturbed keeps the copied cycle.** -/
theorem step_kept (h : Kept before w) (hg : Granted w) (op : Op ρ) (hu : Undisturbed before w op) :
    Kept (before ++ [op]) (w.step cfg op).1 := by
  have hquiet : Quiet cfg before w (w.step cfg op).1 → (∀ epoch, recordIn epoch op = none) →
      Kept (before ++ [op]) (w.step cfg op).1 :=
    fun hq hnone => h.quiet hg hq (latestRecord_other before hnone)
  have hafter : Kept before (w.step cfg op).1 → (∀ epoch, recordIn epoch op = none) →
      Kept (before ++ [op]) (w.step cfg op).1 := by
    intro hkept hnone
    have hsame : Quiet cfg before (w.step cfg op).1 (w.step cfg op).1 := .refl _
    exact hkept.quiet (step_granted hg op) hsame (latestRecord_other before hnone)
  cases op with
  | clock time => exact hquiet (quiet_congr rfl rfl rfl) fun _ => rfl
  | world world => exact hquiet (quiet_congr rfl rfl rfl) fun _ => rfl
  | publish snapshot => exact hafter (h.publish snapshot) fun _ => rfl
  | update now => exact hafter (h.update hg now) fun _ => rfl
  | prepare now => exact hquiet (quiet_prepare w now) fun _ => rfl
  | sent message at_ ctsAt => exact hquiet (quiet_sent w message at_ ctsAt) fun _ => rfl
  | received message epoch at_ => exact h.received message epoch at_ hu
  | disconnected now =>
    refine hquiet ⟨?_, rfl, rfl, rfl, fun _ hg => Or.inl hg⟩ fun _ => rfl
    exact .one (.suspend now) (by intro o t; simp)
  | request r => exact hquiet (quiet_request w r none (by simp)) fun _ => rfl
  | cancel control now =>
    exact hquiet (quiet_engine (.one (.cancel control now) (by intro o t; simp))) fun _ => rfl
  | joined id now =>
    exact hquiet (quiet_engine (.one (.joined id now) (by intro o t; simp))) fun _ => rfl
  | waited now =>
    exact hquiet (quiet_engine (.one (.tick now) (by intro o t; simp))) fun _ => rfl
  | asyncUpdateFilter edit =>
    exact hquiet (quiet_silent (stretch_asyncUpdateFilter cfg w edit)) fun _ => rfl
  | wake => exact hquiet (quiet_wake hu) fun _ => rfl
  | timeout now => exact hquiet (quiet_silent (stretch_timeout cfg w now)) fun _ => rfl
  | stop => exact hquiet (quiet_silent (stretch_stop cfg w)) fun _ => rfl

theorem kept_init (world : ρ) : Kept [] ({ world } : SpaRuntime ρ) where
  epochs := Engine.stateAt_epochs .default [] 0
  seen := by
    intro o ho
    cases ho
  past := by simp
  stored := by
    intro m hm
    cases hm
  based := by simp

/-- No step of the run disturbs the filter edits. -/
def UndisturbedRun (cfg : RuntimeConfig) (world : ρ) (run : List (Op ρ)) : Prop :=
  ∀ n op, run[n]? = some op → Undisturbed (run.take n) (spaAt cfg world run n) op

theorem spaAt_kept {world : ρ} {run : List (Op ρ)} (h : UndisturbedRun cfg world run) (n : ℕ) :
    Kept (run.take n) (spaAt cfg world run n) :=
  (machine cfg world).stateAt_history run (kept_init world)
    (fun n op hop hkept => step_kept hkept (spaAt_granted cfg world run n) op (h n op hop)) n

/-! ## Transmission -/

/-- Whenever `prepare` hands out the write of a filter edit, the cycle that was not edited is
    the one of the record received last in this epoch. -/
def KeepsOther (cfg : RuntimeConfig) (before : List (Op ρ)) (w : SpaRuntime ρ) : Prop :=
  ∀ now t action calls, (w.prepare cfg now).2 = .handed (some t) calls → t.token = .action action →
    ∀ g ∈ w.grants, g.id = action.intent.id → ∀ edit, g.edit = some edit →
      ∃ schedule m, t.frame = schedule.frame ∧ action.intent.desired = .filters schedule ∧
        latestRecord before w.snapshot.epoch = some m ∧
          schedule.other edit.index = m.schedule.other edit.index

theorem Kept.keepsOther (h : Kept before w) (hg : Granted w) : KeepsOther cfg before w := by
  intro now t action calls hhanded htoken g hmem hid edit hedit
  obtain ⟨hcontrol, hdesired, hadmits⟩ := (hg.transmission now t action calls hhanded htoken).2
    g hmem hid
  have hfilters := (hg.edited g hmem edit hedit).1
  have hepoch : w.snapshot.epoch = g.epoch := hadmits.epoch (by simp [Grant.expires, hedit])
  obtain ⟨hmessage, rfl⟩ := Out.handed.inj hhanded
  -- its goal could be sent before, too
  have hlive : Live w g := by
    obtain ⟨item, hi, hterminal, -⟩ := Commands.prepare_live cfg hg.rep hg.pending hmessage htoken
    rw [← hid] at hi
    exact hg.live (Commands.prepare_engine cfg w.commands w.callGuard w.world now) hmem
      ⟨item, hi, hterminal⟩
  -- the planner writes the record that was asked for
  have hcalls := Commands.admitGuards_engine cfg w.commands w.callGuard
    w.commands.guards.entries w.world
  obtain ⟨hnext, -⟩ := Commands.offer_next cfg _ hmessage htoken
  obtain ⟨-, hframe⟩ := Commands.offer_action cfg _ hmessage htoken
  obtain ⟨o, spent, -, -, hp, -, -⟩ := Engine.nextAction_intent (hcalls.rep hg.rep hg.pending).1 hnext
  obtain ⟨schedule, hschedule, hbytes⟩ : ∃ schedule, action.intent.desired = .filters schedule ∧
      action.frame = schedule.frame := by
    have hplanned := hp.planned
    rw [hcontrol.symm.trans hfilters] at hplanned
    exact plan_filters hplanned
  rcases h.based g hmem (by rw [hedit]; rfl) hepoch.symm hlive with hocc | ⟨m, hlatest, hcopies⟩
  · have hpre := hcalls.mono fun _ hop => hop.noObserve
    have hocc := hpre.occupied h.epochs h.seen hocc
    rw [hocc.withheld (hpre.epochs h.epochs) (hpre.seen h.seen) now] at hnext
    cases hnext
  · refine ⟨schedule, m, hframe.trans hbytes, hschedule, hlatest, ?_⟩
    unfold Grant.copies at hcopies
    simpa [hedit, hdesired, hschedule] using hcopies

/-- **Filter edits**: in a run that disturbs none, `prepare` never hands out a write that takes
    back what the panel has set for the other cycle. -/
theorem filters_kept (cfg : RuntimeConfig) (world : ρ) (run : List (Op ρ))
    (h : UndisturbedRun cfg world run) (n : ℕ) :
    KeepsOther cfg (run.take n) (spaAt cfg world run n) :=
  (spaAt_kept h n).keepsOther (spaAt_granted cfg world run n)

/-! ## Sample runs -/

/-- A query is sent and answered. -/
def sampleRead (query : Query) (message : Message) (at_ : ℚ) : List (Op Unit) :=
  [.sent ⟨encodeQuery query, .query query⟩ at_ none, .received message 1 at_]

/-- A round of queries. -/
def sampleRound (filters : FilterCyclesMessage) (at_ : ℚ) : List (Op Unit) :=
  sampleRead .setup (.setup
      ⟨⟨10, 0xBF, 0x25, [0, 0, 50, 99, 80, 104, 0, 0, 1, 0], by simp⟩, (50, 99), (80, 104)⟩) at_ ++
    sampleRead .filters (.filterCycles filters) at_ ++
    sampleRead .fault (.faultLog
      ⟨⟨10, 0xBF, 0x28, [0, 0, 0, 0, 0, 0, 0, 0, 0, 1], by simp⟩, 0, 0, 0⟩) at_ ++
    [.update at_]

/-- The second cycle is edited one second before the periodic round is due, and the round reads
    `filters` before the bus is free for the write. -/
def filterRun (filters : FilterCyclesMessage) : List (Op Unit) :=
  [.publish (sampleSnapshot .ready (sampleStatus 98 0 true) 1 0), .update 0] ++
    sampleRound (Engine.sampleFilters 6 (by decide)) 0 ++
    [.clock 299, .publish (sampleSnapshot .ready (sampleStatus 98 0 true) 2 299), .update 299,
      .asyncUpdateFilter
        { index := 2, start := some 600, stop := some 720, enabled := some true }] ++
    sampleRead .filters (.filterCycles (Engine.sampleFilters 6 (by decide))) 299 ++
    [.update 299, .wake, .publish (sampleSnapshot .ready (sampleStatus 98 0 true) 3 300),
      .update 300] ++
    sampleRound filters 300

/-- What `prepare` returns is the write of the goal `id`, and the first byte of its record, where
    the first cycle starts, is `hour`. -/
def startsFirst (w : SpaRuntime Unit) (now : ℚ) (id : ℕ) (hour : UInt8) : Bool :=
  (w.commands.prepare sampleRuntime w.callGuard w.world now).1.any fun t =>
    match t.token, t.frame.payload with
    | .action action, first :: _ => action.intent.id = id ∧ first = hour
    | _, _ => false

theorem filters_kept_sample :
    startsFirst (spaAt sampleRuntime () (filterRun (Engine.sampleFilters 6 (by decide))) 26) 300 1 6 =
        true ∧
      KeepsOther sampleRuntime ((filterRun (Engine.sampleFilters 6 (by decide))).take 26)
        (spaAt sampleRuntime () (filterRun (Engine.sampleFilters 6 (by decide))) 26) := by
  refine ⟨by decide +kernel, filters_kept sampleRuntime () _ (fun n op hop => ?_) 26⟩
  have hsteps : ∀ n < 26, ∀ op ∈ (filterRun (Engine.sampleFilters 6 (by decide)))[n]?,
      Undisturbed ((filterRun (Engine.sampleFilters 6 (by decide))).take n)
        (spaAt sampleRuntime () (filterRun (Engine.sampleFilters 6 (by decide))) n) op := by
    decide +kernel
  obtain ⟨hlt, -⟩ := List.getElem?_eq_some_iff.mp hop
  exact hsteps n hlt op hop

/-- The panel moves the first cycle from six to seven, the periodic round reads this, and
    `prepare` hands out a record that moves it back. -/
theorem filters_lost :
    ¬ KeepsOther sampleRuntime ((filterRun (Engine.sampleFilters 7 (by decide))).take 26)
      (spaAt sampleRuntime () (filterRun (Engine.sampleFilters 7 (by decide))) 26) := by
  intro hkept
  have hlatest : latestRecord ((filterRun (Engine.sampleFilters 7 (by decide))).take 26) 1 =
      some (Engine.sampleFilters 7 (by decide)) := by
    decide +kernel
  generalize hw : spaAt sampleRuntime () (filterRun (Engine.sampleFilters 7 (by decide))) 26 = w
    at hkept
  have hepoch : w.snapshot.epoch = 1 := by
    rw [← hw]
    decide +kernel
  have hhanded : startsFirst w 300 1 6 = true := by
    rw [← hw]
    decide +kernel
  have hgrant : (w.grants.any fun g => g.id = 1 ∧ g.edit.any (·.index = 2)) = true := by
    rw [← hw]
    decide +kernel
  obtain ⟨t, ht, hmatch⟩ := (Option.any_eq_true _ _).mp hhanded
  have hout : (w.prepare sampleRuntime 300).2 =
      .handed (some t) (w.commands.guardCalls w.callGuard w.world) := by
    rw [← ht]
    rfl
  obtain ⟨g, hg, hgs⟩ := List.any_eq_true.mp hgrant
  simp only [decide_eq_true_eq, Option.any_eq_true] at hgs
  obtain ⟨hid, edit, hedit, hindex⟩ := hgs
  split at hmatch
  swap
  · cases hmatch
  next action first rest htoken hpayload =>
  obtain ⟨hid', hhour⟩ := of_decide_eq_true hmatch
  obtain ⟨schedule, m, hframe, -, hm, hother⟩ :=
    hkept 300 t action _ hout htoken g hg (hid.trans hid'.symm) edit hedit
  rw [hepoch, hlatest] at hm
  obtain rfl := Option.some.inj hm
  rw [FilterSchedule.other, FilterSchedule.other, hindex, if_neg (by decide), if_neg (by decide)]
    at hother
  have hfirst : first = UInt8.ofNat schedule.first.startHour := by
    rw [hframe] at hpayload
    exact (List.cons.inj hpayload).1.symm
  rw [hother, hhour] at hfirst
  exact absurd hfirst (by decide)

end SpaRuntime

end BalboaRs485
