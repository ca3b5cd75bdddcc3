import BalboaRs485.Runtime.Spa

/-!
# What a stretch of a filter edit does

Between two awaits `async_update_filter` calls a predicate, asks for a read, makes its request
or cancels it, and moves on to another await. `Stretch` says so once; what these few things
keep, every step of the edit keeps.

* `stretch_asyncUpdateFilter`, `stretch_wake`, `stretch_timeout`, `stretch_stop`: the steps of
  the edit are stretches, and only `wake` makes the request, after a fresh read.
-/

namespace BalboaRs485

namespace SpaRuntime

variable {ρ : Type} {cfg : RuntimeConfig} {P : FilterEdit ρ → FilterSchedule → Prop}
  {w w' : SpaRuntime ρ}

/-- The fresh read the edit waits for has ended in this epoch, and `desired` is what the edit
    makes of the record. -/
structure Fresh (w : SpaRuntime ρ) (edit : FilterEdit ρ) (desired : FilterSchedule) : Prop where
  reading : ∃ generation, w.task = .reading edit w.snapshot.epoch generation ∧
    w.commands.refreshVersion ≠ generation
  success : w.commands.refreshSuccess = true
  edited : ∃ m, w.state.bind SpaState.filters = some m ∧
    m.schedule.update edit.index edit.start edit.stop edit.enabled = .ok desired

/-- What a stretch that begins in `w` has made of the runtime so far; `P` are the edited records
    it can write. -/
inductive Stretch (cfg : RuntimeConfig) (P : FilterEdit ρ → FilterSchedule → Prop)
    (w : SpaRuntime ρ) : SpaRuntime ρ → Prop where
  | begins : Stretch cfg P w w
  /-- A predicate has been called, or the edit waits for something else. -/
  | moves {w' : SpaRuntime ρ} (h : Stretch cfg P w w') (world : ρ) (task : FilterTask ρ) :
      Stretch cfg P w { w' with world, task }
  | asks {w' : SpaRuntime ρ} (h : Stretch cfg P w w') :
      Stretch cfg P w { w' with commands := w'.commands.refreshFilters.2 }
  /-- The request of the edited record. -/
  | writes {w' : SpaRuntime ρ} (h : Stretch cfg P w w') {edit : FilterEdit ρ}
      {desired : FilterSchedule} (hP : P edit desired) :
      Stretch cfg P w (w'.request cfg
        { control := .filters
          desired := .filters desired
          valid := some (Predicate.within w'.snapshot.epoch edit.valid) } (some edit)).2
  | ticks {w' : SpaRuntime ρ} (h : Stretch cfg P w w') (now : ℚ) :
      Stretch cfg P w (w'.setEngine (w'.commands.engine.tick cfg.engine now))
  | cancels {w' : SpaRuntime ρ} (h : Stretch cfg P w w') :
      Stretch cfg P w (w'.setEngine (w'.commands.engine.cancel .filters none))

namespace Stretch

theorem world (h : Stretch cfg P w w') (world : ρ) : Stretch cfg P w { w' with world } :=
  h.moves world w'.task

theorem finish (h : Stretch cfg P w w') (result : Except FilterError Unit) :
    Stretch cfg P w (w'.finish result).1 := h.moves w'.world .free

theorem await (h : Stretch cfg P w w') (task : FilterTask ρ) : Stretch cfg P w (w'.await task).1 :=
  h.moves w'.world task

theorem abandonWrite (h : Stretch cfg P w w') (id : ℕ) : Stretch cfg P w (w'.abandonWrite id) := by
  unfold SpaRuntime.abandonWrite
  split
  · exact h
  · split
    · exact h
    · exact h.cancels

theorem awaitWrite (h : Stretch cfg P w w') (edit : FilterEdit ρ) (id : ℕ) :
    Stretch cfg P w (w'.awaitWrite edit id).1 := by
  unfold SpaRuntime.awaitWrite
  split
  · exact h.finish _
  · split
    · exact h.await _
    · split
      · exact h.finish _
      · exact (h.abandonWrite id).finish _

theorem writeEdit (h : Stretch cfg P w w') {edit : FilterEdit ρ} {desired : FilterSchedule}
    (hP : P edit desired) :
    Stretch cfg P w (w'.writeEdit cfg edit w'.snapshot.epoch desired).1 := by
  have hwrites := h.writes hP
  unfold SpaRuntime.writeEdit
  split
  · next heq =>
    rw [heq] at hwrites
    exact hwrites.finish _
  · next heq =>
    rw [heq] at hwrites
    exact hwrites.awaitWrite _ _

/-- The edit is not made before its read has ended: asking for the read does not end it. -/
theorem awaitIdle (h : Stretch cfg P w w') (edit : FilterEdit ρ) (epoch : ℕ) :
    Stretch cfg P w (w'.awaitIdle cfg edit epoch).1 := by
  have hasks := h.asks
  have hversion : w'.commands.refreshFilters.2.refreshVersion = w'.commands.refreshVersion := by
    unfold Commands.refreshFilters
    split <;> rfl
  unfold SpaRuntime.awaitIdle
  split
  · exact h.finish _
  next hepoch =>
  split
  swap
  · exact h.await _
  unfold askRead
  split
  · next heq =>
    rw [heq] at hasks
    exact hasks.finish _
  · next heq =>
    rw [heq] at hasks hversion
    unfold awaitRead
    rw [if_neg (not_or.mpr ⟨hepoch, not_not.mpr hversion⟩)]
    exact hasks.await _

end Stretch

/-! ## The steps of the edit -/

/-- The read has ended, or the connection has changed and the edit is given up. -/
theorem stretch_awaitRead {edit : FilterEdit ρ} {epoch generation : ℕ}
    (htask : w.task = .reading edit epoch generation) :
    Stretch cfg (Fresh w) w (w.awaitRead cfg edit epoch generation).1 := by
  have h : Stretch cfg (Fresh w) w w := .begins
  unfold awaitRead
  split
  swap
  · exact h.await _
  next hread =>
  unfold applyEdit
  split
  · exact h.finish _
  next hready =>
  obtain ⟨hepoch, hsuccess⟩ := not_or.mp hready
  obtain rfl : w.snapshot.epoch = epoch := not_not.mp hepoch
  split
  · exact h.finish _
  next m hm =>
  split
  · exact h.finish _
  next desired hdesired =>
  have hfresh : Fresh w edit desired :=
    ⟨⟨generation, htask, hread.resolve_left hepoch⟩, not_not.mp hsuccess, m, hm, hdesired⟩
  unfold admitEdit
  split
  · exact (h.world (Predicate.within w.snapshot.epoch edit.valid w.snapshot w.world).2).writeEdit
      hfresh
  · exact (h.world _).finish _

/-- Only an edit that looks again at its read can write. -/
theorem stretch_asyncUpdateFilter (cfg : RuntimeConfig) (w : SpaRuntime ρ) (edit : FilterEdit ρ) :
    Stretch cfg (fun _ _ => False) w (w.asyncUpdateFilter cfg edit).1 := by
  have h : Stretch cfg (fun _ _ => False) w w := .begins
  unfold asyncUpdateFilter
  split
  · split
    · unfold enterEdit
      split
      · exact h.awaitIdle _ _
      · split
        · exact (h.world _).awaitIdle _ _
        · exact (h.world _).finish _
    · exact h.finish _
  · exact h

theorem stretch_wake (cfg : RuntimeConfig) (w : SpaRuntime ρ) :
    Stretch cfg (Fresh w) w (w.wake cfg).1 := by
  unfold wake
  split
  · exact .begins
  · exact Stretch.begins.awaitIdle _ _
  · next htask => exact stretch_awaitRead htask
  · exact Stretch.begins.awaitWrite _ _

theorem stretch_timeout (cfg : RuntimeConfig) (w : SpaRuntime ρ) (now : ℚ) :
    Stretch cfg (fun _ _ => False) w (w.timeout cfg now).1 := by
  have h : Stretch cfg (fun _ _ => False) w w := .begins
  unfold timeout
  split
  · exact h
  · exact h.finish _
  · exact h.finish _
  · split
    · exact ((h.ticks now).abandonWrite _).finish _
    · exact (h.ticks now).awaitWrite _ _

theorem stretch_stop (cfg : RuntimeConfig) (w : SpaRuntime ρ) :
    Stretch cfg (fun _ _ => False) w w.stop.1 := by
  have h : Stretch cfg (fun _ _ => False) w w := .begins
  unfold stop
  split
  · exact h
  · exact h.finish _
  · exact h.finish _
  · exact (h.abandonWrite _).finish _

end SpaRuntime

end BalboaRs485
