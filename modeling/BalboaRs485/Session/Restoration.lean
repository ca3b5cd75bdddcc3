import BalboaRs485.Session.Progress
import BalboaRs485.Lib.Machine

/-!
# A bathing session restores the spa

`restorationMachine` runs a session against the spa it changes: the range, both
stored targets and the heat mode. The session's goal is applied only if the
record it was computed from has been saved; it may be outstanding while the
session is cancelled, adjusted or expires, and the program may crash and reload
the saved record at any point.

`Tracks` relates a record to the spa: which fields may differ from their values at
the start, and that the record then still owns them. It holds of the record in
memory and of the one on disk.

* `tracks_apply`: applying a goal keeps it.
* `tracks_advance`: so does each step of `reconcile`, and when `reconcile` returns
  `None` nothing differs any more.
* `bathing_restored`: the resulting statement about runs.
-/

namespace BalboaRs485

/-! ## The spa -/

/-- What a session changes: the range, the stored target of each range and the heat
    mode. -/
structure Spa where
  highRange : Bool
  low : ℚ
  high : ℚ
  mode : HeatMode
deriving DecidableEq

namespace Spa

/-- The target of the selected range. -/
def target (spa : Spa) : ℚ := if spa.highRange then spa.high else spa.low

/-- A true observation: it reports the range, the target of that range and the heat
    mode. -/
def Observed (spa : Spa) (o : SpaState) : Prop :=
  o.status.highRange = spa.highRange ∧ o.status.targetTemperature = some spa.target ∧
    o.status.heatMode = spa.mode

instance (spa : Spa) (o : SpaState) : Decidable (spa.Observed o) :=
  inferInstanceAs (Decidable (_ ∧ _ ∧ _))

/-- The goal takes effect. A target is stored for the selected range. -/
def apply (spa : Spa) : Control × Value → Spa
  | (.highRange, .bool b) => { spa with highRange := b }
  | (.target, .float t) => if spa.highRange then { spa with high := t } else { spa with low := t }
  | (.heatMode, .mode m) => { spa with mode := m }
  | _ => spa

/-- One press of the heat-mode button: `READY_IN_REST → REST → READY → REST`. -/
def toggleMode (spa : Spa) : Spa :=
  { spa with
    mode := match spa.mode with
      | .unknown => .unknown
      | .ready => .rest
      | .rest => .ready
      | .readyInRest => .rest }

/-- One toggle step towards a heat-mode goal that is not reached yet. -/
def toggleTowards (spa : Spa) : Control × Value → Spa
  | (.heatMode, .mode m) => if spa.mode = m then spa else spa.toggleMode
  | _ => spa

end Spa

/-! ## Runs of a session -/

/-- The session in memory and on disk, the spa, and the goal that is on its way. -/
structure SessionSystem where
  spa : Spa
  memory : Option RangeSession
  disk : Option RangeSession
  outstanding : Option (Control × Value)

/-- What can happen to a session. -/
inductive SessionOp where
  /-- `reconcile` on a true observation; nothing is outstanding. -/
  | reconcile (now : ℚ) (o : SpaState)
  /-- `reconcile` without an observation. -/
  | reconcileNone (now : ℚ)
  | adjust (now seconds : ℚ)
  | cancel
  /-- The record in memory reaches the disk. -/
  | save
  /-- The program restarts from the saved record. -/
  | crash
  /-- The goal of the saved session is sent on a true observation. -/
  | send (o : SpaState)
  /-- The outstanding heat-mode goal presses the button once. -/
  | toggle
  /-- The outstanding goal takes effect. -/
  | land
  /-- The outstanding goal is lost or given up. -/
  | drop

/-- The memory after a call that may raise, and whether it returned `None`. -/
def SessionSystem.settle (sys : SessionSystem) :
    Except SessionError (Option RangeSession) → SessionSystem × Bool
  | .error _ => (sys, false)
  | .ok session => ({ sys with memory := session }, session.isNone)

/-- One step; a call whose circumstances do not hold changes nothing. The output
    says whether `reconcile` returned `None`. -/
def SessionSystem.step (sys : SessionSystem) : SessionOp → SessionSystem × Bool
  | .reconcile now o =>
    match sys.memory with
    | some s =>
      if sys.outstanding = none ∧ sys.spa.Observed o then sys.settle (s.reconcile now (some o))
      else (sys, false)
    | none => (sys, false)
  | .reconcileNone now =>
    match sys.memory with
    | some s => sys.settle (s.reconcile now none)
    | none => (sys, false)
  | .adjust now seconds =>
    match sys.memory with
    | some s => sys.settle ((s.adjust now seconds).map some)
    | none => (sys, false)
  | .cancel => ({ sys with memory := sys.memory.map RangeSession.cancel }, false)
  | .save => ({ sys with disk := sys.memory }, false)
  | .crash => ({ sys with memory := sys.disk, outstanding := none }, false)
  | .send o =>
    match sys.memory with
    | some s =>
      match s.goal (some o) with
      | .ok goal =>
        if sys.disk = some s ∧ sys.outstanding = none ∧ sys.spa.Observed o then
          ({ sys with outstanding := some goal }, false)
        else (sys, false)
      | .error _ => (sys, false)
    | none => (sys, false)
  | .toggle => ({ sys with spa := (sys.outstanding.map sys.spa.toggleTowards).getD sys.spa }, false)
  | .land =>
    ({ sys with spa := (sys.outstanding.map sys.spa.apply).getD sys.spa, outstanding := none }, false)
  | .drop => ({ sys with outstanding := none }, false)

/-- The runs of a session that was started on the spa `spa`. -/
def restorationMachine (spa : Spa) (start : RangeSession) : Machine SessionSystem SessionOp Bool where
  init := { spa, memory := some start, disk := none, outstanding := none }
  step := SessionSystem.step

/-! ## The invariant -/

/-- The record `s` tracks the changes of `spa` since it was `spa₀`: the High target
    and the heat mode differ only if the record owns them and will restore them. -/
structure Tracks (spa₀ spa : Spa) (s : RangeSession) : Prop where
  range : s.originalRange = spa₀.highRange
  mode : s.originalMode = .ready ↔ spa₀.mode = .ready
  low : spa.low = spa₀.low
  captured : ∀ high, s.originalHigh = some high → high = spa₀.high
  high : spa.high = spa₀.high ∨
    (s.targetOwned = true ∧ spa.high = s.target ∧ s.step.requiresHigh = true)
  heating : (spa.mode = .ready ↔ spa₀.mode = .ready) ∨ (spa₀.mode ≠ .ready ∧ s.modeOwned = true)

/-- The goal on its way is one the record `s` will undo, or needs no undoing. -/
def Covers (spa₀ spa : Spa) (s : RangeSession) : Control × Value → Prop
  | (.highRange, .bool _) => True
  | (.target, .float t) => spa.highRange = true ∧
      (t = spa₀.high ∨ (s.targetOwned = true ∧ t = s.target ∧ s.step.requiresHigh = true))
  | (.heatMode, .mode m) =>
      (m = .ready ∧ (spa₀.mode = .ready ∨ s.modeOwned = true)) ∨ (m = .rest ∧ spa₀.mode ≠ .ready)
  | _ => False

/-- A record that both tracks the spa and covers what is outstanding. -/
def Sound (spa₀ : Spa) (sys : SessionSystem) (s : RangeSession) : Prop :=
  Tracks spa₀ sys.spa s ∧ ∀ goal, sys.outstanding = some goal → Covers spa₀ sys.spa s goal

/-- The invariant of a run. -/
def SessionInv (spa₀ : Spa) (sys : SessionSystem) : Prop :=
  (∀ s, sys.memory = some s → Sound spa₀ sys s) ∧ ∀ s, sys.disk = some s → Sound spa₀ sys s

/-! ## What an observation shows -/

theorem shows_highRange {o : SpaState} {b : Bool}
    (h : Value.shows (o.value .highRange) (.bool b) = true) : o.status.highRange = b := by
  simp only [SpaState.value, Value.shows, Option.any_some, Value.pyEq_iff, Value.norm,
    Value.float.injEq] at h
  cases hb : o.status.highRange <;> cases b <;> simp_all

theorem shows_target {o : SpaState} {t : ℚ}
    (h : Value.shows (o.value .target) (.float t) = true) : o.status.targetTemperature = some t := by
  simp only [SpaState.value, Value.shows, Option.any_map, Option.any_eq_true,
    Value.pyEq_iff, Value.norm, Value.float.injEq] at h
  obtain ⟨v, hv, rfl⟩ := h
  exact hv

theorem HeatMode.toInt_injective {m m' : HeatMode} (h : (m.toInt : ℚ) = m'.toInt) : m = m' := by
  have h := Int.cast_injective h
  cases m <;> cases m' <;> simp_all [HeatMode.toInt]

theorem shows_heatMode {o : SpaState} {m : HeatMode}
    (h : Value.shows (o.value .heatMode) (.mode m) = true) : o.status.heatMode = m := by
  simp only [SpaState.value] at h
  split at h
  · simp [Value.shows] at h
  · simp only [Value.shows, Option.any_some, Value.pyEq_iff, Value.norm, Value.float.injEq] at h
    exact HeatMode.toInt_injective h

/-! ## Goals -/

/-- What a successful `goal` has checked. -/
theorem goal_ok {s : RangeSession} {o : SpaState} {goal : Control × Value}
    (h : s.goal (some o) = .ok goal) : s.stepGoal o = .ok goal := by
  unfold RangeSession.goal at h
  dsimp only at h
  split at h
  · cases h
  · split at h
    · cases h
    · next hs =>
      split at h
      · cases h
      · cases h; exact hs

/-- The goal of a target step: High is selected and its original target captured. -/
theorem stepGoal_target {s : RangeSession} {o : SpaState} {goal : Control × Value}
    (hst : s.step = .setTarget ∨ s.step = .active ∨ s.step = .restoreHigh)
    (h : s.stepGoal o = .ok goal) :
    o.status.highRange = true ∧ ∃ high, s.originalHigh = some high ∧
      goal = (.target, .float (if s.step = .restoreHigh then high else s.target)) := by
  unfold RangeSession.stepGoal at h
  rcases hst with hst | hst | hst <;>
  · simp only [hst] at h ⊢
    split at h
    · cases h
    · next hrange =>
      split at h
      · cases h
      · next high hhigh =>
        split at h
        · cases h
        · split at h
          · cases h
          · cases h
            exact ⟨by simpa using hrange, high, hhigh, rfl⟩

/-- The target of a session is the original one, unless the session owns it. -/
theorem target_eq {s : RangeSession} {high : ℚ} (hhigh : s.originalHigh = some high)
    (hst : s.step = .setTarget ∨ s.step = .setMode ∨ s.step = .active)
    (hown : s.targetOwned = false) : s.target = high := by
  have hlt : ¬ high < s.minimum := fun hlt => by
    have := (s.valid.consistent.ownedHeating hst).mpr ⟨high, hhigh, hlt⟩
    rw [hown] at this; cases this
  simp only [RangeSession.target, hhigh]
  exact max_eq_right (not_lt.mp hlt)

/-- **A goal that is sent is covered** by the record it was computed from. -/
theorem covers_goal {spa₀ spa : Spa} {s : RangeSession} {o : SpaState} {goal : Control × Value}
    (ht : Tracks spa₀ spa s) (ho : spa.Observed o) (h : s.goal (some o) = .ok goal) :
    Covers spa₀ spa s goal := by
  have hg := goal_ok h
  have hc := s.valid.consistent
  have htarget : ∀ {st}, s.step = st → st.requiresHigh = true →
      (s.step = .setTarget ∨ s.step = .active ∨ s.step = .restoreHigh) →
      Covers spa₀ spa s goal := by
    intro st hst hreq hsteps
    obtain ⟨hrange, high, hhigh, rfl⟩ := stepGoal_target hsteps hg
    refine ⟨ho.1 ▸ hrange, ?_⟩
    by_cases hr : s.step = .restoreHigh
    · rw [if_pos hr]
      exact Or.inl (ht.captured high hhigh)
    · rw [if_neg hr]
      cases hown : s.targetOwned with
      | true => exact Or.inr ⟨rfl, rfl, hst ▸ hreq⟩
      | false =>
        rw [target_eq hhigh (by tauto) hown]
        exact Or.inl (ht.captured high hhigh)
  cases hst : s.step with
  | activateHigh =>
    simp only [RangeSession.stepGoal, hst, Except.ok.injEq] at hg
    subst hg; trivial
  | setTarget => exact htarget hst rfl (Or.inl hst)
  | active => exact htarget hst rfl (Or.inr (Or.inl hst))
  | restoreHigh => exact htarget hst rfl (Or.inr (Or.inr hst))
  | setMode =>
    simp only [RangeSession.stepGoal, hst] at hg
    split at hg
    · cases hg
    · cases hg
      -- the mode is owned unless it was `READY` already
      refine Or.inl ⟨rfl, ?_⟩
      rcases s.valid.originalMode with hm | hm
      · exact Or.inl (ht.mode.mp hm)
      · exact Or.inr ((hc.modeLate (Or.inl hst)).mpr hm)
  | restoreRange =>
    simp only [RangeSession.stepGoal, hst, Except.ok.injEq] at hg
    subst hg; trivial
  | restoreMode =>
    simp only [RangeSession.stepGoal, hst] at hg
    split at hg
    · cases hg
    · cases hg
      have hrest := hc.modeOwned (hc.restoreMode hst)
      exact Or.inr ⟨hrest, fun hready => by rw [ht.mode.mpr hready] at hrest; cases hrest⟩

/-- **A covered goal may take effect.** -/
theorem tracks_apply {spa₀ spa : Spa} {s : RangeSession} {goal : Control × Value}
    (ht : Tracks spa₀ spa s) (hc : Covers spa₀ spa s goal) : Tracks spa₀ (spa.apply goal) s := by
  unfold Covers at hc
  split at hc
  · exact ⟨ht.range, ht.mode, ht.low, ht.captured, ht.high, ht.heating⟩
  · next t =>
    obtain ⟨hrange, hcase⟩ := hc
    simp only [Spa.apply, hrange, if_true]
    exact ⟨ht.range, ht.mode, ht.low, ht.captured, hcase, ht.heating⟩
  · next m =>
    refine ⟨ht.range, ht.mode, ht.low, ht.captured, ht.high, ?_⟩
    simp only [Spa.apply]
    rcases hc with ⟨rfl, hready | hown⟩ | ⟨rfl, hrest⟩
    · exact Or.inl (by simp [hready])
    · by_cases hready : spa₀.mode = .ready
      · exact Or.inl (by simp [hready])
      · exact Or.inr ⟨hready, hown⟩
    · exact Or.inl (by simp [hrest])
  · exact hc.elim

/-- A press of the button on the way to a covered heat-mode goal. -/
theorem tracks_toggle {spa₀ spa : Spa} {s : RangeSession} {goal : Control × Value}
    (ht : Tracks spa₀ spa s) (hc : Covers spa₀ spa s goal) :
    Tracks spa₀ (spa.toggleTowards goal) s := by
  unfold Covers at hc
  split at hc
  · exact ht
  · exact ht
  · next m =>
    simp only [Spa.toggleTowards]
    split
    · exact ht
    · next hne =>
      refine ⟨ht.range, ht.mode, ht.low, ht.captured, ht.high, ?_⟩
      rcases hc with ⟨rfl, hcase⟩ | ⟨rfl, hrest⟩
      · -- towards `READY`: the spa was not `READY` at the start, so the mode is owned
        by_cases hready : spa₀.mode = .ready
        · rcases ht.heating with h | ⟨h, -⟩
          · exact absurd (h.mpr hready) hne
          · exact absurd hready h
        · exact Or.inr ⟨hready, hcase.resolve_left hready⟩
      · refine Or.inl ⟨fun h => ?_, fun h => absurd h hrest⟩
        simp only [Spa.toggleMode] at h
        cases hm : spa.mode <;> simp [hm] at h hne
  · exact hc.elim

/-- Covering depends on the range only through target goals, which leave it alone. -/
theorem covers_toggle {spa₀ spa : Spa} {s : RangeSession} {goal goal' : Control × Value}
    (hc : Covers spa₀ spa s goal) : Covers spa₀ (spa.toggleTowards goal') s goal := by
  have hrange : (spa.toggleTowards goal').highRange = spa.highRange := by
    unfold Spa.toggleTowards
    repeat' split
    all_goals rfl
  unfold Covers at hc ⊢
  rwa [hrange]

/-! ## Session steps -/

theorem step_cancel (s : RangeSession) :
    s.cancel.step = if s.phase = .restoring then s.step
      else if s.targetOwned then .restoreHigh else .restoreRange := by
  unfold RangeSession.cancel
  split <;> rfl

/-- `cancel` keeps everything but the phase and the step. -/
theorem cancel_fields (s : RangeSession) :
    s.cancel.originalRange = s.originalRange ∧ s.cancel.originalMode = s.originalMode ∧
      s.cancel.originalHigh = s.originalHigh ∧ s.cancel.targetOwned = s.targetOwned ∧
      s.cancel.modeOwned = s.modeOwned ∧ s.cancel.target = s.target := by
  unfold RangeSession.cancel
  split
  · exact ⟨rfl, rfl, rfl, rfl, rfl, rfl⟩
  · exact ⟨rfl, rfl, rfl, rfl, rfl, rfl⟩

/-- An owned target is still restored after `cancel`. -/
theorem requiresHigh_cancel {s : RangeSession} (hown : s.targetOwned = true)
    (h : s.step.requiresHigh = true) : s.cancel.step.requiresHigh = true := by
  rw [step_cancel]
  split
  · exact h
  · rfl

theorem Tracks.cancel {spa₀ spa : Spa} {s : RangeSession} (h : Tracks spa₀ spa s) :
    Tracks spa₀ spa s.cancel := by
  obtain ⟨h1, h2, h3, h4, h5, h6⟩ := cancel_fields s
  refine ⟨h1 ▸ h.range, h2 ▸ h.mode, h.low, h3 ▸ h.captured, ?_, h5 ▸ h.heating⟩
  rw [h4, h6]
  exact h.high.imp_right fun ⟨hown, heq, hreq⟩ => ⟨hown, heq, requiresHigh_cancel hown hreq⟩

theorem Covers.cancel {spa₀ spa : Spa} {s : RangeSession} {goal : Control × Value}
    (h : Covers spa₀ spa s goal) : Covers spa₀ spa s.cancel goal := by
  obtain ⟨-, -, -, h4, h5, h6⟩ := cancel_fields s
  unfold Covers at h ⊢
  split at h
  · trivial
  · rw [h4, h6]
    exact ⟨h.1, h.2.imp_right fun ⟨hown, heq, hreq⟩ => ⟨hown, heq, requiresHigh_cancel hown hreq⟩⟩
  · rw [h5]; exact h
  · exact h

theorem Sound.cancel {spa₀ : Spa} {sys : SessionSystem} {s : RangeSession}
    (h : Sound spa₀ sys s) : Sound spa₀ sys s.cancel :=
  ⟨h.1.cancel, fun goal hg => (h.2 goal hg).cancel⟩

theorem Sound.current {spa₀ : Spa} {sys : SessionSystem} {s : RangeSession}
    (h : Sound spa₀ sys s) (now : ℚ) : Sound spa₀ sys (s.current now) := by
  unfold RangeSession.current
  split
  · exact h.cancel
  · exact h

/-- Records that agree on what a session restores are sound together. -/
theorem Sound.congr {spa₀ : Spa} {sys : SessionSystem} {s s' : RangeSession}
    (h : Sound spa₀ sys s) (h1 : s'.originalRange = s.originalRange)
    (h2 : s'.originalMode = s.originalMode) (h3 : s'.originalHigh = s.originalHigh)
    (h4 : s'.targetOwned = s.targetOwned) (h5 : s'.modeOwned = s.modeOwned)
    (h6 : s'.minimum = s.minimum) (h7 : s'.step = s.step) : Sound spa₀ sys s' := by
  have h8 : s'.target = s.target := by simp only [RangeSession.target, h3, h6]
  refine ⟨⟨h1 ▸ h.1.range, h2 ▸ h.1.mode, h.1.low, h3 ▸ h.1.captured, ?_, h5 ▸ h.1.heating⟩,
    fun goal hg => ?_⟩
  · rw [h4, h8, h7]; exact h.1.high
  · have := h.2 goal hg
    unfold Covers at this ⊢
    rwa [h4, h5, h7, h8]

theorem Sound.adjust {spa₀ : Spa} {sys : SessionSystem} {s s' : RangeSession} {now seconds : ℚ}
    (h : Sound spa₀ sys s) (hadj : s.adjust now seconds = .ok s') : Sound spa₀ sys s' := by
  obtain ⟨-, updated, endTime, hrec, hcase⟩ := RangeSession.adjust_case hadj
  have hup : Sound spa₀ sys updated :=
    h.congr (by rw [hrec]) (by rw [hrec]) (by rw [hrec]) (by rw [hrec]) (by rw [hrec])
      (by rw [hrec]) (by rw [hrec])
  rcases hcase with rfl | rfl
  · exact hup
  · exact hup.cancel

/-- The spa is as it was, up to the difference between the two modes that are not
    `READY`. -/
def Restored (spa₀ spa : Spa) : Prop :=
  spa.highRange = spa₀.highRange ∧ spa.low = spa₀.low ∧ spa.high = spa₀.high ∧
    (spa.mode = .ready ↔ spa₀.mode = .ready)

/-- A checkpoint that keeps the origin and the goals tracks the spa if what it owns does. -/
theorem Tracks.checkpoint {spa₀ spa : Spa} {s s' : RangeSession} {r : RangeRecord}
    (ht : Tracks spa₀ spa s) (hrec : s'.toRangeRecord = r)
    (horigin : r.originalRange = s.originalRange ∧ r.originalMode = s.originalMode)
    (hcaptured : ∀ high, r.originalHigh = some high → high = spa₀.high)
    (hhigh : spa.high = spa₀.high ∨
      (r.targetOwned = true ∧ spa.high = s'.target ∧ r.step.requiresHigh = true))
    (hheating : (spa.mode = .ready ↔ spa₀.mode = .ready) ∨
      (spa₀.mode ≠ .ready ∧ r.modeOwned = true)) : Tracks spa₀ spa s' := by
  subst hrec
  exact ⟨horigin.1 ▸ ht.range, horigin.2 ▸ ht.mode, ht.low, hcaptured, hhigh, hheating⟩

/-- **One step of `reconcile`** on an observation of its reached goal: the next
    record tracks the spa, and without a next record the spa is restored. -/
theorem tracks_advance {spa₀ spa : Spa} {s : RangeSession} {o : SpaState}
    {goal : Control × Value} {result : Option RangeSession} (ht : Tracks spa₀ spa s)
    (ho : spa.Observed o) (hgoal : s.goal (some o) = .ok goal)
    (hshow : Value.shows (o.value goal.1) goal.2 = true) (h : s.advance o = .ok result) :
    (∀ s', result = some s' → Tracks spa₀ spa s') ∧ (result = none → Restored spa₀ spa) := by
  have hg := goal_ok hgoal
  have hc := s.valid.consistent
  obtain ⟨hrange, htarget, hmode⟩ := ho
  -- a step that does not need High has nothing left to restore in it
  have hclean : s.step.requiresHigh = false → spa.high = spa₀.high := by
    intro hreq
    rcases ht.high with h | ⟨-, -, h⟩
    · exact h
    · rw [hreq] at h; cases h
  have hsame : ∀ {s' : RangeSession}, s'.minimum = s.minimum → s'.originalHigh = s.originalHigh →
      s'.target = s.target := by
    intro s' hminimum hhigh
    unfold RangeSession.target
    rw [hminimum, hhigh]
  have hnext : ∀ {s'}, Tracks spa₀ spa s' →
      (∀ s'', some s' = some s'' → Tracks spa₀ spa s'') ∧ (some s' = none → Restored spa₀ spa) :=
    fun hs' => ⟨fun _ heq => Option.some.inj heq ▸ hs', by simp⟩
  cases RangeSession.advance_case h with
  | kept => exact hnext ht
  | captured s' high hst hhigh hr =>
    simp only [RangeSession.stepGoal, hst, Except.ok.injEq] at hg
    subst hg
    have hselected : spa.highRange = true := hrange ▸ shows_highRange hshow
    have heq := hclean (by rw [hst]; rfl)
    refine hnext (ht.checkpoint hr ⟨rfl, rfl⟩ ?_ (Or.inl heq) ht.heating)
    rintro _ ⟨⟩
    rw [htarget, Option.some.injEq] at hhigh
    rw [← hhigh, Spa.target, if_pos hselected, heq]
  | targetSet s' hst hr =>
    refine hnext (ht.checkpoint hr ⟨rfl, rfl⟩ ht.captured ?_ ?_)
    · exact ht.high.imp_right fun ⟨hown, heq, _⟩ =>
        ⟨hown, by rw [hsame (by rw [hr]) (by rw [hr]), heq], rfl⟩
    · rcases ht.heating with hh | ⟨-, hown⟩
      · exact Or.inl hh
      · rw [hc.modeEarly (Or.inr hst)] at hown; cases hown
  | enabled s' hst hr =>
    refine hnext (ht.checkpoint hr ⟨rfl, rfl⟩ ht.captured ?_ ht.heating)
    exact ht.high.imp_right fun ⟨hown, heq, _⟩ =>
      ⟨hown, by rw [hsame (by rw [hr]) (by rw [hr]), heq], rfl⟩
  | heated s' hst hr =>
    refine hnext (ht.checkpoint hr ⟨rfl, rfl⟩ ht.captured ?_ ht.heating)
    exact ht.high.imp_right fun ⟨hown, heq, hreq⟩ =>
      ⟨hown, by rw [hsame (by rw [hr]) (by rw [hr]), heq], hreq⟩
  | highRestored s' hst hr =>
    obtain ⟨hselected, high, hhigh, rfl⟩ := stepGoal_target (Or.inr (Or.inr hst)) hg
    simp only [hst, if_true] at hshow
    -- the observed High target is the original one
    have heq : spa.high = spa₀.high := by
      have hobs := shows_target hshow
      rw [htarget, Option.some.injEq, Spa.target, ← hrange, hselected, if_pos rfl] at hobs
      rw [hobs, ht.captured high hhigh]
    exact hnext (ht.checkpoint hr ⟨rfl, rfl⟩ ht.captured (Or.inl heq) ht.heating)
  | rangeRestored s' hst hown hr =>
    have heq := hclean (by rw [hst]; rfl)
    exact hnext (ht.checkpoint hr ⟨rfl, rfl⟩ ht.captured (Or.inl heq) ht.heating)
  | ended hended =>
    refine ⟨by simp, fun _ => ?_⟩
    rcases hended with ⟨hst, hown⟩ | hst
    · have heq := hclean (by rw [hst]; rfl)
      simp only [RangeSession.stepGoal, hst, Except.ok.injEq] at hg
      subst hg
      refine ⟨?_, ht.low, heq, ht.heating.resolve_right fun hh => ?_⟩
      · rw [← hrange, shows_highRange hshow, ht.range]
      · rw [hown] at hh
        cases hh.2
    · have heq := hclean (by rw [hst]; rfl)
      simp only [RangeSession.stepGoal, hst] at hg
      split at hg
      · cases hg
      · next hselected =>
        cases hg
        have hrest := hc.modeOwned (hc.restoreMode hst)
        have hobs := shows_heatMode hshow
        rw [hmode, hrest] at hobs
        have hne : spa₀.mode ≠ .ready := fun hready => by
          rw [ht.mode.mpr hready] at hrest; cases hrest
        refine ⟨?_, ht.low, heq, ?_⟩
        · rw [← hrange, not_not.mp hselected, ht.range]
        · simp [hobs, hne]

/-- `reconcile` on a true observation with nothing outstanding. -/
theorem sound_reconcile {spa₀ : Spa} {sys : SessionSystem} {s : RangeSession} {now : ℚ}
    {o : SpaState} {result : Option RangeSession} (h : Sound spa₀ sys s)
    (hfree : sys.outstanding = none) (ho : sys.spa.Observed o)
    (hrec : s.reconcile now (some o) = .ok result) :
    (∀ s', result = some s' → Sound spa₀ sys s') ∧ (result = none → Restored spa₀ sys.spa) := by
  have hcur := h.current now
  rcases s.reconcile_case now (some o) with hkept | ⟨state, goal, heq, hgoal, hshow, hadvance⟩
  · rw [hkept] at hrec
    cases hrec
    exact ⟨fun s' hs => by cases hs; exact hcur, by simp⟩
  · obtain rfl := Option.some.inj heq
    obtain ⟨hsome, hnone⟩ := tracks_advance hcur.1 ho hgoal hshow (hadvance ▸ hrec)
    exact ⟨fun s' hs => ⟨hsome s' hs, by simp [hfree]⟩, hnone⟩

/-! ## Runs -/

/-- A change of the memory alone. -/
theorem SessionInv.setMemory {spa₀ : Spa} {sys : SessionSystem} (h : SessionInv spa₀ sys)
    {memory : Option RangeSession} (hm : ∀ s, memory = some s → Sound spa₀ sys s) :
    SessionInv spa₀ { sys with memory } :=
  ⟨hm, h.2⟩

/-- A call that may raise. -/
theorem SessionInv.settle {spa₀ : Spa} {sys : SessionSystem} (h : SessionInv spa₀ sys)
    {result : Except SessionError (Option RangeSession)}
    (hr : ∀ memory, result = .ok memory → (∀ s, memory = some s → Sound spa₀ sys s) ∧
      (memory = none → Restored spa₀ sys.spa)) :
    SessionInv spa₀ (sys.settle result).1 ∧
      ((sys.settle result).2 = true → Restored spa₀ sys.spa) := by
  cases result with
  | error e => exact ⟨h, by simp [SessionSystem.settle]⟩
  | ok memory =>
    obtain ⟨h1, h2⟩ := hr memory rfl
    exact ⟨h.setMemory h1, fun hn => h2 (Option.isNone_iff_eq_none.mp hn)⟩

/-- The goal that is sent is the one of the record in memory and on disk. -/
theorem SessionInv.send {spa₀ : Spa} {sys : SessionSystem} (h : SessionInv spa₀ sys)
    (o : SpaState) : SessionInv spa₀ (sys.step (.send o)).1 ∧ (sys.step (.send o)).2 = false := by
  simp only [SessionSystem.step]
  split
  · next s hs =>
    split
    · next goal hgoal =>
      split
      · next hok =>
        obtain ⟨hdisk, -, ho⟩ := hok
        have hsound : Sound spa₀ { sys with outstanding := some goal } s :=
          ⟨(h.1 s hs).1, fun g hg => by cases hg; exact covers_goal (h.1 s hs).1 ho hgoal⟩
        refine ⟨⟨fun s' hs' => ?_, fun s' hs' => ?_⟩, rfl⟩
        · obtain rfl := Option.some.inj (hs.symm.trans hs')
          exact hsound
        · obtain rfl := Option.some.inj (hdisk.symm.trans hs')
          exact hsound
      · exact ⟨h, rfl⟩
    · exact ⟨h, rfl⟩
  · exact ⟨h, rfl⟩

/-- **One step keeps the invariant**, and when `reconcile` returns `None` the spa is
    restored. -/
theorem sessionInv_step {spa₀ : Spa} {sys : SessionSystem} (h : SessionInv spa₀ sys)
    (op : SessionOp) :
    SessionInv spa₀ (sys.step op).1 ∧ ((sys.step op).2 = true → Restored spa₀ sys.spa) := by
  cases op with
  | reconcile now o =>
    simp only [SessionSystem.step]
    split
    · next s hs =>
      split
      · next hok => exact h.settle fun memory hm => sound_reconcile (h.1 s hs) hok.1 hok.2 hm
      · exact ⟨h, by simp⟩
    · exact ⟨h, by simp⟩
  | reconcileNone now =>
    simp only [SessionSystem.step]
    split
    · next s hs =>
      refine h.settle fun memory hm => ?_
      simp only [RangeSession.reconcile, Except.ok.injEq] at hm
      subst hm
      exact ⟨fun s' hs' => by cases hs'; exact (h.1 s hs).current now, by simp⟩
    · exact ⟨h, by simp⟩
  | adjust now seconds =>
    simp only [SessionSystem.step]
    split
    · next s hs =>
      refine h.settle fun memory hm => ?_
      cases hadj : s.adjust now seconds with
      | error e => rw [hadj] at hm; cases hm
      | ok s' =>
        rw [hadj] at hm
        cases hm
        exact ⟨fun s'' hs'' => by cases hs''; exact (h.1 s hs).adjust hadj, by simp⟩
    · exact ⟨h, by simp⟩
  | cancel =>
    refine ⟨h.setMemory fun s hs => ?_, by simp [SessionSystem.step]⟩
    obtain ⟨old, hold, rfl⟩ := Option.map_eq_some_iff.mp hs
    exact (h.1 old hold).cancel
  | save => exact ⟨⟨h.1, h.1⟩, by simp [SessionSystem.step]⟩
  | crash =>
    have hfree : ∀ s, sys.disk = some s →
        Sound spa₀ { sys with memory := sys.disk, outstanding := none } s :=
      fun s hs => ⟨(h.2 s hs).1, by simp⟩
    exact ⟨⟨hfree, hfree⟩, by simp [SessionSystem.step]⟩
  | send o =>
    obtain ⟨hinv, hout⟩ := h.send o
    exact ⟨hinv, by simp [hout]⟩
  | toggle =>
    cases ho : sys.outstanding with
    | none =>
      simp only [SessionSystem.step, ho, Option.map_none, Option.getD_none, Bool.false_eq_true,
        false_implies, and_true]
      rw [← ho]
      exact h
    | some goal =>
      have hstep : ∀ s, Sound spa₀ sys s →
          Sound spa₀ { sys with spa := sys.spa.toggleTowards goal } s := fun s hs =>
        ⟨tracks_toggle hs.1 (hs.2 goal ho), fun g hg => covers_toggle (hs.2 g hg)⟩
      simp only [SessionSystem.step, ho, Option.map_some, Option.getD_some, Bool.false_eq_true,
        false_implies, and_true]
      rw [← ho]
      exact ⟨fun s hs => hstep s (h.1 s hs), fun s hs => hstep s (h.2 s hs)⟩
  | land =>
    cases ho : sys.outstanding with
    | none =>
      simp only [SessionSystem.step, ho, Option.map_none, Option.getD_none, Bool.false_eq_true,
        false_implies, and_true]
      rw [← ho]
      exact h
    | some goal =>
      simp only [SessionSystem.step, ho, Option.map_some, Option.getD_some, Bool.false_eq_true,
        false_implies, and_true]
      exact ⟨fun s hs => ⟨tracks_apply (h.1 s hs).1 ((h.1 s hs).2 goal ho), by simp⟩,
        fun s hs => ⟨tracks_apply (h.2 s hs).1 ((h.2 s hs).2 goal ho), by simp⟩⟩
  | drop =>
    exact ⟨⟨fun s hs => ⟨(h.1 s hs).1, by simp [SessionSystem.step]⟩,
      fun s hs => ⟨(h.2 s hs).1, by simp [SessionSystem.step]⟩⟩, by simp [SessionSystem.step]⟩

/-- The record of a session that was just started tracks the spa. -/
theorem tracks_start {spa : Spa} {now endTime minimumC : ℚ} {operationId : ℕ} {o : SpaState}
    {s : RangeSession} (ho : spa.Observed o)
    (h : RangeSession.start now endTime minimumC operationId (some o) = .ok s) :
    Tracks spa spa s := by
  obtain ⟨hrange, htarget, hmode⟩ := ho
  obtain ⟨target, htarget', -, -, hrec⟩ := RangeSession.start_ok h
  obtain rfl := Option.some.inj (htarget.symm.trans htarget')
  refine ⟨by rw [hrec]; exact hrange, ?_, rfl, ?_, Or.inl rfl, Or.inl Iff.rfl⟩
  · rw [hrec, ← hmode]
    simp only [RangeSession.startRecord]
    split <;> simp_all
  · intro high hhigh
    rw [hrec] at hhigh
    simp only [RangeSession.startRecord] at hhigh
    split at hhigh
    · next hr =>
      cases hhigh
      rw [Spa.target, ← hrange, if_pos hr]
    · cases hhigh

/-- **Restoration.** In every run of a session that was started on a true
    observation of the spa, when `reconcile` returns `None` the range and both
    stored targets are those at the start, and the heat mode is `READY` exactly if
    it was at the start. -/
theorem bathing_restored {spa : Spa} {now endTime minimumC : ℚ} {operationId : ℕ} {o : SpaState}
    {s : RangeSession} (ho : spa.Observed o)
    (hstart : RangeSession.start now endTime minimumC operationId (some o) = .ok s)
    (ops : List SessionOp) (k : ℕ) (hend : (restorationMachine spa s).outAt ops k = some true) :
    Restored spa ((restorationMachine spa s).stateAt ops k).spa := by
  have hinv := (restorationMachine spa s).stateAt_invariant (P := SessionInv spa)
    ⟨fun s' hs => by cases hs; exact ⟨tracks_start ho hstart, fun _ hg => by cases hg⟩,
      fun _ hs => by cases hs⟩
    (fun sys op h => (sessionInv_step h op).1) ops k
  obtain ⟨op, -, hout⟩ := (restorationMachine spa s).outAt_eq_some.mp hend
  exact (sessionInv_step hinv op).2 hout

/-- A sample observation with this target, heat mode and range. -/
def sampleSeen (target mode : UInt8) (highRange : Bool) : SpaState :=
  sampleState (sampleStatus target mode highRange) 1 1 0

/-- The session started on a spa in the Low range at 90 °F, in `REST`. -/
def sampleSession : RangeSession :=
  ⟨RangeSession.startRecord 0 3600 98 7 (sampleSeen 90 1 false) 90, by decide +kernel⟩

/-- A whole session, with a crash between a write and its checkpoint. -/
def bathingRun : List SessionOp :=
  [.save, .send (sampleSeen 90 1 false), .land, .reconcile 1 (sampleSeen 95 1 true),
   .save, .send (sampleSeen 95 1 true), .land, .reconcile 2 (sampleSeen 98 1 true),
   .save, .send (sampleSeen 98 1 true), .toggle, .crash, .reconcile 3 (sampleSeen 98 0 true),
   .cancel, .save, .send (sampleSeen 98 0 true), .land, .reconcile 4 (sampleSeen 95 0 true),
   .save, .send (sampleSeen 95 0 true), .land, .reconcile 5 (sampleSeen 90 0 false),
   .save, .send (sampleSeen 90 0 false), .toggle, .drop, .reconcile 6 (sampleSeen 90 1 false)]

theorem bathing_restored_sample :
    Restored ⟨false, 90, 95, .rest⟩
      ((restorationMachine ⟨false, 90, 95, .rest⟩ sampleSession).stateAt bathingRun 26).spa :=
  have ho : Spa.Observed ⟨false, 90, 95, .rest⟩ (sampleSeen 90 1 false) := by decide +kernel
  have hstart : RangeSession.start 0 3600 (73 / 2) 7 (some (sampleSeen 90 1 false)) =
      .ok sampleSession := by decide +kernel
  bathing_restored ho hstart bathingRun 26 (by decide +kernel)

end BalboaRs485
