import BalboaRs485.Lib.Machine
import BalboaRs485.Session.Progress
import BalboaRs485.Session.Record

/-!
# Restoration is absorbing

Runs of a session of either kind: its methods in any order, at any times and on any
observations, and the storage in between.

* `Session.Later`, `RangeSession.Later`: what no method takes back.
* `RangeSession.call_rank`: a step is only taken back by `release_target` while it
  restores.
* `RangeSession.call_restores`: a restoring session keeps its record, or takes the next
  step of the restoration.
* `restoration_absorbing`: both kinds of session, over all runs.
-/

namespace BalboaRs485

/-- Where there is a session afterwards, there was one before, and they are related. -/
def Since {α : Type} (R : α → α → Prop) (before after : Option α) : Prop :=
  ∀ s', after = some s' → ∃ s, before = some s ∧ R s s'

theorem Since.refl {α : Type} {R : α → α → Prop} (hrefl : ∀ s, R s s) (o : Option α) : Since R o o :=
  fun s' h => ⟨s', h, hrefl s'⟩

theorem Since.trans {α : Type} {R : α → α → Prop} (htrans : ∀ s t u, R s t → R t u → R s u)
    {o o' o'' : Option α} (h : Since R o o') (h' : Since R o' o'') : Since R o o'' := by
  intro u hu
  obtain ⟨t, ht, htu⟩ := h' u hu
  obtain ⟨s, hs, hst⟩ := h t ht
  exact ⟨s, hs, htrans s t u hst htu⟩

theorem SessionPhase.rank_restoring {p : SessionPhase} : p = .restoring ↔ 3 ≤ p.rank := by
  cases p <;> simp [rank]

/-! ## Heating sessions -/

namespace Session

/-- A method of a session, or its way through the storage. -/
inductive Call where
  | reconcile (now : ℚ) (state : Option SpaState)
  | cancel
  | adjust (now seconds : ℚ)
  /-- `from_record(to_record())`. -/
  | reload

/-- What a call returns or raises; `none` is a session that is over. -/
def call (s : Session) : Call → Except RecordError (Option Session)
  | .reconcile now state => .ok (s.reconcile now state)
  | .cancel => .ok (some s.cancel)
  | .adjust now seconds => ((s.adjust now seconds).map some).mapError .session
  | .reload => (fromRecord (some s.toRecord)).map some

/-- The session and its calls; a call that raises leaves it as it was. -/
def machine (s : Session) : Machine (Option Session) Call (Option RecordError) where
  init := some s
  step
    | none, _ => (none, none)
    | some s, c =>
      match s.call c with
      | .ok next => (next, none)
      | .error e => (some s, some e)

/-- The session after the first `n` calls of a run. -/
def sessionAt (s : Session) (run : List Call) (n : ℕ) : Option Session := (machine s).stateAt run n

/-- The phase never goes back, and the saved setpoint is kept. -/
structure Later (s s' : Session) : Prop where
  phase : s.phase.rank ≤ s'.phase.rank
  maintenance : s'.maintenance = s.maintenance

theorem Later.refl (s : Session) : Later s s := ⟨le_rfl, rfl⟩

theorem Later.trans (s t u : Session) (h : Later s t) (h' : Later t u) : Later s u :=
  ⟨h.phase.trans h'.phase, h'.maintenance.trans h.maintenance⟩

theorem later_cancel (s : Session) : Later s s.cancel := by
  refine ⟨?_, rfl⟩
  rcases s.cancel_rank with h | h
  · rw [h]
  · exact h.le

theorem later_reconcile {s s' : Session} {now : ℚ} {state : Option SpaState}
    (h : s.reconcile now state = some s') : Later s s' := by
  have hphase : s.phase.rank ≤ s'.phase.rank := by
    rcases reconcile_rank h with rfl | hlt
    · exact le_rfl
    · exact hlt.le
  refine ⟨hphase, ?_⟩
  have hcurrent : (s.current now).maintenance = s.maintenance := by
    unfold current
    split <;> rfl
  have hcase := s.reconcile_case now state
  rw [h] at hcase
  cases hcase with
  | kept => exact hcurrent
  | heated _ _ hr =>
    rw [hr]
    exact hcurrent

theorem later_adjust {s s' : Session} {now seconds : ℚ} (h : s.adjust now seconds = .ok s') :
    Later s s' := by
  unfold adjust at h
  split at h
  · cases h
  have hmade := make_ok h
  refine ⟨?_, by rw [hmade]⟩
  rw [hmade]
  show s.phase.rank ≤ (if _ then SessionPhase.restoring else s.phase).rank
  split
  · cases s.phase <;> decide
  · exact le_rfl

theorem later_call {s : Session} {c : Call} {next : Option Session} (h : s.call c = .ok next) :
    Since Later (some s) next := by
  intro s' hs'
  subst hs'
  refine ⟨s, rfl, ?_⟩
  cases c with
  | reconcile now state => exact later_reconcile (Except.ok.inj h)
  | cancel =>
    cases h
    exact s.later_cancel
  | adjust now seconds =>
    cases hadjust : s.adjust now seconds with
    | error e =>
      simp only [call, hadjust] at h
      cases h
    | ok s₁ =>
      simp only [call, hadjust] at h
      cases h
      exact later_adjust hadjust
  | reload =>
    simp only [call, fromRecord_toRecord] at h
    cases h
    exact .refl s

theorem later_step (s : Session) (state : Option Session) (c : Call) :
    Since Later state ((machine s).step state c).1 := by
  cases state with
  | none => exact .refl Later.refl none
  | some s₁ =>
    show Since Later (some s₁) (match s₁.call c with
      | .ok next => (next, none)
      | .error e => (some s₁, some e)).1
    split
    · next next hcall => exact later_call hcall
    · exact .refl Later.refl _

theorem later_run (s : Session) (run : List Call) {i k : ℕ} (h : i ≤ k) :
    Since Later (sessionAt s run i) (sessionAt s run k) := by
  refine (machine s).stateAt_related (R := Since Later) (Since.refl Later.refl)
    (fun _ _ _ => Since.trans Later.trans) ?_ h
  intro k c _ _ hc
  rw [(machine s).stateAt_succ hc]
  exact later_step s _ c

/-- What holds in every run of a session. -/
structure Absorbing (s : Session) (run : List Call) : Prop where
  restoring : ∀ i k s₁ s₂, i ≤ k → sessionAt s run i = some s₁ → sessionAt s run k = some s₂ →
    s₁.phase = .restoring → s₂.phase = .restoring
  /-- While it restores, its goal is the saved setpoint. -/
  goals : ∀ k s₁ o g, sessionAt s run k = some s₁ → s₁.phase = .restoring → s₁.goal o = .ok g →
    g = (.target, .float s.maintenance)
  forward : ∀ i k s₁ s₂, i ≤ k → sessionAt s run i = some s₁ → sessionAt s run k = some s₂ →
    s₁.phase.rank ≤ s₂.phase.rank

theorem absorbing (s : Session) (run : List Call) : Absorbing s run := by
  have hforward : ∀ i k s₁ s₂, i ≤ k → sessionAt s run i = some s₁ → sessionAt s run k = some s₂ →
      Later s₁ s₂ := by
    intro i k s₁ s₂ hik h₁ h₂
    obtain ⟨s₁', h₁', hlater⟩ := later_run s run hik s₂ h₂
    cases h₁.symm.trans h₁'
    exact hlater
  refine ⟨fun i k s₁ s₂ hik h₁ h₂ hrestoring => ?_, fun k s₁ o g h₁ hrestoring hg => ?_,
    fun i k s₁ s₂ hik h₁ h₂ => (hforward i k s₁ s₂ hik h₁ h₂).phase⟩
  · rw [SessionPhase.rank_restoring] at hrestoring ⊢
    exact hrestoring.trans (hforward i k s₁ s₂ hik h₁ h₂).phase
  · rw [(goal_ok hg).1, if_pos hrestoring, (hforward 0 k s s₁ (Nat.zero_le k) rfl h₁).maintenance]

end Session

/-! ## Bathing sessions -/

/-- The order of the steps. -/
def RangeStep.rank : RangeStep → ℕ
  | activateHigh => 0
  | setTarget => 1
  | setMode => 2
  | active => 3
  | restoreHigh => 4
  | restoreRange => 5
  | restoreMode => 6

namespace RangeSession

/-- A method of a bathing session, or its way through the storage. -/
inductive Call where
  | reconcile (now : ℚ) (state : Option SpaState)
  | cancel
  | adjust (now seconds : ℚ)
  | releaseTarget
  /-- `from_record(to_record())`. -/
  | reload

/-- What a call returns or raises; `none` is a session that is over. -/
def call (s : RangeSession) : Call → Except RecordError (Option RangeSession)
  | .reconcile now state => (s.reconcile now state).mapError .session
  | .cancel => .ok (some s.cancel)
  | .adjust now seconds => ((s.adjust now seconds).map some).mapError .session
  | .releaseTarget => .ok (some s.releaseTarget)
  | .reload => (fromRecord (some s.toRecord)).map some

/-- The session and its calls; a call that raises leaves it as it was. -/
def machine (s : RangeSession) : Machine (Option RangeSession) Call (Option RecordError) where
  init := some s
  step
    | none, _ => (none, none)
    | some s, c =>
      match s.call c with
      | .ok next => (next, none)
      | .error e => (some s, some e)

/-- The session after the first `n` calls of a run. -/
def sessionAt (s : RangeSession) (run : List Call) (n : ℕ) : Option RangeSession :=
  (machine s).stateAt run n

/-! ### Ranks -/

/-- Only an active session has a phase of its own. -/
theorem phase_rank (s : RangeSession) :
    4 ≤ s.step.rank ∧ s.phase.rank = 3 ∨ s.step.rank = 3 ∧ s.phase.rank ≤ 2 ∨
      s.step.rank ≤ 2 ∧ s.phase.rank = 0 := by
  have hc := s.valid.consistent
  cases hs : s.step with
  | activateHigh | setTarget | setMode =>
    rw [hc.preheating (by rw [hs]; rfl) (by rw [hs]; decide)]
    decide
  | active =>
    refine Or.inr (Or.inl ⟨rfl, ?_⟩)
    cases hp : s.phase with
    | restoring => exact absurd hp (active_phase hs)
    | preheating | targetReached | holding => decide
  | restoreHigh | restoreRange | restoreMode =>
    rw [hc.phase.mp (by rw [hs]; rfl)]
    decide

theorem rank_eq (s : RangeSession) : s.rank = s.step.rank + min 2 s.phase.rank := by
  have hphase := s.phase_rank
  unfold RangeRecord.rank
  cases hs : s.step <;> simp only [hs, RangeStep.rank] at hphase ⊢ <;> omega

/-- A record that comes later has a step and a phase that do not come earlier. -/
theorem rank_le {s s' : RangeSession} (h : s.rank ≤ s'.rank) :
    s.step.rank ≤ s'.step.rank ∧ s.phase.rank ≤ s'.phase.rank := by
  rw [rank_eq, rank_eq] at h
  have h₁ := s.phase_rank
  have h₂ := s'.phase_rank
  omega

theorem rank_le_cancel (s : RangeSession) : s.rank ≤ s.cancel.rank := by
  rcases s.cancel_rank with h | h
  · rw [h]
  · exact h.le

theorem rank_le_reconcile {s s' : RangeSession} {now : ℚ} {state : Option SpaState}
    (h : s.reconcile now state = .ok (some s')) : s.rank ≤ s'.rank := by
  rcases reconcile_rank h with rfl | hlt
  · exact le_rfl
  · exact hlt.le

/-! ### Steps -/

/-- What no call takes back: the phase and the originals, the High target once it is no
    longer captured. -/
structure Later (s s' : RangeSession) : Prop where
  phase : s.phase.rank ≤ s'.phase.rank
  originalRange : s'.originalRange = s.originalRange
  originalMode : s'.originalMode = s.originalMode
  originalHigh : s.phase = .restoring → s'.originalHigh = s.originalHigh

theorem Later.refl (s : RangeSession) : Later s s := ⟨le_rfl, rfl, rfl, fun _ => rfl⟩

theorem Later.trans (s t u : RangeSession) (h : Later s t) (h' : Later t u) : Later s u := by
  refine ⟨h.phase.trans h'.phase, h'.originalRange.trans h.originalRange,
    h'.originalMode.trans h.originalMode, fun hs => ?_⟩
  have ht : t.phase = .restoring := by
    rw [SessionPhase.rank_restoring] at hs ⊢
    exact hs.trans h.phase
  exact (h'.originalHigh ht).trans (h.originalHigh hs)

theorem later_cancel (s : RangeSession) : Later s s.cancel := by
  refine ⟨(rank_le s.rank_le_cancel).2, ?_, ?_, fun _ => ?_⟩ <;>
    · unfold cancel
      split <;> rfl

theorem later_current (s : RangeSession) (now : ℚ) : Later s (s.current now) := by
  unfold current
  split
  · exact s.later_cancel
  · exact .refl s

theorem later_advance {s s' : RangeSession} {state : SpaState}
    (h : s.advance state = .ok (some s')) : Later s s' := by
  have hrank : s.rank ≤ s'.rank := by
    rcases advance_rank h with rfl | hlt
    · exact le_rfl
    · exact hlt.le
  have hphase := (rank_le hrank).2
  cases advance_case h with
  | kept => exact .refl s
  | captured _ high hs _ hr =>
    refine ⟨hphase, by rw [hr], by rw [hr], fun hrestoring => ?_⟩
    have hstep := s.valid.consistent.phase.mpr hrestoring
    rw [hs] at hstep
    cases hstep
  | targetSet _ _ hr | enabled _ _ hr | heated _ _ hr | highRestored _ _ hr
  | rangeRestored _ _ _ hr => exact ⟨hphase, by rw [hr], by rw [hr], fun _ => by rw [hr]⟩

theorem later_reconcile {s s' : RangeSession} {now : ℚ} {state : Option SpaState}
    (h : s.reconcile now state = .ok (some s')) : Later s s' := by
  rcases s.reconcile_case now state with hkept | ⟨o, -, -, -, -, hadvance⟩
  · obtain rfl := Option.some.inj (Except.ok.inj (hkept.symm.trans h))
    exact s.later_current now
  · exact .trans _ _ _ (s.later_current now) (later_advance (hadvance ▸ h))

theorem adjust_later {s s' : RangeSession} {now seconds : ℚ} (h : s.adjust now seconds = .ok s') :
    s.rank ≤ s'.rank ∧ Later s s' := by
  obtain ⟨-, updated, endTime, hrecord, hcase⟩ := adjust_case h
  have hrank : s.rank ≤ updated.rank := by rw [hrecord]; rfl
  have hlater : Later s updated := by
    refine ⟨(rank_le hrank).2, ?_, ?_, fun _ => ?_⟩ <;> rw [hrecord]
  rcases hcase with rfl | rfl
  · exact ⟨hrank, hlater⟩
  · exact ⟨hrank.trans updated.rank_le_cancel, .trans _ _ _ hlater updated.later_cancel⟩

theorem later_releaseTarget (s : RangeSession) : Later s s.releaseTarget := by
  refine ⟨?_, rfl, rfl, fun _ => rfl⟩
  show s.phase.rank ≤ 3
  cases s.phase <;> decide

/-- The storage gives the session back. -/
theorem reload_case {s : RangeSession} {next : Option RangeSession}
    (h : s.call .reload = .ok next) : next = some s := by
  simp only [call, fromRecord_toRecord] at h
  split at h
  · exact (Except.ok.inj h).symm
  · cases h

/-- What a call that does not raise leaves. -/
inductive CallCase (s : RangeSession) : Call → Option RangeSession → Prop where
  | reconcile {now : ℚ} {state : Option SpaState} {next : Option RangeSession}
      (h : s.reconcile now state = .ok next) : CallCase s (.reconcile now state) next
  | cancel : CallCase s .cancel (some s.cancel)
  | adjust {now seconds : ℚ} {s' : RangeSession} (h : s.adjust now seconds = .ok s') :
      CallCase s (.adjust now seconds) (some s')
  | releaseTarget : CallCase s .releaseTarget (some s.releaseTarget)
  | reload : CallCase s .reload (some s)

theorem call_case {s : RangeSession} {c : Call} {next : Option RangeSession}
    (h : s.call c = .ok next) : s.CallCase c next := by
  cases c with
  | reconcile now state =>
    cases hrec : s.reconcile now state with
    | error e =>
      simp only [call, hrec] at h
      cases h
    | ok next =>
      simp only [call, hrec] at h
      cases h
      exact .reconcile hrec
  | cancel =>
    cases h
    exact .cancel
  | adjust now seconds =>
    cases hadjust : s.adjust now seconds with
    | error e =>
      simp only [call, hadjust] at h
      cases h
    | ok s₁ =>
      simp only [call, hadjust] at h
      cases h
      exact .adjust hadjust
  | releaseTarget =>
    cases h
    exact .releaseTarget
  | reload =>
    cases reload_case h
    exact .reload

theorem later_call {s : RangeSession} {c : Call} {next : Option RangeSession}
    (h : s.call c = .ok next) : Since Later (some s) next := by
  intro s' hs'
  subst hs'
  refine ⟨s, rfl, ?_⟩
  cases call_case h with
  | reconcile hrec => exact later_reconcile hrec
  | cancel => exact s.later_cancel
  | adjust hadjust => exact (adjust_later hadjust).2
  | releaseTarget => exact s.later_releaseTarget
  | reload => exact .refl s

/-- Only `release_target` takes a step back, and only one of the restoration. -/
theorem call_rank {s s' : RangeSession} {c : Call} (h : s.call c = .ok (some s'))
    (hc : c ≠ .releaseTarget ∨ s.phase ≠ .restoring) : s.rank ≤ s'.rank := by
  cases call_case h with
  | reconcile hrec => exact rank_le_reconcile hrec
  | cancel => exact s.rank_le_cancel
  | adjust hadjust => exact (adjust_later hadjust).1
  | releaseTarget =>
    have hheating := RangeRecord.rank_lt_of_heating (heating_step (hc.resolve_left (by simp)))
    show s.rank ≤ 7
    omega
  | reload => exact le_rfl

/-- The step of the restoration after this one; there is none after the last. -/
def nextStep (s : RangeSession) : Option RangeStep :=
  match s.step with
  | .restoreHigh => some .restoreRange
  | .restoreRange => if s.modeOwned then some .restoreMode else none
  | _ => none

/-- Afterwards the session is the same, or it has taken the next step, or it is over. -/
def Restores (s : RangeSession) (next : Option RangeSession) : Prop :=
  next = some s ∨ next.map RangeSession.toRangeRecord =
    s.nextStep.map fun step => { s.toRangeRecord with step }

theorem advance_restores {s : RangeSession} {state : SpaState} {next : Option RangeSession}
    (hphase : s.phase = .restoring) (h : s.advance state = .ok next) : s.Restores next := by
  have hstep := s.valid.consistent.phase.mpr hphase
  have hheating : ∀ {step}, s.step = step → step.restoring ≠ true → False := by
    rintro step rfl hne
    exact hne hstep
  cases advance_case h with
  | kept => exact Or.inl rfl
  | captured _ _ hs | targetSet _ hs | enabled _ hs | heated _ hs =>
    exact (hheating hs (by decide)).elim
  | highRestored _ hs hr =>
    have hnext : s.nextStep = some .restoreRange := by
      unfold nextStep
      rw [hs]
    right
    rw [hnext]
    exact congrArg some hr
  | rangeRestored _ hs howned hr =>
    have hnext : s.nextStep = some .restoreMode := by
      unfold nextStep
      rw [hs]
      exact if_pos howned
    right
    rw [hnext]
    exact congrArg some hr
  | ended hended =>
    have hnext : s.nextStep = none := by
      unfold nextStep
      rcases hended with ⟨hs, howned⟩ | hs
      · rw [hs]
        exact if_neg (by simp [howned])
      · rw [hs]
    right
    rw [hnext]
    rfl

/-- A call of a restoring session, other than `release_target`. -/
theorem call_restores {s : RangeSession} {c : Call} {next : Option RangeSession}
    (hphase : s.phase = .restoring) (hc : c ≠ .releaseTarget) (h : s.call c = .ok next) :
    s.Restores next := by
  have hcancel : s.cancel = s := if_pos hphase
  cases call_case h with
  | reconcile hrec =>
    have hcurrent : ∀ now, s.current now = s := by
      intro now
      unfold current
      split
      · exact hcancel
      · rfl
    rcases s.reconcile_case _ _ with hkept | ⟨o, -, -, -, -, hadvance⟩
    · obtain rfl := Except.ok.inj (hkept.symm.trans hrec)
      exact Or.inl (by rw [hcurrent])
    · rw [hadvance, hcurrent] at hrec
      exact advance_restores hphase hrec
  | cancel => exact Or.inl (by rw [hcancel])
  | adjust hadjust => exact absurd hphase (adjust_case hadjust).1
  | releaseTarget => exact absurd rfl hc
  | reload => exact Or.inl rfl

/-! ### Runs -/

/-- A call leads to what it returns; one that raises leaves the session. -/
theorem step_case (s₀ s : RangeSession) (c : Call) :
    (∃ next, s.call c = .ok next ∧ ((machine s₀).step (some s) c).1 = next) ∨
      ((∃ e, s.call c = .error e) ∧ ((machine s₀).step (some s) c).1 = some s) := by
  cases h : s.call c with
  | ok next =>
    refine Or.inl ⟨next, rfl, ?_⟩
    simp only [machine, h]
  | error e =>
    refine Or.inr ⟨⟨e, rfl⟩, ?_⟩
    simp only [machine, h]

theorem later_step (s₀ : RangeSession) (state : Option RangeSession) (c : Call) :
    Since Later state ((machine s₀).step state c).1 := by
  cases state with
  | none => exact .refl Later.refl none
  | some s =>
    rcases step_case s₀ s c with ⟨next, hcall, heq⟩ | ⟨-, heq⟩
    · rw [heq]
      exact later_call hcall
    · rw [heq]
      exact .refl Later.refl _

theorem later_run (s : RangeSession) (run : List Call) {i k : ℕ} (h : i ≤ k) :
    Since Later (sessionAt s run i) (sessionAt s run k) := by
  refine (machine s).stateAt_related (R := Since Later) (Since.refl Later.refl)
    (fun _ _ _ => Since.trans Later.trans) ?_ h
  intro k c _ _ hc
  rw [(machine s).stateAt_succ hc]
  exact later_step s _ c

/-- The session is not earlier than it was. -/
def NotEarlier (s s' : RangeSession) : Prop := s.rank ≤ s'.rank

theorem NotEarlier.refl (s : RangeSession) : NotEarlier s s := Nat.le_refl _

theorem NotEarlier.trans (s t u : RangeSession) (h : NotEarlier s t) (h' : NotEarlier t u) :
    NotEarlier s u := Nat.le_trans h h'

/-- Without `release_target` no step is taken back. -/
theorem rank_run (s : RangeSession) (run : List Call) {i k : ℕ} (h : i ≤ k)
    (hcalls : ∀ j, i ≤ j → j < k → run[j]? = some .releaseTarget →
      ∀ s', sessionAt s run j = some s' → s'.phase ≠ .restoring) :
    Since NotEarlier (sessionAt s run i) (sessionAt s run k) := by
  refine (machine s).stateAt_related (R := Since NotEarlier) (Since.refl NotEarlier.refl)
    (fun _ _ _ => Since.trans NotEarlier.trans) ?_ h
  intro j c hij hjk hc
  rw [(machine s).stateAt_succ hc]
  cases hs : (machine s).stateAt run j with
  | none => exact .refl NotEarlier.refl none
  | some s₁ =>
    rcases step_case s s₁ c with ⟨next, hcall, heq⟩ | ⟨-, heq⟩
    · rw [heq]
      rintro s₂ rfl
      refine ⟨s₁, rfl, call_rank hcall ?_⟩
      by_cases hrelease : c = .releaseTarget
      · subst hrelease
        exact Or.inr (hcalls j hij hjk hc s₁ hs)
      · exact Or.inl hrelease
    · rw [heq]
      exact .refl NotEarlier.refl _

/-- What holds in every run of a bathing session. -/
structure Absorbing (s : RangeSession) (run : List Call) : Prop where
  restoring : ∀ i k s₁ s₂, i ≤ k → sessionAt s run i = some s₁ → sessionAt s run k = some s₂ →
    s₁.phase = .restoring → s₂.phase = .restoring
  /-- While it restores, its goal is one of the originals. -/
  goals : ∀ k s₁ o g, sessionAt s run k = some s₁ → s₁.phase = .restoring → s₁.goal o = .ok g →
    g = (.highRange, .bool s.originalRange) ∨ g = (.heatMode, .mode s.originalMode) ∨
      ∃ high, s₁.originalHigh = some high ∧ g = (.target, .float high)
  /-- The High target is no longer captured. -/
  captured : ∀ i k s₁ s₂, i ≤ k → sessionAt s run i = some s₁ → sessionAt s run k = some s₂ →
    s₁.phase = .restoring → s₂.originalHigh = s₁.originalHigh
  /-- A restoring session takes one step after the other until it is over. -/
  restores : ∀ k s₁ c, sessionAt s run k = some s₁ → s₁.phase = .restoring → run[k]? = some c →
    c ≠ .releaseTarget → s₁.Restores (sessionAt s run (k + 1))
  phases : ∀ i k s₁ s₂, i ≤ k → sessionAt s run i = some s₁ → sessionAt s run k = some s₂ →
    s₁.phase.rank ≤ s₂.phase.rank
  /-- Steps are not taken back either, before the session restores or without
      `release_target`. -/
  steps : ∀ i k s₁ s₂, i ≤ k → sessionAt s run i = some s₁ → sessionAt s run k = some s₂ →
    s₁.phase ≠ .restoring ∨ (∀ j, i ≤ j → j < k → run[j]? ≠ some .releaseTarget) →
      s₁.step.rank ≤ s₂.step.rank

/-- The goals of a restoring session are its originals. -/
theorem goal_restoring {s : RangeSession} {o : Option SpaState} {g : Control × Value}
    (hphase : s.phase = .restoring) (h : s.goal o = .ok g) :
    g = (.highRange, .bool s.originalRange) ∨ g = (.heatMode, .mode s.originalMode) ∨
      ∃ high, s.originalHigh = some high ∧ g = (.target, .float high) := by
  have hc := s.valid.consistent
  have hstep := hc.phase.mpr hphase
  rw [(goal_ok h).1]
  unfold goalOf
  cases hs : s.step <;> rw [hs] at hstep
  case restoreHigh =>
    obtain ⟨high, hhigh⟩ := Option.ne_none_iff_exists'.mp
      (hc.high (Or.inl (by rw [hs]; rfl)))
    exact Or.inr (Or.inr ⟨high, hhigh, by rw [hhigh]; rfl⟩)
  case restoreRange => exact Or.inl rfl
  case restoreMode => exact Or.inr (Or.inl rfl)
  all_goals cases hstep

/-- A later step, whatever is called: the steps of the restoration come last. -/
theorem steps_run (s : RangeSession) (run : List Call) {i k : ℕ} {s₁ s₂ : RangeSession} (hik : i ≤ k)
    (h₁ : sessionAt s run i = some s₁) (h₂ : sessionAt s run k = some s₂)
    (h : s₁.phase ≠ .restoring ∨ ∀ j, i ≤ j → j < k → run[j]? ≠ some .releaseTarget) :
    s₁.step.rank ≤ s₂.step.rank := by
  by_cases hover : s₁.phase ≠ .restoring ∧ s₂.phase = .restoring
  · have hheating := heating_step hover.1
    have hrestoring := s₂.valid.consistent.phase.mpr hover.2
    cases hs₁ : s₁.step <;> cases hs₂ : s₂.step <;>
      simp_all [RangeStep.restoring, RangeStep.rank]
  · obtain ⟨s₁', h₁', hrank⟩ := rank_run s run hik (by
      intro j hij hjk hrelease s' hs' hphase
      rcases h with hheating | hnone
      · -- the session restores from here to the end
        obtain ⟨s'', hs'', hlater⟩ := later_run s run hjk.le s₂ h₂
        cases hs'.symm.trans hs''
        refine hover ⟨hheating, ?_⟩
        rw [SessionPhase.rank_restoring] at hphase ⊢
        exact hphase.trans hlater.phase
      · exact hnone j hij hjk hrelease) s₂ h₂
    cases h₁.symm.trans h₁'
    exact (rank_le hrank).1

theorem absorbing (s : RangeSession) (run : List Call) : Absorbing s run := by
  have hlater : ∀ i k s₁ s₂, i ≤ k → sessionAt s run i = some s₁ → sessionAt s run k = some s₂ →
      Later s₁ s₂ := by
    intro i k s₁ s₂ hik h₁ h₂
    obtain ⟨s₁', h₁', hlater⟩ := later_run s run hik s₂ h₂
    cases h₁.symm.trans h₁'
    exact hlater
  constructor
  · intro i k s₁ s₂ hik h₁ h₂ hphase
    rw [SessionPhase.rank_restoring] at hphase ⊢
    exact hphase.trans (hlater i k s₁ s₂ hik h₁ h₂).phase
  · intro k s₁ o g h₁ hphase hg
    have hstart := hlater 0 k s s₁ (Nat.zero_le k) rfl h₁
    rw [← hstart.originalRange, ← hstart.originalMode]
    exact goal_restoring hphase hg
  · exact fun i k s₁ s₂ hik h₁ h₂ hphase => (hlater i k s₁ s₂ hik h₁ h₂).originalHigh hphase
  · intro k s₁ c h₁ hphase hc hne
    have hnext : sessionAt s run (k + 1) = ((machine s).step (some s₁) c).1 :=
      ((machine s).stateAt_succ hc).trans (by rw [show (machine s).stateAt run k = _ from h₁])
    rw [hnext]
    rcases step_case s s₁ c with ⟨next, hcall, heq⟩ | ⟨-, heq⟩
    · rw [heq]
      exact call_restores hphase hne hcall
    · exact Or.inl heq
  · exact fun i k s₁ s₂ hik h₁ h₂ => (hlater i k s₁ s₂ hik h₁ h₂).phase
  · exact fun i k s₁ s₂ hik h₁ h₂ h => steps_run s run hik h₁ h₂ h

end RangeSession

/-- **Restoration is absorbing** for both kinds of session, in every run. -/
theorem restoration_absorbing :
    (∀ (s : Session) (run : List Session.Call), s.Absorbing run) ∧
      ∀ (s : RangeSession) (run : List RangeSession.Call), s.Absorbing run :=
  ⟨Session.absorbing, RangeSession.absorbing⟩

end BalboaRs485
