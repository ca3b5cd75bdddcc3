import BalboaRs485.Command.Engine
import BalboaRs485.Command.Landing

/-!
# Plans that converge

What comes of a goal that `validate` has admitted, if each planned step lands.

* `Converges`: replanning after each expected value reaches the goal.
* `converges`: so it does for every admitted goal, in at most three steps.
* `plan_converges_iff`: with what is planned and encoded, for every desired value but an integer
  that has no float.
-/

namespace BalboaRs485

/-! ## Replanning -/

/-- `Converges control desired n s`: replanning from `s` reaches the desired value after at
    most `n` steps, each of which can land, and lands. -/
inductive Converges (control : Control) (desired : Value) : ℕ → SpaState → Prop where
  | reached {n : ℕ} {s : SpaState} (h : Value.shows (s.value control) desired = true) :
      Converges control desired n s
  | replan {n : ℕ} {s : SpaState} {frame : Frame} {expected : Value}
      (hplan : plan s control desired = .ok (frame, expected))
      (hlands : ∃ s', Landed s s' control expected)
      (hnext : ∀ s', Landed s s' control expected → Converges control desired n s') :
      Converges control desired (n + 1) s

variable {s s' : SpaState} {control : Control} {desired expected value : Value}

theorem Converges.mono {m n : ℕ} (h : Converges control desired m s) (hle : m ≤ n) :
    Converges control desired n s := by
  induction h generalizing n with
  | reached hshows => exact .reached hshows
  | replan hplan hlands hnext ih =>
    obtain ⟨k, rfl⟩ : ∃ k, n = k + 1 := ⟨n - 1, by omega⟩
    exact .replan hplan hlands fun s' hland => ih s' hland (by omega)

/-- Every planned step can land. -/
theorem Converges.next {n : ℕ} {frame : Frame}
    (hplan : plan s control desired = .ok (frame, expected))
    (hnext : ∀ s', Landed s s' control expected → Converges control desired n s') :
    Converges control desired (n + 1) s := .replan hplan (plan_lands hplan) hnext

/-- A plan that expects the desired value is the last one. -/
theorem converges_one {frame : Frame} (hplan : plan s control desired = .ok (frame, expected))
    (heq : expected.pyEq desired = true) : Converges control desired 1 s := by
  refine .next hplan fun s' hland => .reached ?_
  obtain ⟨v, hv, hshows⟩ := Value.shows_iff.mp hland.shows
  exact Value.shows_iff.mpr ⟨v, hv, Value.pyEq_trans hshows heq⟩

theorem pump1CirculationReason_eq (s : SpaState) :
    s.pump1CirculationReason =
      if ¬ s.pump1IsCirculation ∨ ¬ ([PumpState.low, .high].any fun p =>
          Value.shows (s.value .pump1) (.pump p)) = true then none
      else s.circulationDemand := rfl

/-- A pump whose circulation is optional is not asked for by anything, unless it is off. -/
theorem demand_of_validate (h : s.validate .pump1 desired = .ok ())
    (hoff : desired.pyEq (.pump .off) = true) (hv : s.value .pump1 = some value)
    (hne : value.pyEq desired = false) (hcirc : s.pump1IsCirculation = true) :
    s.circulationDemand = none := by
  have hreason : s.pump1CirculationReason = none := by
    unfold SpaState.validate at h
    rw [if_neg (by decide : ¬ Control.pump1 = .clockTime),
      if_neg (by decide : ¬ Control.pump1 = .filters)] at h
    split at h
    · cases h
    rw [if_neg fun h => Control.noConfusion h.1] at h
    split at h
    · cases h
    rw [if_pos ⟨rfl, hoff⟩] at h
    split at h
    · cases h
    · next hnone => exact hnone
  have hopts : s.options .pump1 = [.pump .off, .pump .low, .pump .high] :=
    (of_decide_eq_true hcirc).2
  have hin : value.pyIn (s.options .pump1) = true := pumpValue_offered hv
  have hnotoff : value.pyEq (.pump .off) = false := by
    rw [Bool.eq_false_iff]
    intro heq
    rw [Value.pyEq_comm] at hoff
    rw [Value.pyEq_trans heq hoff] at hne
    cases hne
  have hrunning : ([PumpState.low, .high].any fun p =>
      Value.shows (s.value .pump1) (.pump p)) = true := by
    rw [hopts] at hin
    simpa [Value.pyIn, hnotoff, hv, Value.shows] using hin
  rw [pump1CirculationReason_eq, if_neg (by simp [hcirc, hrunning])] at hreason
  exact hreason

/-- **After a toggle has landed the goal is still admitted.** -/
theorem Landed.validate (hland : Landed s s' control expected) (hc : Cyclic control)
    (h : s.validate control desired = .ok ()) (hv : s.value control = some value)
    (hne : value.pyEq desired = false) : s'.validate control desired = .ok () := by
  have hclock : control ≠ .clockTime := by
    rintro rfl
    exact hc.1 rfl
  have hfilters : control ≠ .filters := by
    rintro rfl
    exact hc.1 rfl
  have htarget : control ≠ .target := by
    rintro rfl
    exact hc.1 rfl
  obtain ⟨htype, hin, -⟩ := validate_ok h hclock hfilters
  have hsafe : s'.safeFor control = true := hland.safe.trans (safeFor_of_validate h)
  have hknown : s'.value control ≠ none := by
    obtain ⟨v, hv', -⟩ := Value.shows_iff.mp hland.shows
    exact Option.ne_none_iff_exists'.mpr ⟨v, hv'⟩
  unfold SpaState.validate
  rw [if_neg (not_not.mpr hsafe), if_neg hclock, if_neg hfilters, if_neg fun h => htarget h.1,
    if_neg (by simp [htype, hland.options hc, hin, hknown])]
  by_cases hstop : control = .pump1 ∧ desired.pyEq (.pump .off) = true
  · obtain ⟨rfl, hoff⟩ := hstop
    have hreason : s'.pump1CirculationReason = none := by
      rw [pump1CirculationReason_eq]
      split
      · rfl
      · next hrun =>
        have hcirc : s.pump1IsCirculation = true := by
          rw [← hland.circulation rfl]
          by_contra hnot
          exact hrun (Or.inl hnot)
        rw [hland.demand rfl]
        exact demand_of_validate h hoff hv hne hcirc
    rw [if_pos ⟨rfl, hoff⟩, hreason]
  · rw [if_neg hstop]

/-! ## Going round the options -/

variable {options : List Value}

/-- Where a value stands among the options. -/
theorem findIdx_of_pyIn (h : value.pyIn options = true) :
    ∃ hlt : options.findIdx value.pyEq < options.length,
      value.pyEq (options[options.findIdx value.pyEq]) = true := by
  obtain ⟨w, hw, heq⟩ := Value.pyIn_iff.mp h
  exact ⟨List.findIdx_lt_length.mpr ⟨w, hw, heq⟩, List.findIdx_getElem⟩

/-- Distinct options are found where they are. -/
theorem findIdx_getElem (hd : DistinctOptions options) {k : ℕ} (hk : k < options.length)
    (heq : value.pyEq options[k] = true) : options.findIdx value.pyEq = k := by
  have hmem : value.pyIn options = true := Value.pyIn_iff.mpr ⟨_, List.getElem_mem hk, heq⟩
  obtain ⟨hlt, hfound⟩ := findIdx_of_pyIn hmem
  have hlt' : options.findIdx value.pyEq < (options.map Value.norm).length := by simpa using hlt
  have hk' : k < (options.map Value.norm).length := by simpa using hk
  have hsame : (options.map Value.norm)[options.findIdx value.pyEq] =
      (options.map Value.norm)[k] := by
    rw [List.getElem_map, List.getElem_map, ← Value.pyEq_iff.mp hfound, Value.pyEq_iff.mp heq]
  exact (List.Nodup.getElem_inj_iff hd).mp hsame

theorem not_readyInRest (h : value.pyIn (s.options control) = true) :
    ¬ (control = .heatMode ∧ value.pyEq (.mode .readyInRest) = true) := by
  rintro ⟨rfl, heq⟩
  obtain ⟨w, hw, hvw⟩ := Value.pyIn_iff.mp h
  rw [Value.pyEq_iff] at heq hvw
  rw [heq] at hvw
  simp only [SpaState.options, List.mem_cons, List.not_mem_nil, or_false] at hw
  rcases hw with rfl | rfl
  · revert hvw
    decide
  · revert hvw
    decide

/-- Two values at the same place are equal. -/
theorem pyEq_of_findIdx (hv : value.pyIn options = true) (hd : desired.pyIn options = true)
    (heq : options.findIdx value.pyEq = options.findIdx desired.pyEq) :
    value.pyEq desired = true := by
  obtain ⟨hvlt, hveq⟩ := findIdx_of_pyIn hv
  obtain ⟨hdlt, hdeq⟩ := findIdx_of_pyIn hd
  simp only [heq] at hveq
  rw [Value.pyEq_comm] at hdeq
  exact Value.pyEq_trans hveq hdeq

/-- The goal of an admitted request is one of the options. -/
theorem desired_offered (hc : Cyclic control) (h : s.validate control desired = .ok ()) :
    desired.pyIn (s.options control) = true :=
  (validate_ok h (by rintro rfl; exact hc.1 rfl) (by rintro rfl; exact hc.1 rfl)).2.1

/-- A toggle expects the next option. -/
theorem plan_next (hc : Cyclic control) (h : s.validate control desired = .ok ())
    (hv : s.value control = some value) (hin : value.pyIn (s.options control) = true) :
    ∃ frame expected, plan s control desired = .ok (frame, expected) ∧
      nextOption (s.options control) value = some expected := by
  obtain ⟨⟨frame, expected⟩, hplan⟩ := plan_ok h
  refine ⟨frame, expected, hplan, ?_⟩
  rw [plan_cyclic hc h] at hplan
  obtain ⟨item, value', -, hvalue, -, hrest | hnext⟩ := planToggle_ok hplan
  · rw [hv] at hvalue
    cases hvalue
    exact absurd ⟨hrest.1, hrest.2.1⟩ (not_readyInRest hin)
  · rw [hv] at hvalue
    cases hvalue
    exact hnext

/-- Each toggle that lands is one step further round the options. -/
theorem converges_cycle (hc : Cyclic control) (d : ℕ) :
    ∀ (s : SpaState) (value : Value), s.validate control desired = .ok () →
      s.value control = some value → value.pyIn (s.options control) = true →
      ((s.options control).findIdx value.pyEq + d) % (s.options control).length =
        (s.options control).findIdx desired.pyEq →
      Converges control desired d s := by
  induction d with
  | zero =>
    intro s value h hv hin hidx
    obtain ⟨hlt, -⟩ := findIdx_of_pyIn hin
    rw [Nat.add_zero, Nat.mod_eq_of_lt hlt] at hidx
    have heq := pyEq_of_findIdx hin (desired_offered hc h) hidx
    exact .reached (Value.shows_iff.mpr ⟨value, hv, heq⟩)
  | succ d ih =>
    intro s value h hv hin hidx
    cases heq : value.pyEq desired with
    | true => exact .reached (Value.shows_iff.mpr ⟨value, hv, heq⟩)
    | false =>
      obtain ⟨frame, expected, hplan, hnext⟩ := plan_next hc h hv hin
      refine .next hplan fun s' hland => ?_
      obtain ⟨hlt, hget⟩ := List.getElem?_eq_some_iff.mp hnext
      obtain ⟨item, hitem⟩ := Option.ne_none_iff_exists'.mp hc.1
      obtain ⟨value', hv', hshows⟩ := Value.shows_iff.mp hland.shows
      have hfound : (s.options control).findIdx value'.pyEq =
          ((s.options control).findIdx value.pyEq + 1) % (s.options control).length :=
        findIdx_getElem (distinctOptions_toggle s hitem hc.2).1 hlt (by rw [hget, hshows])
      apply ih s' value' (hland.validate hc h hv heq) hv'
      · rw [hland.options hc]
        exact Value.pyIn_iff.mpr ⟨_, List.mem_of_getElem? hnext, hshows⟩
      · rw [hland.options hc, hfound, Nat.mod_add_mod, Nat.add_assoc, Nat.add_comm 1 d, hidx]

/-- No toggled control has more than four options. -/
theorem length_options_le (s : SpaState) (hc : Cyclic control) :
    (s.options control).length ≤ 4 := by
  have hflag : ∀ c : Bool, (SpaState.optionsIf c [.bool false, .bool true]).length ≤ 4 := by
    intro c
    cases c <;> decide
  have hpump : ∀ i, (s.pumpOptions i).length ≤ 4 := by
    intro i
    unfold SpaState.pumpOptions
    dsimp only
    split_ifs <;> decide
  obtain ⟨hitem, hnormal, hsoak, hack⟩ := hc
  cases control <;> simp [ToggleItem.ofControl] at hitem hnormal hsoak hack
  case blower =>
    have hcount : (s.configuration.capabilities.caps 3 &&& 3).toNat ≤ 3 := by
      rw [UInt8.toNat_and]
      exact Nat.and_le_right
    simp only [SpaState.options]
    cases (s.configuration.capabilities.caps 3 &&& 3 ≠ 0 : Bool)
    · simp [SpaState.optionsIf]
    · exact (Eq.le (by simp [SpaState.optionsIf])).trans (Nat.succ_le_succ hcount)
  case heatMode | highRange => simp [SpaState.options]
  case pump1 | pump2 | pump3 | pump4 | pump5 | pump6 => exact hpump _
  all_goals exact hflag _

/-- From an option to another it is less than once round. -/
theorem exists_distance {k j n : ℕ} (hk : k < n) (hj : j < n) : ∃ d < n, (k + d) % n = j := by
  refine ⟨(j + (n - k)) % n, Nat.mod_lt _ (by omega), ?_⟩
  rw [Nat.add_mod_mod, show k + (j + (n - k)) = j + n by omega, Nat.add_mod_right,
    Nat.mod_eq_of_lt hj]

theorem converges_cyclic (hc : Cyclic control) (h : s.validate control desired = .ok ())
    (hv : s.value control = some value) (hin : value.pyIn (s.options control) = true) :
    Converges control desired 3 s := by
  obtain ⟨hk, -⟩ := findIdx_of_pyIn hin
  obtain ⟨hj, -⟩ := findIdx_of_pyIn (desired_offered hc h)
  obtain ⟨d, hd, hidx⟩ := exists_distance hk hj
  have hlen := length_options_le s hc
  exact (converges_cycle hc d s value h hv hin hidx).mono (by omega)

/-- From `READY_IN_REST` the first toggle leads to `REST`, which is an option. -/
theorem converges_readyInRest (h : s.validate .heatMode desired = .ok ())
    (hv : s.value .heatMode = some value) (hrest : value.pyEq (.mode .readyInRest) = true) :
    Converges .heatMode desired 3 s := by
  have hc : Cyclic .heatMode := ⟨by decide, by decide, by decide, by decide⟩
  have hplan : plan s .heatMode desired = .ok (toggle .heatMode, .mode .rest) := by
    rw [plan_cyclic hc h]
    unfold planToggle
    rw [hv]
    exact if_pos ⟨rfl, hrest⟩
  have hin : Value.mode .rest ∈ s.options .heatMode :=
    List.mem_cons_of_mem _ List.mem_cons_self
  have hne : value.pyEq desired = false := by
    rw [Bool.eq_false_iff]
    intro heq
    rw [Value.pyEq_comm] at heq
    have hsame := Value.pyEq_trans heq hrest
    exact not_readyInRest (desired_offered hc h) ⟨rfl, hsame⟩
  refine .next hplan fun s' hland => ?_
  have h' := hland.validate hc h hv hne
  obtain ⟨value', hv', hshows⟩ := Value.shows_iff.mp hland.shows
  have hin' : value'.pyIn (s'.options .heatMode) = true := by
    rw [hland.options hc]
    exact Value.pyIn_iff.mpr ⟨.mode .rest, hin, hshows⟩
  obtain ⟨hk, -⟩ := findIdx_of_pyIn hin'
  obtain ⟨hj, -⟩ := findIdx_of_pyIn (desired_offered hc h')
  obtain ⟨d, hd, hidx⟩ := exists_distance hk hj
  have hlen : (s'.options .heatMode).length = 2 := rfl
  exact (converges_cycle hc d s' _ h' hv' hin' hidx).mono (by omega)

/-- The other controls are there after one command. -/
theorem plan_direct (hc : ¬ Cyclic control) {frame : Frame}
    (h : plan s control desired = .ok (frame, expected)) : expected.pyEq desired = true := by
  have hvalid := plan_validated h
  unfold plan at h
  rw [hvalid] at h
  have honce : (control = .normalOperation ∨ control = .soak ∨ control = .ackReminder) →
      (Value.bool true).pyEq desired = true := by
    intro hcontrol
    rw [Value.pyEq_comm]
    exact validate_oneShot hvalid hcontrol
  dsimp only at h
  unfold planValid at h
  split at h
  case h_1 =>
    cases h
    exact honce (by simp)
  case h_2 =>
    cases h
    exact honce (by simp)
  case h_3 =>
    cases h
    exact honce (by simp)
  case h_9 =>
    obtain ⟨item, -, hitem, -⟩ := planToggle_ok h
    refine absurd ⟨by rw [hitem]; exact Option.some_ne_none item, ?_⟩ hc
    exact ⟨by assumption, by assumption, by assumption⟩
  -- The remaining controls expect the desired value itself.
  all_goals
    repeat' split at h
    all_goals first | (cases h; exact Value.pyEq_refl _) | cases h

/-- **Replanning an admitted goal reaches it** after at most three toggles. -/
theorem converges (h : s.validate control desired = .ok ()) (hv : s.value control = some value) :
    Converges control desired 3 s := by
  by_cases hc : Cyclic control
  · have hopts := options_ne_of_pyIn (desired_offered hc h)
    rcases value_offered hc hopts hv with hin | ⟨rfl, hrest⟩
    · exact converges_cyclic hc h hv hin
    · exact converges_readyInRest h hv hrest
  · obtain ⟨⟨frame, expected⟩, hplan⟩ := plan_ok h
    exact (converges_one hplan (plan_direct hc hplan)).mono (by omega)

/-! ## Every desired value -/

/-- A desired value as a caller can give it. -/
inductive Desired where
  | value (v : Value)
  /-- A float that is not finite. -/
  | nonfinite

/-- The error `validate` raises for a float that is not finite: it passes no type test. -/
def SpaState.nonfiniteError (s : SpaState) (control : Control) : ValidateError :=
  if ¬ s.safeFor control then .notPermitted s.controlsBlockedReason
  else if control = .clockTime then .clock
  else if control = .filters then .filters
  else .unsupported

/-- `validate` on whatever a caller gives. -/
def SpaState.validateDesired (s : SpaState) (control : Control) :
    Desired → Except ValidateError Unit
  | .value v => s.validate control v
  | .nonfinite => .error (s.nonfiniteError control)

/-- `plan` on whatever a caller gives. -/
def planDesired (s : SpaState) (control : Control) : Desired → Except PlanError (Frame × Value)
  | .value v => plan s control v
  | .nonfinite => .error (.invalid (s.nonfiniteError control))

variable {d : Desired}

/-- The goal on which `validate` raises `OverflowError`. -/
def SpaState.Overflows (s : SpaState) (control : Control) (desired : Desired) : Prop :=
  s.safeFor control = true ∧ control = .target ∧ ∃ v, desired = .value v ∧ v.overflows = true

/-- **Admission implies a plan that converges**, for one goal. -/
structure PlanConverges (s : SpaState) (control : Control) (desired : Desired) : Prop where
  /-- `validate` raises `ValueError`, or `plan` succeeds. -/
  planned : (∃ e, s.validateDesired control desired = .error e ∧ e.isValueError = true) ∨
    ∃ step, planDesired s control desired = .ok step
  /-- Every option of a directly set control passes its encoder. -/
  encodable : ∀ v ∈ s.options control, ToggleItem.ofControl control = none →
    ∃ frame, planValid s control v = .ok (frame, v)
  /-- An admitted goal that is not shown yet is approached by every step. -/
  approaches : ∀ v value, desired = .value v → s.validate control v = .ok () →
    s.value control = some value → value.pyEq v = false →
    ∀ frame expected, plan s control v = .ok (frame, expected) → value.pyEq expected = false
  /-- And reached within the default budget. -/
  converges : ∀ v value, desired = .value v → s.validate control v = .ok () →
    s.value control = some value → value.pyEq v = false →
    Converges control v 3 s ∧ 3 ≤ EngineConfig.default.maxActions

/-- The other errors of `validate` are `ValueError`s. -/
theorem isValueError_of_ne {e : ValidateError} (h : e ≠ .overflow) : e.isValueError = true := by
  cases e with
  | overflow => exact absurd rfl h
  | _ => rfl

/-- Then neither a `ValueError` is raised nor a step planned. -/
theorem SpaState.Overflows.not_converges (h : s.Overflows control d) :
    ¬ PlanConverges s control d := by
  obtain ⟨hsafe, rfl, v, rfl, hover⟩ := h
  intro hconverges
  have herror : s.validate .target v = .error .overflow :=
    validate_overflow_iff.mpr ⟨hsafe, rfl, hover⟩
  rcases hconverges.planned with ⟨e, he, hvalue⟩ | ⟨step, hstep⟩
  · obtain rfl := Except.error.inj (herror.symm.trans he)
    cases hvalue
  · have hvalid : s.validate .target v = .ok () := plan_validated hstep
    rw [herror] at hvalid
    cases hvalid

/-- **Admission implies a plan that converges, but for an integer that has no float.** -/
theorem plan_converges_iff (s : SpaState) (control : Control) (desired : Desired) :
    PlanConverges s control desired ↔ ¬ s.Overflows control desired := by
  refine ⟨fun h hover => hover.not_converges h, fun hover => ?_⟩
  refine ⟨?_, fun v hv hset => encodable hv hset, ?_, ?_⟩
  · cases desired with
    | value v =>
      cases h : s.validate control v with
      | error e =>
        refine Or.inl ⟨e, h, isValueError_of_ne ?_⟩
        rintro rfl
        obtain ⟨hsafe, hcontrol, hv⟩ := validate_overflow_iff.mp h
        exact hover ⟨hsafe, hcontrol, v, rfl, hv⟩
      | ok => exact Or.inr (plan_ok h)
    | nonfinite =>
      refine Or.inl ⟨_, rfl, isValueError_of_ne ?_⟩
      unfold SpaState.nonfiniteError
      split_ifs <;> exact nofun
  · rintro v value rfl - hv hne frame expected hplan
    exact plan_expected_ne hplan hv hne
  · rintro v value rfl h hv -
    exact ⟨converges h hv, by decide⟩

/-- A target of `10 ** 400` on a spa whose controls are permitted. -/
theorem plan_converges_overflow :
    ¬ PlanConverges (sampleState (sampleStatus 98 0 true) 1 1 0) .target
      (.value (.int (10 ^ 400))) := by
  have hover : (Value.int (10 ^ 400)).overflows = true := by decide +kernel
  exact SpaState.Overflows.not_converges ⟨by decide +kernel, rfl, _, rfl, hover⟩

end BalboaRs485
