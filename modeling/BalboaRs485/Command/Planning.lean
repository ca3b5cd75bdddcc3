import BalboaRs485.State.Model
import Mathlib.Data.List.Nodup

/-!
# One next physical step

Model of `command/planning.py`. `plan` validates the goal against the current
observation and encodes the one frame that moves the control towards it,
together with the value it expects to observe next.

Main results:

* `plan_expected_ne`: the expected value differs from the observed one, so an
  observation that still shows the old value is never the expected one.
* `plan_no_failure`: the `assert` statements of `plan` and its look-up of the
  toggle item never fail.
-/

namespace BalboaRs485

/-- `ToggleItem[control.name]`. -/
def ToggleItem.ofControl : Control → Option ToggleItem
  | .normalOperation => some .normalOperation
  | .ackReminder => some .ackReminder
  | .pump1 => some .pump1
  | .pump2 => some .pump2
  | .pump3 => some .pump3
  | .pump4 => some .pump4
  | .pump5 => some .pump5
  | .pump6 => some .pump6
  | .blower => some .blower
  | .mister => some .mister
  | .light1 => some .light1
  | .light2 => some .light2
  | .aux1 => some .aux1
  | .aux2 => some .aux2
  | .soak => some .soak
  | .hold => some .hold
  | .highRange => some .highRange
  | .heatMode => some .heatMode
  | _ => none

/-- What stops `plan`: an error of `validate` (on a goal that was admitted a `ValueError`), a
    `ValueError` of an encoder or of `options.index`, or a failed `assert` or look-up
    (`plan_no_failure`: never). -/
inductive PlanError where
  | invalid (e : ValidateError)
  | encode (e : EncodeError)
  | notAnOption
  | assertion
  | noToggle
deriving DecidableEq

/-- `str(error)` of the `ValueError` that `next_action` catches. -/
def PlanError.text : PlanError → String
  | invalid e => e.text
  | encode e => e.text
  | notAnOption => "tuple.index(x): x not in tuple"
  | assertion => ""
  | noToggle => ""

/-- `options[(options.index(value) + 1) % len(options)]`. -/
def nextOption (options : List Value) (value : Value) : Option Value :=
  options[(options.findIdx value.pyEq + 1) % options.length]?

/-- The frame and the expected value of a cyclic toggle (lines 35–43). -/
def planToggle (state : SpaState) (control : Control) : Except PlanError (Frame × Value) :=
  match ToggleItem.ofControl control, state.value control with
  | none, _ => .error .noToggle
  | some _, none => .error .assertion
  | some item, some value =>
    if control = .heatMode ∧ value.pyEq (.mode .readyInRest) then .ok (toggle item, .mode .rest)
    else if ¬ value.pyIn (state.options control) then .error .notAnOption
    else
      match nextOption (state.options control) value with
      | none => .error .notAnOption
      | some expected => .ok (toggle item, expected)

/-- `float(desired)` for the numbers that pass `isinstance(desired, (int, float))`. -/
def Value.toFloat : Value → Option ℚ
  | .int i => some i
  | .float q => some q
  | .bool b => some (if b then 1 else 0)
  | .mode m => some m.toInt
  | _ => none

/-- The body of `plan` behind `validate` (lines 19–43). -/
def planValid (state : SpaState) (control : Control) (desired : Value) :
    Except PlanError (Frame × Value) :=
  match control with
  | .normalOperation => .ok (toggle .normalOperation, .bool true)
  | .soak => .ok (toggle .soak, .bool true)
  | .ackReminder => .ok (toggle .ackReminder, .bool true)
  | .temperatureUnit =>
    match desired with
    | .unit u => .ok (setTemperatureUnit u, desired)
    | _ => .error .assertion
  | .clockFormat =>
    match desired with
    | .bool b => .ok (setClockFormat b, desired)
    | _ => .error .assertion
  | .clockTime =>
    match desired with
    | .int i =>
      match setClock i state.status.clock24h with
      | .ok frame => .ok (frame, desired)
      | .error e => .error (.encode e)
    | _ => .error .assertion
  | .filters =>
    match desired with
    | .filters schedule => .ok (schedule.frame, desired)
    | _ => .error .assertion
  | .target =>
    match desired.toFloat with
    | some q =>
      match setTemperature q state.status.unit with
      | .ok frame => .ok (frame, desired)
      | .error e => .error (.encode e)
    | none => .error .assertion
  | _ => planToggle state control

/-- `plan` (lines 17–43). -/
def plan (state : SpaState) (control : Control) (desired : Value) :
    Except PlanError (Frame × Value) :=
  match state.validate control desired with
  | .error e => .error (.invalid e)
  | .ok () => planValid state control desired

/-! ## Cycling through a list of options -/

/-- No two options are equal in Python's sense. -/
def DistinctOptions (options : List Value) : Prop := (options.map Value.norm).Nodup

/-- In a list of at least two distinct options the next one differs from the
    current one. -/
theorem nextOption_ne {options : List Value} (hd : DistinctOptions options)
    (h1 : options.length ≠ 1) {value expected : Value}
    (h : nextOption options value = some expected) : value.pyEq expected = false := by
  rw [Value.pyEq_eq_false]
  intro heq
  unfold nextOption at h
  set k := options.findIdx value.pyEq with hk
  obtain ⟨hlt, hget⟩ := List.getElem?_eq_some_iff.mp h
  have hlen : 2 ≤ options.length := by omega
  -- the next option is at another index, but distinct options are found where they are
  have hidx : k = (k + 1) % options.length := by
    have hkl : k < options.length := by
      rw [hk, List.findIdx_lt_length]
      exact ⟨expected, hget ▸ List.getElem_mem _, Value.pyEq_iff.mpr heq⟩
    have hfound : value.pyEq options[k] = true := by
      simp only [hk]; exact List.findIdx_getElem
    have hkl' : k < (options.map Value.norm).length := by simpa using hkl
    have hlt' : (k + 1) % options.length < (options.map Value.norm).length := by simpa using hlt
    have hsame : (options.map Value.norm)[k] =
        (options.map Value.norm)[(k + 1) % options.length] := by
      simp only [List.getElem_map, hget, ← heq, Value.pyEq_iff.mp hfound]
    exact (List.Nodup.getElem_inj_iff hd).mp hsame
  rcases Nat.lt_or_ge (k + 1) options.length with hnext | hge
  · rw [Nat.mod_eq_of_lt hnext] at hidx; omega
  · have hmod : (k + 1) % options.length < options.length := Nat.mod_lt _ (by omega)
    have : k + 1 = options.length := by omega
    rw [this, Nat.mod_self] at hidx
    omega

/-- The options of a toggled control are distinct, and there is never just one. -/
theorem distinctOptions_toggle (state : SpaState) {control : Control} {item : ToggleItem}
    (hitem : ToggleItem.ofControl control = some item)
    (hc : control ≠ .normalOperation ∧ control ≠ .soak ∧ control ≠ .ackReminder) :
    DistinctOptions (state.options control) ∧ (state.options control).length ≠ 1 := by
  have hboth : ∀ c : Bool, DistinctOptions (SpaState.optionsIf c [.bool false, .bool true]) ∧
      (SpaState.optionsIf c [.bool false, .bool true]).length ≠ 1 := by
    intro c; cases c <;> simp [SpaState.optionsIf, DistinctOptions, Value.norm]
  have hpump : ∀ i, DistinctOptions (state.pumpOptions i) ∧ (state.pumpOptions i).length ≠ 1 := by
    intro i
    unfold SpaState.pumpOptions
    dsimp only
    split_ifs <;> simp [DistinctOptions, Value.norm]
  have hrange : ∀ n : ℕ, n ≠ 0 →
      DistinctOptions ((List.range (n + 1)).map fun (i : ℕ) => Value.int i) ∧
      ((List.range (n + 1)).map fun (i : ℕ) => Value.int i).length ≠ 1 := by
    intro n hn
    refine ⟨?_, by simpa using hn⟩
    simp only [DistinctOptions, List.map_map]
    exact List.Nodup.map (fun a b h => by simpa [Value.norm] using h) List.nodup_range
  cases control <;> simp [ToggleItem.ofControl] at hitem hc
  case blower =>
    simp only [SpaState.options]
    by_cases h : state.configuration.capabilities.caps 3 &&& 3 = 0
    · simp [SpaState.optionsIf, h, DistinctOptions]
    · simp only [SpaState.optionsIf, ne_eq, h, not_false_eq_true, decide_true, if_true]
      exact hrange _ fun h0 => h (UInt8.toNat_inj.mp (by simpa using h0))
  case heatMode => simp [SpaState.options, DistinctOptions, Value.norm, HeatMode.toInt]
  case highRange => simp [SpaState.options, DistinctOptions, Value.norm]
  all_goals first | exact hpump _ | exact hboth _

/-! ## What `validate` has established -/

/-- The controls that pass the general test of `validate` have a desired value of
    the right type among their options and a known observed value. -/
theorem validate_ok {state : SpaState} {control : Control} {desired : Value}
    (h : state.validate control desired = .ok ()) (hc : control ≠ .clockTime)
    (hf : control ≠ .filters) :
    SpaState.validType control desired = true ∧ desired.pyIn (state.options control) = true ∧
      state.value control ≠ none := by
  unfold SpaState.validate at h
  rw [if_neg hc, if_neg hf] at h
  split at h
  · cases h
  split at h
  · cases h
  split at h
  · cases h
  · next hn =>
    simp only [not_or, not_not] at hn
    exact hn

theorem available_of_safeFor {state : SpaState} {control : Control}
    (h : state.safeFor control = true) : state.available = true := by
  unfold SpaState.safeFor SpaState.controlsSafe at h
  grind

theorem safeFor_of_validate {state : SpaState} {control : Control} {desired : Value}
    (h : state.validate control desired = .ok ()) : state.safeFor control = true := by
  by_contra hrefused
  unfold SpaState.validate at h
  rw [if_pos hrefused] at h
  cases h

/-- The one error of `validate` that is no `ValueError`. -/
theorem validate_overflow_iff {state : SpaState} {control : Control} {desired : Value} :
    state.validate control desired = .error .overflow ↔
      state.safeFor control = true ∧ control = .target ∧ desired.overflows = true := by
  constructor
  · intro h
    unfold SpaState.validate at h
    split at h
    · cases h
    next hsafe =>
    split at h
    · repeat' split at h
      all_goals cases h
    split at h
    · repeat' split at h
      all_goals cases h
    split at h
    · next hover => exact ⟨not_not.mp hsafe, hover⟩
    · repeat' split at h
      all_goals cases h
  · rintro ⟨hsafe, rfl, hover⟩
    unfold SpaState.validate
    rw [if_neg (not_not.mpr hsafe), if_neg (by decide : ¬ Control.target = .clockTime),
      if_neg (by decide : ¬ Control.target = .filters), if_pos ⟨rfl, hover⟩]

theorem validate_clockTime_ok {state : SpaState} {desired : Value}
    (h : state.validate .clockTime desired = .ok ()) : ∃ i, desired = .int i := by
  unfold SpaState.validate at h
  rw [if_pos rfl] at h
  split at h
  · cases h
  · split at h
    · exact ⟨_, rfl⟩
    · cases h

theorem validate_filters_ok {state : SpaState} {desired : Value}
    (h : state.validate .filters desired = .ok ()) : ∃ schedule, desired = .filters schedule := by
  unfold SpaState.validate at h
  rw [if_neg (by decide : ¬ Control.filters = .clockTime), if_pos rfl] at h
  split at h
  · cases h
  · split at h
    · exact ⟨_, rfl⟩
    · cases h

/-- The three one-shot commands accept no other desired value than `True`. -/
theorem validate_oneShot {state : SpaState} {control : Control} {desired : Value}
    (h : state.validate control desired = .ok ())
    (hc : control = .normalOperation ∨ control = .soak ∨ control = .ackReminder) :
    desired.pyEq (.bool true) = true := by
  have hin := (validate_ok h (by rcases hc with rfl | rfl | rfl <;> decide)
    (by rcases hc with rfl | rfl | rfl <;> decide)).2.1
  obtain ⟨v, hv, heq⟩ := Value.pyIn_iff.mp hin
  have hopt : ∀ c : Bool, v ∈ SpaState.optionsIf c [.bool true] → v = .bool true := by
    intro c hc; cases c <;> simp [SpaState.optionsIf] at hc; exact hc
  have : v = .bool true := by
    rcases hc with rfl | rfl | rfl <;> exact hopt _ hv
  rwa [this] at heq

/-- What a planned toggle looks like. -/
theorem planToggle_ok {state : SpaState} {control : Control} {frame : Frame} {expected : Value}
    (h : planToggle state control = .ok (frame, expected)) :
    ∃ item value, ToggleItem.ofControl control = some item ∧ state.value control = some value ∧
      frame = toggle item ∧
      ((control = .heatMode ∧ value.pyEq (.mode .readyInRest) = true ∧ expected = .mode .rest) ∨
        nextOption (state.options control) value = some expected) := by
  unfold planToggle at h
  split at h
  · cases h
  · cases h
  · next item value hitem hvalue =>
    refine ⟨item, value, hitem, hvalue, ?_⟩
    split at h
    · next hrest => cases h; exact ⟨rfl, Or.inl ⟨hrest.1, hrest.2, rfl⟩⟩
    · split at h
      · cases h
      · split at h
        · cases h
        · next hnext => cases h; exact ⟨rfl, Or.inr hnext⟩

/-- A toggle step leaves the observed value. -/
theorem planToggle_expected_ne {state : SpaState} {control : Control} {frame : Frame}
    {value expected : Value} (h : planToggle state control = .ok (frame, expected))
    (hc : control ≠ .normalOperation ∧ control ≠ .soak ∧ control ≠ .ackReminder)
    (hv : state.value control = some value) : value.pyEq expected = false := by
  obtain ⟨item, value', hitem, hvalue, -, hstep⟩ := planToggle_ok h
  have : value' = value := Option.some.inj (hvalue.symm.trans hv)
  subst this
  rcases hstep with ⟨-, hrest, rfl⟩ | hnext
  · rw [Value.pyEq_iff] at hrest
    rw [Value.pyEq_eq_false, hrest]
    simp [Value.norm, HeatMode.toInt]
  · obtain ⟨hd, h1⟩ := distinctOptions_toggle state hitem hc
    exact nextOption_ne hd h1 hnext

/-- Only what `validate` admits is planned. -/
theorem plan_validated {state : SpaState} {control : Control} {desired : Value}
    {step : Frame × Value} (h : plan state control desired = .ok step) :
    state.validate control desired = .ok () := by
  unfold plan at h
  split at h
  · cases h
  · assumption

/-- A filter record is written as it is. -/
theorem plan_filters {state : SpaState} {desired : Value} {step : Frame × Value}
    (h : plan state .filters desired = .ok step) :
    ∃ schedule, desired = .filters schedule ∧ step.1 = schedule.frame := by
  have hvalid := plan_validated h
  obtain ⟨schedule, rfl⟩ := validate_filters_ok hvalid
  unfold plan at h
  rw [hvalid] at h
  exact ⟨schedule, rfl, (congrArg Prod.fst (Except.ok.inj h)).symm⟩

/-- **Every planned step changes the control.** If `plan` succeeds while the
    observed value is not the desired one, the expected value is not the
    observed one either. -/
theorem plan_expected_ne {state : SpaState} {control : Control} {desired value expected : Value}
    {frame : Frame} (h : plan state control desired = .ok (frame, expected))
    (hv : state.value control = some value) (hne : value.pyEq desired = false) :
    value.pyEq expected = false := by
  have hvalid := plan_validated h
  unfold plan at h
  split at h
  · cases h
  · have honce : (control = .normalOperation ∨ control = .soak ∨ control = .ackReminder) →
        expected = .bool true → value.pyEq expected = false := by
      rintro hc rfl
      by_contra hcon
      rw [Bool.not_eq_false] at hcon
      have := Value.pyEq_trans hcon (by rw [Value.pyEq_comm]; exact validate_oneShot hvalid hc)
      rw [hne] at this; cases this
    unfold planValid at h
    split at h
    case h_1 => cases h; exact honce (by simp) rfl
    case h_2 => cases h; exact honce (by simp) rfl
    case h_3 => cases h; exact honce (by simp) rfl
    case h_9 hc1 hc2 hc3 _ _ _ _ _ =>
      exact planToggle_expected_ne h ⟨hc1, hc2, hc3⟩ hv
    -- the remaining controls are set to the desired value in one step
    all_goals
      repeat' split at h
      all_goals first | (cases h; exact hne) | cases h

/-- The `assert` statements of `plan` hold and the toggle item exists, whatever
    the observation and the goal. -/
theorem plan_no_failure (state : SpaState) (control : Control) (desired : Value) :
    plan state control desired ≠ .error .assertion ∧
      plan state control desired ≠ .error .noToggle := by
  unfold plan
  split
  · simp
  · next hvalid =>
    have hgen := fun hc hf => validate_ok hvalid hc hf
    have htoggle : control ≠ .clockTime → control ≠ .filters →
        (ToggleItem.ofControl control).isSome →
        planToggle state control ≠ .error .assertion ∧
          planToggle state control ≠ .error .noToggle := by
      intro hc hf hitem
      unfold planToggle
      split
      · next hnone => simp [hnone] at hitem
      · next hnone => exact absurd hnone (hgen hc hf).2.2
      · repeat' split
        all_goals simp
    cases control
    case clockTime =>
      obtain ⟨i, rfl⟩ := validate_clockTime_ok hvalid
      simp only [planValid]; split <;> simp
    case filters =>
      obtain ⟨schedule, rfl⟩ := validate_filters_ok hvalid
      simp [planValid]
    case target =>
      have htype := (hgen (by decide) (by decide)).1
      cases desired <;> simp [SpaState.validType, Control.isPump, Control.pumpIndex] at htype <;>
        (simp only [planValid, Value.toFloat]; split <;> simp)
    case temperatureUnit =>
      have htype := (hgen (by decide) (by decide)).1
      cases desired <;> simp [SpaState.validType, Control.isPump, Control.pumpIndex] at htype
      simp [planValid]
    case clockFormat =>
      have htype := (hgen (by decide) (by decide)).1
      cases desired <;> simp [SpaState.validType, Control.isPump, Control.pumpIndex] at htype
      simp [planValid]
    case normalOperation | soak | ackReminder => simp [planValid]
    all_goals exact htoggle (by decide) (by decide) rfl

end BalboaRs485
