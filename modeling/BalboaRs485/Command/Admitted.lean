import BalboaRs485.Command.Planning

/-!
# Admitted goals

`SpaState.validate` decides whether a goal is admitted; `options`, `value`, `plan` and the
encoders each look at the raw bits for themselves. They agree:

* `encodable`: every option of a directly set control passes its encoder.
* `value_offered`: the observed value of a toggled control is one of its options.
* `plan_ok`: what `validate` admits is planned, without any other error.
-/

namespace BalboaRs485

/-! ## Directly set controls -/

theorem toFloat_eq_some {v : Value} {q : ℚ} : v.toFloat = some q ↔ v.norm = .float q := by
  cases v <;> simp [Value.toFloat, Value.norm]

theorem setTemperature_ok {value : ℚ} {unit : TemperatureUnit}
    (hden : (value * (if unit = .celsius then 2 else 1)).den = 1)
    (hlow : (if unit = .celsius then 10 else 50) ≤ value)
    (hhigh : value ≤ (if unit = .celsius then 40 else 104)) :
    ∃ frame, setTemperature value unit = .ok frame := by
  unfold setTemperature
  dsimp only
  rw [if_neg (by simpa using hden), if_neg (by simpa using ⟨hlow, hhigh⟩)]
  exact ⟨_, rfl⟩

/-- Rounded inward to half degrees, the bounds in Celsius stay between 10 and 40. -/
theorem half_degrees (low high : ℕ) :
    20 ≤ ⌈(((max 50 low : ℕ) : ℚ) - 32) / (9 / 5) * 2⌉ ∧
      ⌊(((min 104 high : ℕ) : ℚ) - 32) / (9 / 5) * 2⌋ ≤ 80 := by
  have hlow : (50 : ℚ) ≤ (max 50 low : ℕ) := by exact_mod_cast le_max_left 50 low
  have hhigh : ((min 104 high : ℕ) : ℚ) ≤ 104 := by exact_mod_cast min_le_left 104 high
  constructor
  · have hle := Int.le_ceil ((((max 50 low : ℕ) : ℚ) - 32) / (9 / 5) * 2)
    have hge : (20 : ℚ) ≤ (((max 50 low : ℕ) : ℚ) - 32) / (9 / 5) * 2 := by linarith
    exact_mod_cast hge.trans hle
  · have hle := Int.floor_le ((((min 104 high : ℕ) : ℚ) - 32) / (9 / 5) * 2)
    have hge : (((min 104 high : ℕ) : ℚ) - 32) / (9 / 5) * 2 ≤ (80 : ℚ) := by linarith
    exact_mod_cast hle.trans hge

theorem setTemperature_celsius {n : ℤ} (h : 20 ≤ n ∧ n ≤ 80) :
    ∃ frame, setTemperature ((n : ℚ) / 2) .celsius = .ok frame := by
  have hlo : (20 : ℚ) ≤ n := by exact_mod_cast h.1
  have hhi : (n : ℚ) ≤ 80 := by exact_mod_cast h.2
  apply setTemperature_ok
  · rw [if_pos rfl, div_mul_cancel₀ _ (by norm_num)]
    exact Rat.den_intCast _
  · rw [if_pos rfl]
    linarith
  · rw [if_pos rfl]
    linarith

theorem setTemperature_fahrenheit {n : ℤ} (h : 50 ≤ n ∧ n ≤ 104) :
    ∃ frame, setTemperature (n : ℚ) .fahrenheit = .ok frame := by
  apply setTemperature_ok
  · rw [if_neg (by decide), mul_one]
    exact Rat.den_intCast _
  · rw [if_neg (by decide)]
    exact_mod_cast h.1
  · rw [if_neg (by decide)]
    exact_mod_cast h.2

/-- Every temperature on offer has the resolution and lies in the envelope of the encoder. -/
theorem targetOptions_encodable {state : SpaState} {v : Value} (h : v ∈ state.targetOptions) :
    ∃ q frame, v.toFloat = some q ∧ setTemperature q state.status.unit = .ok frame := by
  unfold SpaState.targetOptions at h
  split at h
  · simp at h
  next setup _ =>
  dsimp only at h
  generalize (if state.status.highRange = true then setup.highRangeF
    else setup.lowRangeF) = range at h
  obtain ⟨hfirst, hlast⟩ := half_degrees range.1 range.2
  cases hunit : state.status.unit with
  | celsius =>
    rw [if_pos hunit] at h
    obtain ⟨i, hi, rfl⟩ := List.mem_map.mp h
    rw [List.mem_range] at hi
    obtain ⟨frame, hframe⟩ := setTemperature_celsius (n :=
      ⌈(((max 50 range.1 : ℕ) : ℚ) - 32) / (9 / 5) * 2⌉ + i) (by omega)
    exact ⟨_, frame, rfl, hframe⟩
  | fahrenheit =>
    rw [if_neg (by rw [hunit]; decide)] at h
    obtain ⟨i, hi, rfl⟩ := List.mem_map.mp h
    rw [List.mem_range] at hi
    have hn : 50 ≤ ((max 50 range.1 + i : ℕ) : ℤ) ∧ ((max 50 range.1 + i : ℕ) : ℤ) ≤ 104 := by omega
    obtain ⟨frame, hframe⟩ := setTemperature_fahrenheit hn
    exact ⟨_, frame, rfl, hframe⟩

theorem setClock_ok {minute : ℤ} (h : 0 ≤ minute ∧ minute < 1440) (clock24h : Bool) :
    ∃ frame, setClock minute clock24h = .ok frame := by
  unfold setClock
  rw [if_neg (not_not.mpr h)]
  exact ⟨_, rfl⟩

/-- A known clock is a minute of the day. -/
theorem minuteOfDay_lt {m : StatusMessage} (h : m.clockKnown = true) : m.minuteOfDay < 1440 := by
  have hbounds : ¬ (m.hour > 23 ∨ m.minute > 59) := of_decide_eq_true h
  rw [not_or] at hbounds
  have hhour : m.hour.toNat ≤ 23 := UInt8.le_iff_toNat_le.mp (UInt8.not_lt.mp hbounds.1)
  have hminute : m.minute.toNat ≤ 59 := UInt8.le_iff_toNat_le.mp (UInt8.not_lt.mp hbounds.2)
  unfold StatusMessage.minuteOfDay
  omega

/-- The options of a condition are none, or the list. -/
theorem mem_optionsIf {condition : Bool} {options : List Value} {v : Value}
    (h : v ∈ SpaState.optionsIf condition options) : condition = true ∧ v ∈ options := by
  cases condition
  · simp [SpaState.optionsIf] at h
  · exact ⟨rfl, h⟩

/-- **Every option of a directly set control is encodable.** -/
theorem encodable {state : SpaState} {control : Control} {v : Value}
    (h : v ∈ state.options control) (hset : ToggleItem.ofControl control = none) :
    ∃ frame, planValid state control v = .ok (frame, v) := by
  cases control <;> simp [ToggleItem.ofControl] at hset
  case target =>
    obtain ⟨q, frame, hq, hframe⟩ := targetOptions_encodable h
    exact ⟨frame, by simp [planValid, hq, hframe]⟩
  case filters =>
    simp only [SpaState.options, Option.mem_toList] at h
    obtain ⟨m, -, rfl⟩ := Option.map_eq_some_iff.mp h
    exact ⟨_, rfl⟩
  case clockTime =>
    obtain ⟨hknown, hmem⟩ := mem_optionsIf h
    obtain rfl := List.mem_singleton.mp hmem
    have hlt := minuteOfDay_lt hknown
    have hminute : (0 : ℤ) ≤ state.status.minuteOfDay ∧ (state.status.minuteOfDay : ℤ) < 1440 := by
      omega
    obtain ⟨frame, hframe⟩ := setClock_ok hminute state.status.clock24h
    exact ⟨frame, by simp only [planValid, hframe]⟩
  case clockFormat =>
    obtain ⟨-, hmem⟩ := mem_optionsIf h
    simp only [List.mem_cons, List.not_mem_nil, or_false] at hmem
    rcases hmem with rfl | rfl
    · exact ⟨_, rfl⟩
    · exact ⟨_, rfl⟩
  case temperatureUnit =>
    simp only [SpaState.options, List.mem_cons, List.not_mem_nil, or_false] at h
    rcases h with rfl | rfl
    · exact ⟨_, rfl⟩
    · exact ⟨_, rfl⟩

/-! ## Toggled controls -/

/-- The controls that a toggle moves on to the next option. -/
def Cyclic (control : Control) : Prop :=
  ToggleItem.ofControl control ≠ none ∧
    control ≠ .normalOperation ∧ control ≠ .soak ∧ control ≠ .ackReminder

instance (control : Control) : Decidable (Cyclic control) := inferInstanceAs (Decidable (_ ∧ _))

theorem pyIn_of_mem {v : Value} {options : List Value} (h : v ∈ options) : v.pyIn options = true :=
  Value.pyIn_iff.mpr ⟨v, h, Value.pyEq_refl v⟩

/-- A known pump state is one of its options, whatever the raw bits. -/
theorem pumpValue_offered {state : SpaState} {index : Fin 6} {v : Value}
    (h : state.pumpValue index = some v) : v.pyIn (state.pumpOptions index) = true := by
  unfold SpaState.pumpValue at h
  dsimp only at h
  split at h
  · cases h
  split at h
  · next htwo =>
    cases h
    have hlen := htwo.1
    unfold SpaState.pumpOptions at hlen ⊢
    dsimp only at hlen ⊢
    split at hlen
    · next hone =>
      rw [if_pos hone]
      decide
    · split at hlen
      · simp at hlen
      · simp at hlen
  · exact pyIn_of_mem (List.mem_of_getElem? h)

theorem lightValue_offered {raw : UInt8} {v : Value} (h : SpaState.lightValue raw = some v) :
    v ∈ [Value.bool false, Value.bool true] := by
  unfold SpaState.lightValue at h
  split at h
  · cases h
    simp
  · split at h
    · cases h
      simp
    · cases h

/-- A condition with options leaves all of them. -/
theorem optionsIf_of_ne {condition : Bool} {options : List Value}
    (h : SpaState.optionsIf condition options ≠ []) :
    SpaState.optionsIf condition options = options := by
  cases condition
  · exact absurd rfl h
  · rfl

theorem guarded_eq_some {options : List Value} {v : Option Value} {w : Value}
    (h : (if options = [] then none else v) = some w) : v = some w := by
  split at h
  · cases h
  · exact h

/-- **The observed value of a toggled control is one of its options**, but for
    `READY_IN_REST`. -/
theorem value_offered {state : SpaState} {control : Control} {v : Value} (hc : Cyclic control)
    (hopts : state.options control ≠ []) (hv : state.value control = some v) :
    v.pyIn (state.options control) = true ∨
      (control = .heatMode ∧ v.pyEq (.mode .readyInRest) = true) := by
  have hflag : ∀ {condition : Bool} {b : Bool},
      SpaState.optionsIf condition [.bool false, .bool true] ≠ [] →
      (Value.bool b).pyIn (SpaState.optionsIf condition [.bool false, .bool true]) = true := by
    intro condition b hne
    rw [optionsIf_of_ne hne]
    cases b <;> decide
  obtain ⟨hitem, hnormal, hsoak, hack⟩ := hc
  cases control <;> simp [ToggleItem.ofControl] at hitem hnormal hsoak hack
  case pump1 | pump2 | pump3 | pump4 | pump5 | pump6 => exact Or.inl (pumpValue_offered hv)
  case hold =>
    simp only [SpaState.value] at hv
    split at hv
    · cases hv
      exact Or.inl (hflag hopts)
    · cases hv
  case highRange =>
    cases hv
    left
    simp only [SpaState.options]
    cases state.status.highRange <;> decide
  case light1 | light2 =>
    left
    have hmem := lightValue_offered (guarded_eq_some hv)
    simp only [SpaState.options] at hopts ⊢
    rw [optionsIf_of_ne hopts]
    exact pyIn_of_mem hmem
  case blower =>
    have hin := guarded_eq_some hv
    split at hin
    · next hoffered =>
      cases hin
      exact Or.inl hoffered
    · cases hin
  case aux1 | aux2 | mister =>
    cases guarded_eq_some hv
    exact Or.inl (hflag hopts)
  case heatMode =>
    simp only [SpaState.value] at hv
    split at hv
    · cases hv
    · next hknown =>
      cases hv
      simp only [SpaState.options]
      cases hmode : state.status.heatMode with
      | unknown => exact absurd hmode hknown
      | ready => exact Or.inl (by decide)
      | rest => exact Or.inl (by decide)
      | readyInRest => exact Or.inr ⟨trivial, by decide⟩

/-- There is always a next option. -/
theorem nextOption_isSome {options : List Value} (h : options ≠ []) (value : Value) :
    ∃ expected, nextOption options value = some expected := by
  unfold nextOption
  rw [List.getElem?_eq_getElem (Nat.mod_lt _ (List.length_pos_iff.mpr h))]
  exact ⟨_, rfl⟩

theorem planToggle_succeeds {state : SpaState} {control : Control} (hc : Cyclic control)
    (hopts : state.options control ≠ []) (hv : state.value control ≠ none) :
    ∃ step, planToggle state control = .ok step := by
  obtain ⟨item, hitem⟩ := Option.ne_none_iff_exists'.mp hc.1
  obtain ⟨value, hvalue⟩ := Option.ne_none_iff_exists'.mp hv
  obtain ⟨expected, hnext⟩ := nextOption_isSome hopts value
  unfold planToggle
  rw [hitem, hvalue]
  dsimp only
  by_cases hrest : control = .heatMode ∧ value.pyEq (.mode .readyInRest) = true
  · rw [if_pos hrest]
    exact ⟨_, rfl⟩
  · have hoffered : value.pyIn (state.options control) = true :=
      (value_offered hc hopts hvalue).resolve_right hrest
    rw [if_neg hrest, if_neg (not_not.mpr hoffered), hnext]
    exact ⟨_, rfl⟩

theorem options_ne_of_pyIn {v : Value} {options : List Value} (h : v.pyIn options = true) :
    options ≠ [] := by
  rintro rfl
  simp [Value.pyIn] at h

/-- A desired temperature that equals an option is encoded like it. -/
theorem target_encodable {state : SpaState} {desired : Value}
    (h : desired.pyIn (state.options .target) = true) :
    ∃ frame, planValid state .target desired = .ok (frame, desired) := by
  obtain ⟨v, hv, heq⟩ := Value.pyIn_iff.mp h
  obtain ⟨q, frame, hq, hframe⟩ := targetOptions_encodable hv
  rw [Value.pyEq_iff, toFloat_eq_some.mp hq, ← toFloat_eq_some] at heq
  exact ⟨frame, by simp [planValid, heq, hframe]⟩

theorem validate_clockTime_range {state : SpaState} {desired : Value}
    (h : state.validate .clockTime desired = .ok ()) :
    ∃ i, desired = .int i ∧ 0 ≤ i ∧ i < 1440 := by
  unfold SpaState.validate at h
  rw [if_pos rfl] at h
  split at h
  · cases h
  · split at h
    · split at h
      · next hrange => exact ⟨_, rfl, hrange.1, hrange.2.1⟩
      · cases h
    · cases h

/-- The plan of a toggled control is its next toggle. -/
theorem plan_cyclic {state : SpaState} {control : Control} {desired : Value} (hc : Cyclic control)
    (h : state.validate control desired = .ok ()) :
    plan state control desired = planToggle state control := by
  unfold plan
  rw [h]
  obtain ⟨hitem, hnormal, hsoak, hack⟩ := hc
  cases control <;> simp [ToggleItem.ofControl] at hitem hnormal hsoak hack <;> rfl

/-- **What `validate` admits is planned.** -/
theorem plan_ok {state : SpaState} {control : Control} {desired : Value}
    (h : state.validate control desired = .ok ()) :
    ∃ step, plan state control desired = .ok step := by
  by_cases hc : Cyclic control
  · obtain ⟨-, hin, hv⟩ :=
      validate_ok h (by rintro rfl; exact hc.1 rfl) (by rintro rfl; exact hc.1 rfl)
    rw [plan_cyclic hc h]
    exact planToggle_succeeds hc (options_ne_of_pyIn hin) hv
  unfold plan
  rw [h]
  dsimp only
  cases control
  case normalOperation | soak | ackReminder => exact ⟨_, rfl⟩
  case clockTime =>
    obtain ⟨i, rfl, hi⟩ := validate_clockTime_range h
    obtain ⟨frame, hframe⟩ := setClock_ok hi state.status.clock24h
    exact ⟨_, by simp only [planValid, hframe]; rfl⟩
  case filters =>
    obtain ⟨schedule, rfl⟩ := validate_filters_ok h
    exact ⟨_, rfl⟩
  case target =>
    obtain ⟨frame, hframe⟩ := target_encodable (validate_ok h (by decide) (by decide)).2.1
    exact ⟨_, hframe⟩
  case temperatureUnit | clockFormat =>
    have htype := (validate_ok h (by decide) (by decide)).1
    cases desired <;> simp [SpaState.validType, Control.isPump, Control.pumpIndex] at htype
    exact ⟨_, rfl⟩
  all_goals exact absurd ⟨by simp [ToggleItem.ofControl], by decide, by decide, by decide⟩ hc

end BalboaRs485
