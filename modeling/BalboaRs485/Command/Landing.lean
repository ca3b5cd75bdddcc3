import BalboaRs485.Command.Admitted

/-!
# Steps that land

What an observation shows once a planned step has done what is expected of it. Of the rest, only
what planning for this control reads stays as it was: a second pump that starts asks Pump 1 for
circulation, and the clock that is set is its own only option.

* `Landed`: what such an observation shows.
* `plan_lands`: every planned step can land.
-/

namespace BalboaRs485

/-- What else than Pump 1 asks for its circulation (lines 176–203). -/
def SpaState.circulationDemand (s : SpaState) : Option CirculationReason :=
  let running (v : Option Value) (states : List PumpState) : Bool :=
    states.any fun p => Value.shows v (.pump p)
  if (List.finRange 6).tail.any fun i => running (s.pumpValue i) [.on, .low, .high] then
    some .otherPump
  else if s.blowerRunning then some .blower
  else if s.status.heatState = .heating then some .heating
  else if s.status.heatMode = .readyInRest ∧ s.belowTarget then some .readyInRest
  else if s.status.filterRunningConsensus.1 = some true ∨
      s.status.filterRunningConsensus.2 = some true then
    some .filtration
  else none

/-- `SpaState` after a step for a control has done what was expected, and nothing else of what
    planning for this control reads has changed. -/
structure Landed (s s' : SpaState) (control : Control) (expected : Value) : Prop where
  shows : Value.shows (s'.value control) expected = true
  safe : s'.safeFor control = s.safeFor control
  /-- The other controls are there after one step. -/
  options : Cyclic control → s'.options control = s.options control
  /-- Only stopping Pump 1 depends on its circulation. -/
  circulation : control = .pump1 → s'.pump1IsCirculation = s.pump1IsCirculation
  demand : control = .pump1 → s'.circulationDemand = s.circulationDemand

/-- Two pumps and a blower, which run as the octets say. -/
def sampleMotors (first second : UInt8) (blower : UInt8) : SpaState :=
  let status := sampleStatus 98 0 true
  { sampleState { status with
      frame :=
        ⟨0xFF, 0xAF, 0x13, status.frame.payload.set 13 blower, by simp [sampleStatus, status]⟩
      pumpsRaw := #v[first, second, 0, 0, 0, 0]
      long := by simp [sampleStatus, status] } 1 1 0 with
    configuration := { sampleConfiguration with
      capabilities :=
        ⟨⟨10, 0xBF, 0x2E, [10, 0, 0, 1, 0, 0], by simp⟩, #v[2, 2, 0, 0, 0, 0], by simp⟩ } }

/-- Pump 1 has gone from off to low speed. -/
example : Landed (sampleMotors 0 0 0) (sampleMotors 1 0 0) .pump1 (.pump .low) := by
  constructor <;> decide +kernel

/-- Pump 2 and the blower have started, and ask Pump 1 for its circulation. -/
example : Landed (sampleMotors 1 0 0) (sampleMotors 1 1 0) .pump2 (.pump .low) ∧
    Landed (sampleMotors 1 1 0) (sampleMotors 1 1 4) .blower (.int 1) ∧
    (sampleMotors 1 0 0).circulationDemand ≠ (sampleMotors 1 1 0).circulationDemand := by
  refine ⟨?_, ?_, by decide +kernel⟩ <;> constructor <;> decide +kernel

/-! ## Observations of a step that has landed -/

section Observations

variable {s s' : SpaState} {control : Control} {v : Value}

theorem SpaState.routineReminder_congr (h1 : s'.status.data 1 = s.status.data 1)
    (h6 : s'.status.data 6 = s.status.data 6) (h18 : s'.status.data 18 = s.status.data 18) :
    s'.status.routineReminder = s.status.routineReminder := by
  unfold StatusMessage.routineReminder StatusMessage.reminderCode
  rw [h1, h6, h18]

theorem SpaState.notificationPermitted_congr (h1 : s'.status.data 1 = s.status.data 1)
    (h6 : s'.status.data 6 = s.status.data 6) (h18 : s'.status.data 18 = s.status.data 18) :
    s'.notificationPermitted = s.notificationPermitted := by
  unfold notificationPermitted StatusMessage.unrecognizedReminderIgnored StatusMessage.reminderCode
  rw [routineReminder_congr h1 h6 h18, h1, h6, h18]

theorem SpaState.unlocked_congr (h9 : s'.status.data 9 = s.status.data 9)
    (h21 : s'.status.data 21 = s.status.data 21) : s'.unlocked = s.unlocked := by
  unfold unlocked
  rw [h9, h21]

/-- A status with another octet. -/
def StatusMessage.withData (m : StatusMessage) (i : ℕ) (octet : UInt8) : StatusMessage :=
  { m with
    frame := { m.frame with
      payload := m.frame.payload.set i octet
      short := by simpa using m.frame.short }
    long := by simpa using m.long }

/-- An observation of that status. -/
def SpaState.withData (s : SpaState) (i : ℕ) (octet : UInt8) : SpaState :=
  { s with status := s.status.withData i octet }

theorem SpaState.data_withData (s : SpaState) {i : ℕ} (hi : i < 23) (octet : UInt8) (j : ℕ) :
    (s.withData i octet).status.data j = if j = i then octet else s.status.data j := by
  have hlen : i < s.status.frame.payload.length := hi.trans_le s.status.long
  unfold withData StatusMessage.withData StatusMessage.data
  dsimp only
  rw [List.getD_eq_getElem?_getD, List.getElem?_set, List.getD_eq_getElem?_getD]
  by_cases hj : i = j
  · subst hj
    simp [hlen]
  · simp [hj, Ne.symm hj]

/-- The octets of the accessories permit nothing. -/
theorem SpaState.safeFor_withData (s : SpaState) {i : ℕ} (hi : i = 13 ∨ i = 15) (octet : UInt8)
    (control : Control) : (s.withData i octet).safeFor control = s.safeFor control := by
  have hkeep : ∀ j, j ≠ 13 → j ≠ 15 → (s.withData i octet).status.data j = s.status.data j := by
    intro j h13 h15
    rw [s.data_withData (by omega), if_neg (by omega)]
  have hpermitted : (s.withData i octet).notificationPermitted = s.notificationPermitted :=
    notificationPermitted_congr (hkeep 1 (by decide) (by decide)) (hkeep 6 (by decide) (by decide))
      (hkeep 18 (by decide) (by decide))
  have hroutine : (s.withData i octet).status.routineReminder = s.status.routineReminder :=
    routineReminder_congr (hkeep 1 (by decide) (by decide)) (hkeep 6 (by decide) (by decide))
      (hkeep 18 (by decide) (by decide))
  have hunlocked : (s.withData i octet).unlocked = s.unlocked :=
    unlocked_congr (hkeep 9 (by decide) (by decide)) (hkeep 21 (by decide) (by decide))
  have havailable : (s.withData i octet).available = s.available := rfl
  unfold safeFor controlsSafe
  rw [hpermitted, hroutine, hunlocked, havailable, hkeep 0 (by decide) (by decide)]

theorem Landed.of_ne (hne : control ≠ .pump1) (hshows : Value.shows (s'.value control) v = true)
    (hsafe : s'.safeFor control = s.safeFor control)
    (hoptions : Cyclic control → s'.options control = s.options control) :
    Landed s s' control v :=
  ⟨hshows, hsafe, hoptions, fun h => absurd h hne, fun h => absurd h hne⟩

/-! ### Pumps -/

/-- An observation of another speed of one pump. -/
def SpaState.withPump (s : SpaState) (index : Fin 6) (raw : UInt8) : SpaState :=
  { s with status := { s.status with pumpsRaw := s.status.pumpsRaw.setIfInBounds index raw } }

theorem SpaState.pumpValue_withPump_of_ne (s : SpaState) {index other : Fin 6}
    (hne : other ≠ index) (raw : UInt8) :
    (s.withPump index raw).pumpValue other = s.pumpValue other := by
  have hraw : (s.withPump index raw).status.pumpsRaw[other] = s.status.pumpsRaw[other] := by
    show (s.status.pumpsRaw.setIfInBounds index raw)[(other : ℕ)] =
      s.status.pumpsRaw[(other : ℕ)]
    exact Vector.getElem_setIfInBounds_ne _ fun h => hne (Fin.ext h.symm)
  have hoptions : (s.withPump index raw).pumpOptions other = s.pumpOptions other := rfl
  unfold pumpValue
  rw [hraw, hoptions]

/-- Every option of a pump can be observed. -/
theorem SpaState.exists_pumpValue (s : SpaState) {index : Fin 6} (h : v ∈ s.pumpOptions index) :
    ∃ raw, (s.withPump index raw).pumpValue index = some v := by
  have hraw : ∀ raw, (s.withPump index raw).status.pumpsRaw[index] = raw := fun raw =>
    Vector.getElem_setIfInBounds_self _
  have hoptions : ∀ raw, (s.withPump index raw).pumpOptions index = s.pumpOptions index :=
    fun _ => rfl
  unfold pumpValue
  simp only [hraw, hoptions]
  unfold pumpOptions at h ⊢
  dsimp only at h ⊢
  split at h
  · next hone =>
    simp only [hone, if_true]
    simp only [List.mem_cons, List.not_mem_nil, or_false] at h
    rcases h with rfl | rfl
    · exact ⟨0, rfl⟩
    · exact ⟨1, rfl⟩
  split at h
  · next hone htwo =>
    simp only [htwo, if_true]
    simp only [List.mem_cons, List.not_mem_nil, or_false] at h
    rcases h with rfl | rfl | rfl
    · exact ⟨0, rfl⟩
    · exact ⟨1, rfl⟩
    · exact ⟨2, rfl⟩
  · cases h

theorem SpaState.value_pump (s : SpaState) : ∀ index : Fin 6,
    s.value (.pump index) = s.pumpValue index ∧ s.options (.pump index) = s.pumpOptions index
  | 0 | 1 | 2 | 3 | 4 | 5 => ⟨rfl, rfl⟩

theorem pump_lands (index : Fin 6) (h : v ∈ s.pumpOptions index) :
    ∃ s', Landed s s' (.pump index) v := by
  obtain ⟨raw, hvalue⟩ := s.exists_pumpValue h
  refine ⟨s.withPump index raw, ?_, rfl, fun _ => ?_, fun _ => rfl, fun hfirst => ?_⟩
  · rw [(SpaState.value_pump _ index).1, hvalue]
    exact Value.pyEq_refl v
  · rw [(SpaState.value_pump _ index).2, (SpaState.value_pump _ index).2]
    rfl
  · -- the other pumps run as before
    have hzero : ∀ i : Fin 6, Control.pump i = .pump1 → i = 0 := by decide
    obtain rfl := hzero index hfirst
    unfold SpaState.circulationDemand
    simp only [show (List.finRange 6).tail = [1, 2, 3, 4, 5] from rfl, List.any_cons,
      List.any_nil, s.pumpValue_withPump_of_ne (by decide : (1 : Fin 6) ≠ 0),
      s.pumpValue_withPump_of_ne (by decide : (2 : Fin 6) ≠ 0),
      s.pumpValue_withPump_of_ne (by decide : (3 : Fin 6) ≠ 0),
      s.pumpValue_withPump_of_ne (by decide : (4 : Fin 6) ≠ 0),
      s.pumpValue_withPump_of_ne (by decide : (5 : Fin 6) ≠ 0)]
    rfl

/-! ### The other controls -/

/-- A cyclic toggle expects one of the options. -/
theorem expected_offered {desired : Value} {frame : Frame} (hc : Cyclic control)
    (h : plan s control desired = .ok (frame, v)) : v ∈ s.options control := by
  rw [plan_cyclic hc (plan_validated h)] at h
  obtain ⟨item, value, -, -, -, ⟨rfl, -, rfl⟩ | hnext⟩ := planToggle_ok h
  · exact List.mem_cons_of_mem _ List.mem_cons_self
  · exact List.mem_of_getElem? hnext

theorem mem_flags {condition : Bool}
    (h : v ∈ SpaState.optionsIf condition [.bool false, .bool true]) :
    condition = true ∧ ∃ b, v = .bool b := by
  obtain ⟨hcondition, hmem⟩ := mem_optionsIf h
  simp only [List.mem_cons, List.not_mem_nil, or_false] at hmem
  rcases hmem with rfl | rfl
  · exact ⟨hcondition, _, rfl⟩
  · exact ⟨hcondition, _, rfl⟩

/-- The flags of the accessories. -/
theorem accessory_lands {mask : UInt8} (hcontrol : control = .mister ∧ mask = 1 ∨
    control = .aux1 ∧ mask = 8 ∨ control = .aux2 ∧ mask = 16) (h : v ∈ s.options control) :
    ∃ s', Landed s s' control v := by
  have hb : ∃ b, v = .bool b := by
    rcases hcontrol with ⟨rfl, -⟩ | ⟨rfl, -⟩ | ⟨rfl, -⟩ <;> exact (mem_flags h).2
  obtain ⟨b, rfl⟩ := hb
  have hne : s.options control ≠ [] := List.ne_nil_of_mem h
  refine ⟨s.withData 15 (if b then mask else 0), .of_ne ?_ ?_ (s.safeFor_withData (Or.inr rfl) _ _)
    fun _ => ?_⟩
  · rcases hcontrol with ⟨rfl, -⟩ | ⟨rfl, -⟩ | ⟨rfl, -⟩ <;> decide
  · have hdata :
        (s.withData 15 (if b then mask else 0)).status.data 15 = if b then mask else 0 := by
      rw [s.data_withData (by decide), if_pos rfl]
    have hopts : (s.withData 15 (if b then mask else 0)).options control ≠ [] := by
      rcases hcontrol with ⟨rfl, -⟩ | ⟨rfl, -⟩ | ⟨rfl, -⟩ <;> exact hne
    rcases hcontrol with ⟨rfl, rfl⟩ | ⟨rfl, rfl⟩ | ⟨rfl, rfl⟩ <;>
    · simp only [SpaState.value]
      rw [if_neg hopts, hdata]
      cases b <;> decide
  · rcases hcontrol with ⟨rfl, -⟩ | ⟨rfl, -⟩ | ⟨rfl, -⟩ <;> rfl

theorem light_lands (hcontrol : control = .light1 ∨ control = .light2) (h : v ∈ s.options control) :
    ∃ s', Landed s s' control v := by
  have hb : ∃ b, v = .bool b := by
    rcases hcontrol with rfl | rfl <;> exact (mem_flags h).2
  obtain ⟨b, rfl⟩ := hb
  have hne : s.options control ≠ [] := List.ne_nil_of_mem h
  let raw : UInt8 := if b then 2 else 0
  refine ⟨{ s with status := { s.status with lightsRaw := (raw, raw) } }, .of_ne ?_ ?_ rfl
    fun _ => ?_⟩
  · rcases hcontrol with rfl | rfl <;> decide
  · have hlight : SpaState.lightValue raw = some (.bool b) := by cases b <;> rfl
    rcases hcontrol with rfl | rfl
    · refine Value.shows_iff.mpr ⟨.bool b, ?_, Value.pyEq_refl _⟩
      exact (if_neg hne).trans hlight
    · refine Value.shows_iff.mpr ⟨.bool b, ?_, Value.pyEq_refl _⟩
      exact (if_neg hne).trans hlight
  · rcases hcontrol with rfl | rfl <;> rfl

theorem blower_lands (h : v ∈ s.options .blower) : ∃ s', Landed s s' .blower v := by
  obtain ⟨-, hmem⟩ := mem_optionsIf h
  obtain ⟨i, hi, rfl⟩ := List.mem_map.mp hmem
  have hlt : i < 4 := by
    have hcount : (s.configuration.capabilities.caps 3 &&& 3).toNat ≤ 3 := by
      rw [UInt8.toNat_and]
      exact Nat.and_le_right
    rw [List.mem_range] at hi
    omega
  have hraw : ∀ i < 4, (pair (UInt8.ofNat (4 * i)) 2).toNat = i := by decide
  have hdata : (s.withData 13 (UInt8.ofNat (4 * i))).status.data 13 = UInt8.ofNat (4 * i) := by
    rw [s.data_withData (by decide), if_pos rfl]
  have hoptions : (s.withData 13 (UInt8.ofNat (4 * i))).options .blower = s.options .blower := rfl
  refine ⟨s.withData 13 (UInt8.ofNat (4 * i)), .of_ne (by decide) ?_
    (s.safeFor_withData (Or.inl rfl) _ _) fun _ => rfl⟩
  refine Value.shows_iff.mpr ⟨.int i, ?_, Value.pyEq_refl _⟩
  simp only [SpaState.value, hdata, hraw i hlt, hoptions]
  rw [if_neg (List.ne_nil_of_mem h), if_pos (Value.pyIn_iff.mpr ⟨_, h, Value.pyEq_refl _⟩)]

/-- `HOLD` and its end, which is `NORMAL_OPERATION`. -/
theorem mode_lands (hcontrol : control = .hold ∨ control = .normalOperation)
    (hsafe : s.safeFor control = true) {b : Bool} (h : .bool b ∈ s.options control) :
    ∃ s', Landed s s' control (.bool b) := by
  obtain ⟨octet, hoctet, hhold, hnormal⟩ : ∃ octet : UInt8, (octet = 0 ∨ octet = 5) ∧
      (control = .hold → decide (octet = 5) = b) ∧
      (control = .normalOperation → decide (octet = 0) = b) := by
    rcases hcontrol with rfl | rfl <;> cases b
    · exact ⟨0, by decide⟩
    · exact ⟨5, by decide⟩
    · exact ⟨5, by decide⟩
    · exact ⟨0, by decide⟩
  have hdata : (s.withData 0 octet).status.data 0 = octet := by
    rw [s.data_withData (by decide), if_pos rfl]
  have hkeep : ∀ j, j ≠ 0 → (s.withData 0 octet).status.data j = s.status.data j := by
    intro j hj
    rw [s.data_withData (by decide), if_neg hj]
  have hpermitted : (s.withData 0 octet).notificationPermitted = s.notificationPermitted :=
    SpaState.notificationPermitted_congr (hkeep 1 (by decide)) (hkeep 6 (by decide))
      (hkeep 18 (by decide))
  have hunlocked : (s.withData 0 octet).unlocked = s.unlocked :=
    SpaState.unlocked_congr (hkeep 9 (by decide)) (hkeep 21 (by decide))
  have havailable : (s.withData 0 octet).available = s.available := rfl
  refine ⟨s.withData 0 octet, .of_ne ?_ ?_ ?_ fun hc => ?_⟩
  · rcases hcontrol with rfl | rfl <;> decide
  · rcases hcontrol with rfl | rfl
    · simp only [SpaState.value, hdata, if_pos hoctet, hhold rfl]
      exact Value.pyEq_refl _
    · simp only [SpaState.value, hdata, if_pos hoctet, hnormal rfl]
      exact Value.pyEq_refl _
  · -- in both modes the same is required of the rest
    rw [hsafe]
    unfold SpaState.safeFor SpaState.controlsSafe at hsafe ⊢
    rw [hdata, hpermitted, hunlocked, havailable]
    rcases hcontrol with rfl | rfl <;> rcases hoctet with rfl | rfl <;> simp at hsafe ⊢ <;> grind
  · rcases hcontrol with rfl | rfl
    · have hmodes : (decide (octet = 0 ∨ octet = 5)) = true := decide_eq_true hoctet
      simp only [SpaState.options, hdata, hmodes, (mem_optionsIf h).1]
    · exact absurd rfl hc.2.1

theorem soak_lands (h : .bool true ∈ s.options .soak) : ∃ s', Landed s s' .soak (.bool true) := by
  obtain ⟨hpumps, -⟩ := mem_optionsIf h
  let s' : SpaState := { s with status := { s.status with pumpsRaw := Vector.replicate 6 0 } }
  refine ⟨s', .of_ne (by decide) ?_ rfl fun hc => absurd rfl hc.2.2.1⟩
  have hoff : ∀ index : Fin 6, s.configuration.capabilities.pumpsRaw[index] ≠ 0 →
      s'.pumpValue index = some (.pump .off) := by
    intro index hfitted
    have hmem : s.configuration.capabilities.pumpsRaw[index] ∈
        s.configuration.capabilities.pumpsRaw.toList := by
      rw [Vector.mem_toList_iff]
      exact Vector.getElem_mem index.isLt
    have hknown := List.all_eq_true.mp (of_decide_eq_true hpumps).2 _ hmem
    have hraw : s'.status.pumpsRaw[index] = 0 := Vector.getElem_replicate _
    have hoptions : s'.pumpOptions index = s.pumpOptions index := rfl
    unfold SpaState.pumpValue
    rw [hraw, hoptions]
    unfold SpaState.pumpOptions
    rcases of_decide_eq_true hknown with hzero | hone | htwo
    · exact absurd hzero hfitted
    · simp [hone]
    · simp [htwo]
  have hvalues : ∀ v ∈ ((List.finRange 6).filter fun i =>
      s.configuration.capabilities.pumpsRaw[i] ≠ 0).map s'.pumpValue, v = some (.pump .off) := by
    intro v hv
    obtain ⟨index, hindex, rfl⟩ := List.mem_map.mp hv
    exact hoff index (of_decide_eq_true (List.mem_filter.mp hindex).2)
  have hvalue : s'.value .soak = some (.bool true) := by
    simp only [SpaState.value]
    rw [if_neg (List.ne_nil_of_mem h : s'.options .soak ≠ []), if_neg, List.all_eq_true.mpr]
    · intro v hv
      rw [hvalues v hv]
      decide
    · rw [List.any_eq_true]
      rintro ⟨v, hv, hnone⟩
      rw [hvalues v hv] at hnone
      cases hnone
  exact Value.shows_iff.mpr ⟨_, hvalue, Value.pyEq_refl _⟩

/-- No reminder is shown, and nothing else forbids a control. -/
theorem acknowledged_lands (hsafe : s.safeFor .ackReminder = true) :
    ∃ s', Landed s s' .ackReminder (.bool true) := by
  have hdata : ∀ j, (s.withData 1 0).status.data j = if j = 1 then 0 else s.status.data j :=
    s.data_withData (by decide) 0
  have hcode : (s.withData 1 0).status.reminderCode = none := by
    unfold StatusMessage.reminderCode
    rw [hdata, if_pos rfl]
    rfl
  have hreminder : (s.withData 1 0).status.reminder = .none := by
    unfold StatusMessage.reminder
    rw [hcode]
  refine ⟨s.withData 1 0, .of_ne (by decide) ?_ ?_ fun hc => absurd rfl hc.2.2.2⟩
  · simp only [SpaState.value, SpaState.options, hreminder]
    rfl
  · have hpermitted : (s.withData 1 0).notificationPermitted = true := by
      unfold SpaState.notificationPermitted
      rw [hdata, if_pos rfl]
      exact decide_eq_true (Or.inl rfl)
    have hunlocked : (s.withData 1 0).unlocked = s.unlocked :=
      SpaState.unlocked_congr (hdata 9) (hdata 21)
    have hmode : (s.withData 1 0).status.data 0 = s.status.data 0 := hdata 0
    have havailable : (s.withData 1 0).available = s.available := rfl
    rw [hsafe]
    unfold SpaState.safeFor SpaState.controlsSafe at hsafe ⊢
    rw [hmode, hpermitted, hunlocked, havailable]
    simp at hsafe ⊢
    grind

theorem clockTime_lands {minute : ℤ} (h : 0 ≤ minute ∧ minute < 1440) :
    ∃ s', Landed s s' .clockTime (.int minute) := by
  obtain ⟨n, rfl⟩ := Int.eq_ofNat_of_zero_le h.1
  have hn : n < 1440 := by omega
  refine ⟨{ s with status := { s.status with
      hour := UInt8.ofNat (n / 60), minute := UInt8.ofNat (n % 60) } },
    .of_ne (by decide) ?_ rfl fun hc => absurd rfl hc.1⟩
  have hhour : (UInt8.ofNat (n / 60)).toNat = n / 60 := by
    rw [UInt8.toNat_ofNat']
    omega
  have hminute : (UInt8.ofNat (n % 60)).toNat = n % 60 := by
    rw [UInt8.toNat_ofNat']
    omega
  have hknown : ¬ (UInt8.ofNat (n / 60) > 23 ∨ UInt8.ofNat (n % 60) > 59) := by
    simp only [gt_iff_lt, UInt8.lt_iff_toNat_lt, hhour, hminute]
    show ¬ (23 < n / 60 ∨ 59 < n % 60)
    omega
  have hday : n / 60 * 60 + n % 60 = n := by omega
  simp only [SpaState.value, StatusMessage.clockKnown, StatusMessage.minuteOfDay, hhour, hminute,
    hknown, hday]
  exact Value.pyEq_refl _

theorem clockFormat_lands (hsafe : s.safeFor .clockFormat = true) (b : Bool) :
    ∃ s', Landed s s' .clockFormat (.bool b) := by
  let octet : UInt8 := if b then 2 else 0
  have hdata : ∀ j, (s.withData 9 octet).status.data j = if j = 9 then octet else s.status.data j :=
    s.data_withData (by decide) octet
  refine ⟨s.withData 9 octet, .of_ne (by decide) ?_ ?_ fun hc => absurd rfl hc.1⟩
  · have hformat : (s.withData 9 octet).status.clock24h = b := by
      unfold StatusMessage.clock24h
      rw [hdata, if_pos rfl]
      cases b <;> decide
    simp only [SpaState.value, hformat]
    exact Value.pyEq_refl _
  · have hpermitted : (s.withData 9 octet).notificationPermitted = s.notificationPermitted :=
      SpaState.notificationPermitted_congr (hdata 1) (hdata 6) (hdata 18)
    have hmode : (s.withData 9 octet).status.data 0 = s.status.data 0 := hdata 0
    have hlock : (s.withData 9 octet).status.data 21 = s.status.data 21 := hdata 21
    have hflags : (s.withData 9 octet).status.data 9 &&& 0xF0 = 0 := by
      rw [hdata, if_pos rfl]
      cases b <;> decide
    have havailable : (s.withData 9 octet).available = s.available := rfl
    rw [hsafe]
    unfold SpaState.safeFor SpaState.controlsSafe SpaState.unlocked at hsafe ⊢
    rw [hmode, hpermitted, hlock, hflags, havailable]
    simp at hsafe ⊢
    grind

theorem target_lands {q : ℚ} (h : v.toFloat = some q) : ∃ s', Landed s s' .target v := by
  refine ⟨{ s with status := { s.status with targetTemperature := some q } },
    .of_ne (by decide) ?_ rfl fun hc => absurd rfl hc.1⟩
  refine Value.shows_iff.mpr ⟨.float q, rfl, ?_⟩
  rw [Value.pyEq_iff, toFloat_eq_some.mp h]
  rfl

/-- The message that shows a schedule. -/
def FilterSchedule.message (schedule : FilterSchedule) : FilterCyclesMessage :=
  ⟨schedule.frame, schedule.first, schedule.second, schedule.valid⟩

theorem filters_land (schedule : FilterSchedule) :
    ∃ s', Landed s s' .filters (.filters schedule) :=
  ⟨{ s with filters := some schedule.message }, .of_ne (by decide) (Value.pyEq_refl _) rfl
    fun hc => absurd rfl hc.1⟩

/-- The one option of a command is `True`. -/
theorem true_offered {desired : Value} (h : s.validate control desired = .ok ())
    (hcontrol : control = .normalOperation ∨ control = .soak ∨ control = .ackReminder) :
    .bool true ∈ s.options control := by
  have hin := (validate_ok h (by rcases hcontrol with rfl | rfl | rfl <;> decide)
    (by rcases hcontrol with rfl | rfl | rfl <;> decide)).2.1
  obtain ⟨w, hw, -⟩ := Value.pyIn_iff.mp hin
  have hone : ∀ c : Bool, w ∈ SpaState.optionsIf c [.bool true] → w = .bool true := by
    intro c hmem
    exact List.mem_singleton.mp (mem_optionsIf hmem).2
  obtain rfl : w = .bool true := by
    rcases hcontrol with rfl | rfl | rfl <;> exact hone _ hw
  exact hw

theorem cyclic_lands (hc : Cyclic control) (hsafe : s.safeFor control = true)
    (h : v ∈ s.options control) : ∃ s', Landed s s' control v := by
  obtain ⟨hitem, hnormal, hsoak, hack⟩ := hc
  cases control <;> simp [ToggleItem.ofControl] at hitem hnormal hsoak hack
  case pump1 => exact pump_lands 0 h
  case pump2 => exact pump_lands 1 h
  case pump3 => exact pump_lands 2 h
  case pump4 => exact pump_lands 3 h
  case pump5 => exact pump_lands 4 h
  case pump6 => exact pump_lands 5 h
  case light1 => exact light_lands (Or.inl rfl) h
  case light2 => exact light_lands (Or.inr rfl) h
  case blower => exact blower_lands h
  case mister => exact accessory_lands (Or.inl ⟨rfl, rfl⟩) h
  case aux1 => exact accessory_lands (Or.inr (Or.inl ⟨rfl, rfl⟩)) h
  case aux2 => exact accessory_lands (Or.inr (Or.inr ⟨rfl, rfl⟩)) h
  case hold =>
    obtain ⟨-, b, rfl⟩ := mem_flags h
    exact mode_lands (Or.inl rfl) hsafe h
  case highRange =>
    have hflag : v ∈ SpaState.optionsIf true [.bool false, .bool true] := h
    obtain ⟨-, b, rfl⟩ := mem_flags hflag
    exact ⟨{ s with status := { s.status with highRange := b } },
      .of_ne (by decide) (Value.pyEq_refl _) rfl fun _ => rfl⟩
  case heatMode =>
    simp only [SpaState.options, List.mem_cons, List.not_mem_nil, or_false] at h
    rcases h with rfl | rfl
    · exact ⟨{ s with status := { s.status with heatMode := .ready } },
        .of_ne (by decide) (Value.pyEq_refl (.mode .ready)) rfl fun _ => rfl⟩
    · exact ⟨{ s with status := { s.status with heatMode := .rest } },
        .of_ne (by decide) (Value.pyEq_refl (.mode .rest)) rfl fun _ => rfl⟩

/-- **Every planned step can land.** -/
theorem plan_lands {desired expected : Value} {frame : Frame}
    (h : plan s control desired = .ok (frame, expected)) :
    ∃ s', Landed s s' control expected := by
  have hvalid := plan_validated h
  have hsafe := safeFor_of_validate hvalid
  by_cases hc : Cyclic control
  · exact cyclic_lands hc hsafe (expected_offered hc h)
  unfold plan at h
  rw [hvalid] at h
  cases control
  case normalOperation =>
    cases h
    exact mode_lands (Or.inr rfl) hsafe (true_offered hvalid (by simp))
  case soak =>
    cases h
    exact soak_lands (true_offered hvalid (by simp))
  case ackReminder =>
    cases h
    exact acknowledged_lands hsafe
  case clockTime =>
    obtain ⟨i, rfl, hi⟩ := validate_clockTime_range hvalid
    simp only [planValid] at h
    split at h
    · cases h
      exact clockTime_lands hi
    · cases h
  case clockFormat =>
    simp only [planValid] at h
    split at h
    · cases h
      exact clockFormat_lands hsafe _
    · cases h
  case temperatureUnit =>
    simp only [planValid] at h
    split at h
    · next u =>
      cases h
      exact ⟨{ s with status := { s.status with unit := u } },
        .of_ne (by decide) (Value.pyEq_refl _) rfl fun hc => absurd rfl hc.1⟩
    · cases h
  case filters =>
    obtain ⟨schedule, rfl⟩ := validate_filters_ok hvalid
    cases h
    exact filters_land schedule
  case target =>
    simp only [planValid] at h
    split at h
    · next q hq =>
      split at h
      · cases h
        exact target_lands hq
      · cases h
    · cases h
  all_goals exact absurd ⟨by simp [ToggleItem.ofControl], by decide, by decide, by decide⟩ hc

end Observations

end BalboaRs485
