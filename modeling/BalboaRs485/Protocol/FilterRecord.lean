import BalboaRs485.Protocol.Settings
import Mathlib.Tactic.IntervalCases

/-!
# The filter record on the wire

`FilterSchedule.frame` and the `FILTERS` branch of `decode_message` live in different
modules of the source, with bounds of their own. Both describe the same eight bytes.

* `decodeFilters_ok_iff`: the decoder accepts exactly the payloads of the encoder.
* `filter_record_codec`: so the two are inverse to each other.
* `filter_edit`: what an edit changes in the record, and on the wire.
-/

namespace BalboaRs485

/-! ## One cycle -/

/-- The four bytes of a cycle; `flag` is the bit in its hour byte. -/
def FilterCycle.wire (c : FilterCycle) (flag : UInt8) : Bytes :=
  [.ofNat c.startHour ||| flag, .ofNat c.startMinute, .ofNat (c.durationMinutes / 60),
    .ofNat (c.durationMinutes % 60)]

/-- The bit of a cycle that can be off. -/
def enableBit (enabled : Bool) : UInt8 := if enabled then 0x80 else 0

/-- Cycle 1 has no bit, Cycle 2 has one. -/
theorem FilterSchedule.frame_payload (s : FilterSchedule) :
    s.frame.payload = s.first.wire 0 ++ s.second.wire (enableBit s.second.enabled) := by
  simp [FilterSchedule.frame, FilterCycle.wire, enableBit]

theorem toNat_hour {hour : ℕ} (h : hour ≤ 23) (enabled : Bool) :
    (UInt8.ofNat hour ||| enableBit enabled).toNat = hour + if enabled then 128 else 0 := by
  interval_cases hour <;> cases enabled <;> rfl

theorem toNat_small {n : ℕ} (h : n < 256) : (UInt8.ofNat n).toNat = n := by
  rw [UInt8.toNat_ofNat']
  omega

/-- The hour byte from its two parts. -/
theorem hour_of_parts {octet : UInt8} (h : octet.toNat % 128 ≤ 23) :
    UInt8.ofNat (octet.toNat % 128) ||| enableBit (128 ≤ octet.toNat) = octet := by
  apply UInt8.toNat_inj.mp
  rw [toNat_hour h]
  have := octet.toNat_lt
  split
  · next htop =>
    have := of_decide_eq_true htop
    omega
  · next htop =>
    have := of_decide_eq_false (Bool.not_eq_true _ ▸ htop)
    omega

/-! ## The whole record -/

namespace FilterSchedule

/-- Decoding the bytes of a record gives its cycles. -/
theorem filterCyclesOf_frame (s : FilterSchedule) :
    filterCyclesOf s.frame.payload = (s.first, s.second) := by
  obtain ⟨⟨⟨hh₁, hm₁, hd₁⟩, hh₂, hm₂, hd₂⟩, he⟩ := s.valid
  have hhour := toNat_hour hh₂ s.second.enabled
  have hfirst : (⟨s.first.startHour, s.first.startMinute,
      s.first.durationMinutes / 60 * 60 + s.first.durationMinutes % 60, true⟩ : FilterCycle) =
      s.first := by
    rw [Nat.div_add_mod']
    exact (congrArg (FilterCycle.mk _ _ _) he).symm
  have hsecond : (⟨s.second.startHour, s.second.startMinute,
      s.second.durationMinutes / 60 * 60 + s.second.durationMinutes % 60, s.second.enabled⟩ :
        FilterCycle) = s.second := by
    rw [Nat.div_add_mod']
  -- The hour and the flag come apart again.
  have hlow : (s.second.startHour + if s.second.enabled then 128 else 0) % 128 =
      s.second.startHour := by
    split <;> omega
  have hflag : decide (128 ≤ s.second.startHour + if s.second.enabled then 128 else 0) =
      s.second.enabled := by
    cases henabled : s.second.enabled
    · simpa using by omega
    · simp
  rw [frame_payload]
  simp only [filterCyclesOf, FilterCycle.wire, UInt8.or_zero, List.cons_append, List.nil_append,
    List.getD_cons_zero, List.getD_cons_succ, hhour, hlow, hflag]
  rw [toNat_small (by omega), toNat_small (by omega), toNat_small (by omega),
    toNat_small (by omega), toNat_small (by omega), toNat_small (by omega),
    toNat_small (by omega), hfirst, hsecond]

theorem frame_injective {s s' : FilterSchedule} (h : s.frame.payload = s'.frame.payload) :
    s = s' := by
  have hcycles := s.filterCyclesOf_frame
  rw [h, filterCyclesOf_frame, Prod.mk.injEq] at hcycles
  cases s
  cases s'
  simp_all

end FilterSchedule

/-- Eight bytes, by name. -/
theorem exists_of_length_eight {data : Bytes} (h : data.length = 8) :
    ∃ a b c d e f g k, data = [a, b, c, d, e, f, g, k] := by
  rcases data with _ | ⟨a, _ | ⟨b, _ | ⟨c, _ | ⟨d, _ | ⟨e, _ | ⟨f, _ | ⟨g, _ | ⟨k, _ | t⟩⟩⟩⟩⟩⟩⟩⟩ <;>
    simp at h
  exact ⟨a, b, c, d, e, f, g, k, rfl⟩

/-- Encoding what was decoded gives the bytes back. -/
theorem frame_of_filterCycles {data : Bytes} {s : FilterSchedule} (hlen : data.length = 8)
    (hs : filterCyclesOf data = (s.first, s.second)) (h3 : (data.getD 3 0).toNat ≤ 59)
    (h7 : (data.getD 7 0).toNat ≤ 59) : s.frame.payload = data := by
  obtain ⟨a, b, c, d, e, f, g, k, rfl⟩ := exists_of_length_eight hlen
  simp only [filterCyclesOf, List.getD_cons_zero, List.getD_cons_succ, Prod.mk.injEq] at hs h3 h7
  obtain ⟨hfirst, hsecond⟩ := hs
  have hhour : e.toNat % 128 ≤ 23 := by
    have := s.valid.1.2.1
    rw [← hsecond] at this
    exact this
  rw [FilterSchedule.frame_payload, ← hfirst, ← hsecond]
  have hdiv₁ : (c.toNat * 60 + d.toNat) / 60 = c.toNat := by omega
  have hmod₁ : (c.toNat * 60 + d.toNat) % 60 = d.toNat := by omega
  have hdiv₂ : (g.toNat * 60 + k.toNat) / 60 = g.toNat := by omega
  have hmod₂ : (g.toNat * 60 + k.toNat) % 60 = k.toNat := by omega
  simp only [FilterCycle.wire, hdiv₁, hmod₁, hdiv₂, hmod₂, UInt8.ofNat_toNat, UInt8.or_zero,
    hour_of_parts hhour, List.cons_append, List.nil_append]

/-- **The decoder accepts exactly the payloads of the encoder.** -/
theorem decodeFilters_ok_iff (frame : Frame) (message : Message) :
    decodeFilters frame = .ok message ↔
      ∃ s : FilterSchedule, s.frame.payload = frame.payload ∧
        message = .filterCycles ⟨frame, s.first, s.second, s.valid⟩ := by
  unfold decodeFilters
  dsimp only
  constructor
  · intro h
    split at h
    · next hchecks =>
      cases h
      obtain ⟨hlen, hvalid, h3, h7⟩ := hchecks
      exact ⟨⟨_, _, hvalid, rfl⟩, frame_of_filterCycles hlen rfl h3 h7, rfl⟩
    · cases h
  · rintro ⟨s, hpayload, rfl⟩
    have hcycles := s.filterCyclesOf_frame
    obtain ⟨⟨⟨-, -, hd₁⟩, -, -, hd₂⟩, -⟩ := s.valid
    have h3 : (s.frame.payload.getD 3 0).toNat ≤ 59 := by
      have hbyte : s.frame.payload.getD 3 0 = .ofNat (s.first.durationMinutes % 60) := rfl
      rw [hbyte, toNat_small (by omega)]
      omega
    have h7 : (s.frame.payload.getD 7 0).toNat ≤ 59 := by
      have hbyte : s.frame.payload.getD 7 0 = .ofNat (s.second.durationMinutes % 60) := rfl
      rw [hbyte, toNat_small (by omega)]
      omega
    rw [hpayload] at hcycles h3 h7
    have hlen : frame.payload.length = 8 := by
      rw [← hpayload]
      rfl
    have hchecks : frame.payload.length = 8 ∧
        ((filterCyclesOf frame.payload).1.Valid ∧ (filterCyclesOf frame.payload).2.Valid) ∧
          (frame.payload.getD 3 0).toNat ≤ 59 ∧ (frame.payload.getD 7 0).toNat ≤ 59 := by
      rw [hcycles]
      exact ⟨hlen, s.valid.1, h3, h7⟩
    rw [dif_pos hchecks]
    simp only [hcycles]

theorem decodeFilters_error {frame : Frame} {e : MessageDecodeError}
    (h : decodeFilters frame = .error e) : e = .filters := by
  unfold decodeFilters at h
  dsimp only at h
  split at h
  · cases h
  · cases h
    rfl

/-- The signature of a filter record. -/
theorem decodeMessage_filters {frame : Frame} {responseAddress : UInt8}
    (haddress : frame.address = responseAddress) (hfamily : frame.family = 0xBF)
    (htype : frame.messageType = 0x23) (readyAddress : UInt8) :
    decodeMessage frame responseAddress readyAddress = decodeFilters frame := by
  unfold decodeMessage
  rw [if_neg (by simp [htype]), if_pos ⟨⟨haddress, hfamily⟩, htype⟩]

/-- **The record codec is a bijection**: decoding what was encoded gives the cycles, encoding
    what was decoded gives the payload, and every other payload is refused. -/
theorem filter_record_codec :
    (∀ (s : FilterSchedule) (responseAddress readyAddress : UInt8), ∃ m,
      decodeMessage (s.frame.readdress responseAddress) responseAddress readyAddress =
          .ok (.filterCycles m) ∧
        m.first = s.first ∧ m.second = s.second) ∧
    ∀ (frame : Frame) (responseAddress readyAddress : UInt8), frame.address = responseAddress →
      frame.family = 0xBF → frame.messageType = 0x23 →
      (∃ m, decodeMessage frame responseAddress readyAddress = .ok (.filterCycles m) ∧
        FilterSchedule.make m.first m.second = .ok m.schedule ∧
        m.schedule.frame.payload = frame.payload) ∨
      (decodeMessage frame responseAddress readyAddress = .error .filters ∧
        ∀ s : FilterSchedule, s.frame.payload ≠ frame.payload) := by
  constructor
  · intro s responseAddress readyAddress
    refine ⟨⟨s.frame.readdress responseAddress, s.first, s.second, s.valid⟩, ?_, rfl, rfl⟩
    have hdecode : decodeMessage (s.frame.readdress responseAddress) responseAddress readyAddress =
        decodeFilters (s.frame.readdress responseAddress) :=
      decodeMessage_filters rfl rfl rfl readyAddress
    rw [hdecode, decodeFilters_ok_iff]
    exact ⟨s, rfl, rfl⟩
  · intro frame responseAddress readyAddress haddress hfamily htype
    rw [decodeMessage_filters haddress hfamily htype]
    cases hdecode : decodeFilters frame with
    | ok message =>
      obtain ⟨s, hpayload, rfl⟩ := (decodeFilters_ok_iff _ _).mp hdecode
      refine Or.inl ⟨_, rfl, ?_, hpayload⟩
      unfold FilterSchedule.make
      rw [dif_pos s.valid.1, dif_pos s.valid.2]
      rfl
    | error e =>
      obtain rfl := decodeFilters_error hdecode
      refine Or.inr ⟨rfl, fun s hpayload => ?_⟩
      have hok := (decodeFilters_ok_iff frame _).mpr ⟨s, hpayload, rfl⟩
      rw [hdecode] at hok
      cases hok

/-! ## Edits -/

/-- The minute of the day a cycle starts at. -/
def FilterCycle.startsAt (c : FilterCycle) : ℕ := c.startHour * 60 + c.startMinute

/-- The minute of the day a cycle ends at. -/
def FilterCycle.endsAt (c : FilterCycle) : ℕ := (c.startsAt + c.durationMinutes) % 1440

/-- `end` (lines 43–45). -/
def FilterSchedule.endOf (s : FilterSchedule) (index : ℤ) : Except SettingsError ℕ :=
  match s.cycle index with
  | .error e => .error e
  | .ok cycle => .ok cycle.endsAt

/-- What the arguments of an edit say about a cycle before and after it. -/
structure FilterCycle.Edited (c c' : FilterCycle) (index : ℤ) (start stop : Option ℤ)
    (enabled : Option Bool) : Prop where
  starts : ∀ minute ∈ start, (c'.startsAt : ℤ) = minute
  startKept : start = none → c'.startHour = c.startHour ∧ c'.startMinute = c.startMinute
  ends : ∀ minute ∈ stop, (c'.endsAt : ℤ) = minute
  durationKept : stop = none → c'.durationMinutes = c.durationMinutes
  flag : ∀ b ∈ enabled, index ≠ 1 ∧ c'.enabled = b
  flagKept : enabled = none → c'.enabled = c.enabled

namespace FilterCycle

variable {c c' : FilterCycle} {index : ℤ} {start stop : Option ℤ} {enabled : Option Bool}

theorem minuteOf_eq {value : ℤ} {minute : ℕ} (h : minuteOf value = .ok minute) :
    (minute : ℤ) = value := by
  unfold minuteOf at h
  split at h
  · cases h
    omega
  · cases h

theorem withStart_ok (h : c.withStart start = .ok c') :
    (∀ minute ∈ start, (c'.startsAt : ℤ) = minute) ∧
      (start = none → c'.startHour = c.startHour ∧ c'.startMinute = c.startMinute) ∧
      c'.durationMinutes = c.durationMinutes ∧ c'.enabled = c.enabled := by
  unfold withStart at h
  split at h
  · cases h
    exact ⟨by simp, fun _ => ⟨rfl, rfl⟩, rfl, rfl⟩
  · split at h
    · cases h
    · next value minute hminute =>
      cases h
      refine ⟨?_, by simp, rfl, rfl⟩
      intro other hother
      cases hother
      rw [← minuteOf_eq hminute]
      exact congrArg Nat.cast (Nat.div_add_mod' minute 60)

/-- The new duration leads from the start, old or new, to the wanted end. -/
theorem withEnd_ok (h : c.withEnd stop = .ok c') :
    (∀ minute ∈ stop, (c'.endsAt : ℤ) = minute) ∧
      (stop = none → c'.durationMinutes = c.durationMinutes) ∧
      c'.startHour = c.startHour ∧ c'.startMinute = c.startMinute ∧ c'.enabled = c.enabled := by
  unfold withEnd at h
  split at h
  · cases h
    exact ⟨by simp, fun _ => rfl, rfl, rfl, rfl⟩
  · split at h
    · cases h
    · next value minute hminute =>
      split at h
      · cases h
      · cases h
        refine ⟨?_, by simp, rfl, rfl, rfl⟩
        intro other hother
        cases hother
        have hlt := minuteOf_ok hminute
        rw [← minuteOf_eq hminute]
        simp only [endsAt, startsAt]
        omega

theorem withEnabled_ok (h : c.withEnabled index enabled = .ok c') :
    (∀ b ∈ enabled, index ≠ 1 ∧ c'.enabled = b) ∧ (enabled = none → c'.enabled = c.enabled) ∧
      c'.startHour = c.startHour ∧ c'.startMinute = c.startMinute ∧
      c'.durationMinutes = c.durationMinutes := by
  unfold withEnabled at h
  split at h
  · cases h
    exact ⟨by simp, fun _ => rfl, rfl, rfl, rfl⟩
  · split at h
    · cases h
    · next hindex =>
      cases h
      refine ⟨?_, by simp, rfl, rfl, rfl⟩
      intro b hb
      cases hb
      exact ⟨hindex, rfl⟩

/-- The three changes together: the end is reached from the new start. -/
theorem edit_ok (h : c.edit index start stop enabled = .ok c') :
    c.Edited c' index start stop enabled := by
  unfold edit at h
  split at h
  · cases h
  next c₁ h₁ =>
  split at h
  · cases h
  next c₂ h₂ =>
  obtain ⟨hstarts, hstart, hduration₁, henabled₁⟩ := withStart_ok h₁
  obtain ⟨hends, hduration, hhour₂, hminute₂, henabled₂⟩ := withEnd_ok h₂
  obtain ⟨hflag, hkept, hhour₃, hminute₃, hduration₃⟩ := withEnabled_ok h
  have hstartsAt : c'.startsAt = c₁.startsAt := by
    unfold startsAt
    rw [hhour₃, hminute₃, hhour₂, hminute₂]
  have hendsAt : c'.endsAt = c₂.endsAt := by
    unfold endsAt startsAt
    rw [hhour₃, hminute₃, hduration₃]
  constructor
  · intro minute hm
    rw [hstartsAt, hstarts minute hm]
  · intro hnone
    rw [hhour₃, hhour₂, hminute₃, hminute₂]
    exact hstart hnone
  · intro minute hm
    rw [hendsAt, hends minute hm]
  · intro hnone
    rw [hduration₃, hduration hnone, hduration₁]
  · exact hflag
  · intro hnone
    rw [hkept hnone, henabled₂, henabled₁]

end FilterCycle

namespace FilterSchedule

variable {s s' : FilterSchedule} {index : ℤ} {start stop : Option ℤ} {enabled : Option Bool}

/-- What an accepted edit makes of the cycle it edits. -/
theorem update_cycle (h : s.update index start stop enabled = .ok s') :
    ∃ c c', s.cycle index = .ok c ∧ s'.cycle index = .ok c' ∧
      c.Edited c' index start stop enabled ∧
      (c' ≠ c → 1 ≤ c'.durationMinutes ∧ c'.durationMinutes ≤ 1439) := by
  unfold update at h
  split at h
  · cases h
  next c hcycle =>
  split at h
  · cases h
  next c' hedit =>
  split at h
  · cases h
  next hwritable =>
  have hvalid : c.Valid := by
    unfold cycle at hcycle
    split at hcycle
    · cases hcycle
      exact s.valid.1.1
    · split at hcycle
      · cases hcycle
        exact s.valid.1.2
      · cases hcycle
  have hcycle' : s'.cycle index = .ok c' := by
    unfold cycle
    unfold cycle at hcycle
    split at h
    · next hindex => rw [if_pos hindex, (make_ok h).1]
    · next hindex =>
      rw [if_neg hindex] at hcycle ⊢
      split at hcycle
      · next htwo => rw [if_pos htwo, (make_ok h).2]
      · cases hcycle
  refine ⟨c, c', hcycle, hcycle', FilterCycle.edit_ok hedit, fun hne => ?_⟩
  -- A changed cycle of 0 or 24 hours has been refused, and nothing is longer.
  have hlong := (FilterCycle.edit_valid hedit hvalid).1.2.2
  have hread : ¬ (c'.durationMinutes = 0 ∨ c'.durationMinutes = 1440) :=
    fun hd => hwritable ⟨hd, hne⟩
  omega

/-- The bytes of a record on the wire, cycle by cycle. -/
theorem frame_halves (s : FilterSchedule) :
    s.frame.payload.take 4 = s.first.wire 0 ∧
      s.frame.payload.drop 4 = s.second.wire (enableBit s.second.enabled) := by
  rw [frame_payload]
  exact ⟨rfl, rfl⟩

theorem cycle_ok {c : FilterCycle} (h : s.cycle index = .ok c) : index = 1 ∨ index = 2 := by
  unfold cycle at h
  split at h
  · next hindex => exact Or.inl hindex
  · split at h
    · next hindex => exact Or.inr hindex
    · cases h

/-- An edit keeps the four bytes of the other cycle. -/
theorem update_bytes (h : s.update index start stop enabled = .ok s') :
    (index = 1 → s'.frame.payload.drop 4 = s.frame.payload.drop 4) ∧
      (index = 2 → s'.frame.payload.take 4 = s.frame.payload.take 4) := by
  have hother := update_other h
  constructor
  · rintro rfl
    have hsecond : s'.second = s.second := hother
    rw [s.frame_halves.2, s'.frame_halves.2, hsecond]
  · rintro rfl
    have hfirst : s'.first = s.first := hother
    rw [s.frame_halves.1, s'.frame_halves.1, hfirst]

end FilterSchedule

/-- Filter records come from one signature only. -/
theorem decodeMessage_filterCycles {frame : Frame} {responseAddress readyAddress : UInt8}
    {m : FilterCyclesMessage}
    (h : decodeMessage frame responseAddress readyAddress = .ok (.filterCycles m)) :
    decodeFilters frame = .ok (.filterCycles m) ∧ frame.family = 0xBF ∧
      frame.messageType = 0x23 := by
  unfold decodeMessage at h
  dsimp only at h
  split at h
  · unfold decodeSetup at h
    dsimp only at h
    split at h <;> cases h
  split at h
  · next hsignature => exact ⟨h, hsignature.1.2, hsignature.2⟩
  split at h
  · split at h <;> cases h
  split at h
  · split at h <;> cases h
  split at h
  · split at h <;> cases h
  split at h
  · split at h <;> cases h
  split at h
  · unfold decodeStatus at h
    dsimp only at h
    split at h <;> cases h
  · cases h

/-- A decoded filter record has the payload of its schedule. -/
theorem frame_of_decoded {frame : Frame} {responseAddress readyAddress : UInt8}
    {m : FilterCyclesMessage}
    (h : decodeMessage frame responseAddress readyAddress = .ok (.filterCycles m)) :
    m.schedule.frame.payload = frame.payload ∧ m.schedule.frame.family = frame.family ∧
      m.schedule.frame.messageType = frame.messageType := by
  obtain ⟨hfilters, hfamily, htype⟩ := decodeMessage_filterCycles h
  obtain ⟨s, hpayload, hm⟩ := (decodeFilters_ok_iff frame _).mp hfilters
  cases hm
  exact ⟨hpayload, hfamily.symm, htype.symm⟩

/-- **An edit changes one cycle**, as its arguments say, and only its bytes on the wire. -/
theorem filter_edit (s : FilterSchedule) (index : ℤ) (start stop : Option ℤ)
    (enabled : Option Bool) :
    ((∃ e, s.update index start stop enabled = .error e) ∨
      ∃ s' c c', s.update index start stop enabled = .ok s' ∧ (index = 1 ∨ index = 2) ∧
        s.cycle index = .ok c ∧ s'.cycle index = .ok c' ∧ s'.other index = s.other index ∧
        c.Edited c' index start stop enabled ∧ s'.endOf index = .ok c'.endsAt ∧
        (c' ≠ c → 1 ≤ c'.durationMinutes ∧ c'.durationMinutes ≤ 1439)) ∧
    ∀ (frame : Frame) (responseAddress readyAddress : UInt8) (m : FilterCyclesMessage)
      (s' : FilterSchedule),
      decodeMessage frame responseAddress readyAddress = .ok (.filterCycles m) → m.schedule = s →
      s.update index start stop enabled = .ok s' →
      s'.frame.family = frame.family ∧ s'.frame.messageType = frame.messageType ∧
      s'.frame.payload.length = frame.payload.length ∧
      (index = 1 → s'.frame.payload.drop 4 = frame.payload.drop 4) ∧
      (index = 2 → s'.frame.payload.take 4 = frame.payload.take 4) := by
  constructor
  · cases h : s.update index start stop enabled with
    | error e => exact Or.inl ⟨e, rfl⟩
    | ok s' =>
      obtain ⟨c, c', hcycle, hcycle', hedited, hduration⟩ := FilterSchedule.update_cycle h
      refine Or.inr ⟨s', c, c', rfl, FilterSchedule.cycle_ok hcycle, hcycle, hcycle',
        FilterSchedule.update_other h, hedited, ?_, hduration⟩
      unfold FilterSchedule.endOf
      rw [hcycle']
  · rintro frame responseAddress readyAddress m s' hdecode rfl hupdate
    obtain ⟨hpayload, hfamily, htype⟩ := frame_of_decoded hdecode
    obtain ⟨hone, htwo⟩ := FilterSchedule.update_bytes hupdate
    rw [← hpayload, ← hfamily, ← htype]
    exact ⟨rfl, rfl, rfl, hone, htwo⟩

end BalboaRs485
