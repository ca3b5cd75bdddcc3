import BalboaRs485.Protocol.Commands

/-!
# Edits of the filter record

Model of `FilterSchedule.update` in `protocol/settings.py`. The arguments are the
integers of a caller, so every bound is a check. An edit writes the whole record; what
makes it an edit of one cycle is `update_other`.

* `update_other`: the cycle that is not edited is copied.
* `update_checked`: the record an edit builds passes the checks of its constructor.
-/

namespace BalboaRs485

/-- The `ValueError`s of `protocol/settings.py`. -/
inductive SettingsError where
  | minute
  | record
  | cycleOne
  | index
  | ambiguous
  | enableFlag
  | readOnly
deriving DecidableEq

/-- The messages of `SettingsError`. -/
def SettingsError.text : SettingsError → String
  | minute => "Time must be whole minutes from midnight, 0..1439"
  | record => "Invalid filter record"
  | cycleOne => "Cycle 1 has no independent enable flag"
  | index => "Cycle index must be 1 or 2"
  | ambiguous => "Equal start/end is ambiguous; 0/24-hour writes are not supported"
  | enableFlag => "Only Cycle 2 has an enable flag"
  | readOnly => "Keep observed 0/24-hour cycles read-only until an explicit end is set"

/-- `_minute` (lines 10–13). -/
def minuteOf (value : ℤ) : Except SettingsError ℕ :=
  if 0 ≤ value ∧ value < 1440 then .ok value.toNat else .error .minute

namespace FilterSchedule

/-- The constructor, which runs `__post_init__` (lines 20–36). -/
def make (first second : FilterCycle) : Except SettingsError FilterSchedule :=
  if hvalid : first.Valid ∧ second.Valid then
    if henabled : first.enabled = true then .ok ⟨first, second, hvalid, henabled⟩
    else .error .cycleOne
  else .error .record

/-- `_cycle` (lines 38–41). -/
def cycle (s : FilterSchedule) (index : ℤ) : Except SettingsError FilterCycle :=
  if index = 1 then .ok s.first else if index = 2 then .ok s.second else .error .index

/-- The cycle that an edit of `index` does not touch. -/
def other (s : FilterSchedule) (index : ℤ) : FilterCycle := if index = 1 then s.second else s.first

end FilterSchedule

namespace FilterCycle

/-- `start` (lines 56–58). -/
def withStart (c : FilterCycle) : Option ℤ → Except SettingsError FilterCycle
  | none => .ok c
  | some start =>
    match minuteOf start with
    | .error e => .error e
    | .ok minute => .ok { c with startHour := minute / 60, startMinute := minute % 60 }

/-- `end` (lines 59–63). -/
def withEnd (c : FilterCycle) : Option ℤ → Except SettingsError FilterCycle
  | none => .ok c
  | some stop =>
    match minuteOf stop with
    | .error e => .error e
    | .ok minute =>
      if ((minute : ℤ) - c.startHour * 60 - c.startMinute) % 1440 = 0 then .error .ambiguous
      else
        .ok { c with
          durationMinutes := (((minute : ℤ) - c.startHour * 60 - c.startMinute) % 1440).toNat }

/-- `enabled` (lines 64–67). -/
def withEnabled (c : FilterCycle) (index : ℤ) : Option Bool → Except SettingsError FilterCycle
  | none => .ok c
  | some enabled => if index = 1 then .error .enableFlag else .ok { c with enabled }

/-- The three changes of one cycle, in their order. -/
def edit (c : FilterCycle) (index : ℤ) (start stop : Option ℤ) (enabled : Option Bool) :
    Except SettingsError FilterCycle :=
  match c.withStart start with
  | .error e => .error e
  | .ok c =>
    match c.withEnd stop with
    | .error e => .error e
    | .ok c => c.withEnabled index enabled

end FilterCycle

namespace FilterSchedule

/-- `update` (lines 47–73). -/
def update (s : FilterSchedule) (index : ℤ) (start stop : Option ℤ) (enabled : Option Bool) :
    Except SettingsError FilterSchedule :=
  match s.cycle index with
  | .error e => .error e
  | .ok cycle =>
    match cycle.edit index start stop enabled with
    | .error e => .error e
    | .ok edited =>
      if (edited.durationMinutes = 0 ∨ edited.durationMinutes = 1440) ∧ edited ≠ cycle then
        .error .readOnly
      else if index = 1 then make edited s.second
      else make s.first edited

theorem make_ok {first second : FilterCycle} {s : FilterSchedule} (h : make first second = .ok s) :
    s.first = first ∧ s.second = second := by
  unfold make at h
  split at h
  · split at h
    · cases h
      exact ⟨rfl, rfl⟩
    · cases h
  · cases h

/-- **An edit copies the cycle it does not edit.** -/
theorem update_other {s s' : FilterSchedule} {index : ℤ} {start stop : Option ℤ}
    {enabled : Option Bool} (h : s.update index start stop enabled = .ok s') :
    s'.other index = s.other index := by
  unfold update at h
  split at h
  · cases h
  split at h
  · cases h
  split at h
  · cases h
  unfold other
  split at h
  · next hindex => rw [if_pos hindex, if_pos hindex, (make_ok h).2]
  · next hindex => rw [if_neg hindex, if_neg hindex, (make_ok h).1]

end FilterSchedule

namespace FilterCycle

theorem minuteOf_ok {value : ℤ} {minute : ℕ} (h : minuteOf value = .ok minute) : minute < 1440 := by
  unfold minuteOf at h
  split at h
  · cases h
    omega
  · cases h

/-- The changes of a cycle keep its bounds, and only Cycle 2 is disabled. -/
theorem edit_valid {c c' : FilterCycle} {index : ℤ} {start stop : Option ℤ} {enabled : Option Bool}
    (h : c.edit index start stop enabled = .ok c') (hv : c.Valid) :
    c'.Valid ∧ (index = 1 → c'.enabled = c.enabled) := by
  have hstart : ∀ {c₁}, c.withStart start = .ok c₁ → c₁.Valid ∧ c₁.enabled = c.enabled := by
    intro c₁ h₁
    unfold withStart at h₁
    split at h₁
    · cases h₁
      exact ⟨hv, rfl⟩
    · split at h₁
      · cases h₁
      · next minute hminute =>
        cases h₁
        have := minuteOf_ok hminute
        have := hv.2.2
        refine ⟨⟨?_, ?_, hv.2.2⟩, rfl⟩
        · show minute / 60 ≤ 23
          omega
        · show minute % 60 ≤ 59
          omega
  have hstop : ∀ {c₁ c₂ : FilterCycle}, c₁.withEnd stop = .ok c₂ → c₁.Valid →
      c₂.Valid ∧ c₂.enabled = c₁.enabled := by
    intro c₁ c₂ h₂ hv₁
    unfold withEnd at h₂
    split at h₂
    · cases h₂
      exact ⟨hv₁, rfl⟩
    · split at h₂
      · cases h₂
      · split at h₂
        · cases h₂
        · cases h₂
          refine ⟨⟨hv₁.1, hv₁.2.1, ?_⟩, rfl⟩
          show Int.toNat (_ % 1440) ≤ 1440
          omega
  unfold edit at h
  split at h
  · cases h
  next c₁ h₁ =>
  obtain ⟨hv₁, he₁⟩ := hstart h₁
  split at h
  · cases h
  next c₂ h₂ =>
  obtain ⟨hv₂, he₂⟩ := hstop h₂ hv₁
  unfold withEnabled at h
  split at h
  · cases h
    exact ⟨hv₂, fun _ => he₂.trans he₁⟩
  · split at h
    · cases h
    · next hindex =>
      cases h
      exact ⟨hv₂, fun h => absurd h hindex⟩

theorem minuteOf_error {value : ℤ} {e : SettingsError} (h : minuteOf value = .error e) :
    e = .minute := by
  unfold minuteOf at h
  split at h
  · cases h
  · cases h
    rfl

/-- The checks an edit of a cycle can fail. -/
theorem edit_error {c : FilterCycle} {index : ℤ} {start stop : Option ℤ} {enabled : Option Bool}
    {e : SettingsError} (h : c.edit index start stop enabled = .error e) :
    e = .minute ∨ e = .ambiguous ∨ e = .enableFlag := by
  unfold edit at h
  split at h
  · next heq =>
    cases h
    unfold withStart at heq
    split at heq
    · cases heq
    · split at heq
      · next hminute =>
        cases heq
        exact Or.inl (minuteOf_error hminute)
      · cases heq
  split at h
  · next heq =>
    cases h
    unfold withEnd at heq
    split at heq
    · cases heq
    · split at heq
      · next hminute =>
        cases heq
        exact Or.inl (minuteOf_error hminute)
      · split at heq
        · cases heq
          exact Or.inr (Or.inl rfl)
        · cases heq
  · unfold withEnabled at h
    split at h
    · cases h
    · split at h
      · cases h
        exact Or.inr (Or.inr rfl)
      · cases h

end FilterCycle

/-- **The record an edit builds passes the checks of its constructor.** -/
theorem FilterSchedule.update_checked (s : FilterSchedule) (index : ℤ) (start stop : Option ℤ)
    (enabled : Option Bool) :
    s.update index start stop enabled ≠ .error .record ∧
      s.update index start stop enabled ≠ .error .cycleOne := by
  have hmake : ∀ first second : FilterCycle, first.Valid → second.Valid → first.enabled = true →
      make first second ≠ .error .record ∧ make first second ≠ .error .cycleOne := by
    intro first second h₁ h₂ he
    unfold make
    rw [dif_pos ⟨h₁, h₂⟩, dif_pos he]
    exact ⟨by simp, by simp⟩
  unfold update
  split
  · next e h =>
    unfold cycle at h
    grind
  next cycle hcycle =>
  split
  · next e h =>
    rcases FilterCycle.edit_error h with rfl | rfl | rfl
    · exact ⟨by simp, by simp⟩
    · exact ⟨by simp, by simp⟩
    · exact ⟨by simp, by simp⟩
  next edited hedited =>
  split
  · exact ⟨by simp, by simp⟩
  have hcycle : (index = 1 ∧ cycle = s.first) ∨ (index ≠ 1 ∧ cycle = s.second) := by
    unfold FilterSchedule.cycle at hcycle
    grind
  obtain ⟨⟨hfirst, hsecond⟩, henabled⟩ := s.valid
  rcases hcycle with ⟨hindex, rfl⟩ | ⟨hindex, rfl⟩
  · obtain ⟨hv, he⟩ := FilterCycle.edit_valid hedited hfirst
    rw [if_pos hindex]
    exact hmake _ _ hv hsecond ((he hindex).trans henabled)
  · obtain ⟨hv, -⟩ := FilterCycle.edit_valid hedited hsecond
    rw [if_neg hindex]
    exact hmake _ _ hfirst hv henabled

end BalboaRs485
