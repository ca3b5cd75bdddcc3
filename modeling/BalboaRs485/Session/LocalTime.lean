import Mathlib.Data.Int.LeastGreatest
import Mathlib.Data.List.Dedup
import Mathlib.Tactic.Linarith

/-!
# Local end times

Model of `session_time.py` for an end time `HH:MM`: the next such time on the wall clock of
a zone, as an instant. Instants are microseconds of UTC, wall times microseconds of a clock
without a zone, both counted from the same midnight.

* `localInstant_ok_iff`: a wall time is turned into an instant if the clock shows it once.
* `nextWall_le`, `nextWall_far`: the wall time that is picked is the next on the face of the
  clock.
* `deadline_next`: the deadline is a future instant at which the clock shows `HH:MM`; it is
  the first one unless the clock is set back over such a time.
-/

namespace BalboaRs485

/-- `timedelta(days=1)`. -/
def oneDay : ℤ := 86400000000

/-- A `tzinfo`: the offset of each instant, and the instant `astimezone(UTC)` finds for a
    wall time and a `fold`. Converting an instant to the zone and back gives it back, with
    the `fold` that `astimezone` has set. -/
structure Zone where
  offset : ℤ → ℤ
  resolve : ℤ → Bool → ℤ
  roundTrip : ∀ u, ∃ fold, resolve (u + offset u) fold = u

namespace Zone

/-- `now.astimezone(zone).replace(tzinfo=None)`. -/
def wall (zone : Zone) (u : ℤ) : ℤ := u + zone.offset u

/-- The wall clock shows this time of day, in microseconds since midnight. -/
def Shows (zone : Zone) (time u : ℤ) : Prop := zone.wall u % oneDay = time

instance (zone : Zone) (time u : ℤ) : Decidable (zone.Shows time u) :=
  inferInstanceAs (Decidable (_ = _))

/-- A zone with one transition, at the instant `at_`: of a wall time that exists twice `fold`
    selects the second, of one that does not exist the offset after the transition. -/
def transition (at_ before after : ℤ) : Zone where
  offset u := if u < at_ then before else after
  resolve w fold :=
    if w < at_ + (if fold then min before after else max before after) then w - before
    else w - after
  roundTrip u := by
    by_cases hu : u < at_
    · refine ⟨false, ?_⟩
      have hmax := le_max_left before after
      simp only [hu, if_true, Bool.false_eq_true, if_false]
      rw [if_pos (by omega)]
      omega
    · refine ⟨true, ?_⟩
      have hmin := min_le_right before after
      simp only [hu, if_true, if_false]
      rw [if_neg (by omega)]
      omega

end Zone

/-- The errors of `deadline` on an end time `HH:MM`. -/
inductive DeadlineError where
  /-- The `ValueError` of `time.fromisoformat`. -/
  | format
  /-- "Local end time is ambiguous or nonexistent; specify a UTC offset". -/
  | ambiguous
  /-- "End datetime must include a UTC offset and be in the future". -/
  | past
deriving DecidableEq

/-- The set `instants`: what a wall time is converted to, if that is converted back to it. -/
def Zone.instants (zone : Zone) (wall : ℤ) : List ℤ :=
  (([false, true].map (zone.resolve wall)).filter fun u => zone.wall u = wall).dedup

/-- `_local_instant` (lines 8–21). -/
def localInstant (zone : Zone) (wall : ℤ) : Except DeadlineError ℤ :=
  match zone.instants wall with
  | [u] => .ok u
  | _ => .error .ambiguous

/-- The number behind two decimal digits. -/
def twoDigits (a b : Char) : Option ℕ :=
  if a.isDigit ∧ b.isDigit then some ((a.toNat - 48) * 10 + (b.toNat - 48)) else none

/-- `time.fromisoformat` on a text `HH:MM`, in microseconds since midnight. -/
def parseTime (text : String) : Option ℤ :=
  match text.toList with
  | [h, h', ':', m, m'] => do
    let hour ← twoDigits h h'
    let minute ← twoDigits m m'
    if hour ≤ 23 ∧ minute ≤ 59 then some ((hour * 60 + minute) * 60000000) else none
  | _ => none

/-- `datetime.combine(local.date(), time)`, or a day later (lines 42–44). Both datetimes are
    of one zone, so that they are compared as wall times. -/
def nextWall (wall time : ℤ) : ℤ :=
  let today := wall / oneDay * oneDay + time
  if today ≤ wall then today + oneDay else today

/-- `deadline` with an end time `HH:MM` (lines 40–50); other end times and durations are left
    out. -/
def deadline (zone : Zone) (now : ℤ) (endTime : String) : Except DeadlineError ℤ :=
  match parseTime endTime with
  | none => .error .format
  | some time =>
    match localInstant zone (nextWall (zone.wall now) time) with
    | .error e => .error e
    | .ok t => if t ≤ now then .error .past else .ok t

/-! ## Wall times -/

/-- The candidates that are kept are all instants with this wall time. -/
theorem mem_instants {zone : Zone} {w u : ℤ} : u ∈ zone.instants w ↔ zone.wall u = w := by
  unfold Zone.instants
  rw [List.mem_dedup, List.mem_filter]
  refine ⟨fun h => by simpa using h.2, fun h => ⟨?_, by simpa using h⟩⟩
  obtain ⟨fold, hfold⟩ := zone.roundTrip u
  have hw : u + zone.offset u = w := h
  rw [hw] at hfold
  rw [← hfold]
  exact List.mem_map.mpr ⟨fold, by cases fold <;> simp, rfl⟩

/-- **A wall time has an instant** if the clock shows it exactly once. -/
theorem localInstant_ok_iff {zone : Zone} {w t : ℤ} :
    localInstant zone w = .ok t ↔ zone.wall t = w ∧ ∀ u, zone.wall u = w → u = t := by
  have hcase : localInstant zone w = .ok t ↔ zone.instants w = [t] := by
    unfold localInstant
    split
    · next u hu => simp [hu]
    · next hno => simpa using hno t
  have hnodup : (zone.instants w).Nodup := List.nodup_dedup _
  rw [hcase]
  constructor
  · intro h
    refine ⟨mem_instants.mp (by simp [h]), fun u hu => ?_⟩
    simpa [h] using mem_instants.mpr hu
  · rintro ⟨ht, hunique⟩
    refine List.perm_singleton.mp
      ((List.perm_ext_iff_of_nodup hnodup (List.nodup_singleton t)).mpr fun u => ?_)
    rw [mem_instants, List.mem_singleton]
    exact ⟨hunique u, fun hu => hu ▸ ht⟩

theorem parseTime_range {text : String} {time : ℤ} (h : parseTime text = some time) :
    0 ≤ time ∧ time < oneDay := by
  unfold parseTime at h
  split at h
  · obtain ⟨hour, -, h⟩ := Option.bind_eq_some_iff.mp h
    obtain ⟨minute, -, h⟩ := Option.bind_eq_some_iff.mp h
    split at h
    · next hrange =>
      obtain rfl := Option.some.inj h
      obtain ⟨hhour, hminute⟩ := hrange
      unfold oneDay
      omega
    · cases h
  · cases h

section Wall

variable {wall time w : ℤ} (h0 : 0 ≤ time) (h1 : time < oneDay)

include h0 h1

theorem nextWall_shows : nextWall wall time % oneDay = time := by
  unfold nextWall oneDay at *
  dsimp only
  split <;> omega

/-- The other wall times with this time of day have passed, or are a day later. -/
theorem nextWall_far (hw : w % oneDay = time) (hne : w ≠ nextWall wall time) :
    w ≤ wall ∨ nextWall wall time + oneDay ≤ w := by
  unfold nextWall oneDay at *
  dsimp only at *
  split at hne <;> split <;> omega

/-- Those that have passed are a day earlier. -/
theorem nextWall_passed (hw : w % oneDay = time) (hle : w ≤ wall) :
    w + oneDay ≤ nextWall wall time := by
  unfold nextWall oneDay at *
  dsimp only
  split <;> omega

end Wall

/-! ## Deadlines -/

/-- A deadline is the only instant with the wall time that is picked, and in the future. -/
theorem deadline_ok {zone : Zone} {now t : ℤ} {endTime : String}
    (h : deadline zone now endTime = .ok t) : ∃ time, parseTime endTime = some time ∧ now < t ∧
      zone.wall t = nextWall (zone.wall now) time ∧
        ∀ u, zone.wall u = nextWall (zone.wall now) time → u = t := by
  unfold deadline at h
  split at h
  · cases h
  next time htime =>
  split at h
  · cases h
  next t' ht' =>
  split at h
  · cases h
  next hfuture =>
  cases h
  obtain ⟨hwall, hunique⟩ := localInstant_ok_iff.mp ht'
  exact ⟨time, htime, not_le.mp hfuture, hwall, hunique⟩

namespace Zone

/-- The clock is never set back by a day or more. -/
def Regular (zone : Zone) : Prop := ∀ u v, u < v → zone.wall u - zone.wall v < oneDay

/-- A zone with one transition is regular, unless that sets the clock back by more than a day. -/
theorem regular_transition {at_ before after : ℤ} (h : before - after ≤ oneDay) :
    (transition at_ before after).Regular := by
  intro u v huv
  simp only [wall, transition]
  split <;> split <;> unfold oneDay at * <;> omega

/-- The next instant that shows the time of day has the wall time that is picked: today's if it is
    later than the clock shows now, tomorrow's otherwise. -/
def NextPicked (zone : Zone) (now time : ℤ) : Prop :=
  ∀ u, now < u → zone.Shows time u → (∀ v, now < v → v < u → ¬ zone.Shows time v) →
    zone.wall u = nextWall (zone.wall now) time

/-- A wall time that has passed, with this time of day, comes again. -/
def Recurs (zone : Zone) (now time : ℤ) : Prop :=
  ∃ u, now < u ∧ zone.wall u ≤ zone.wall now ∧ zone.Shows time u

/-- No earlier instant after `now` shows the time of day. -/
def First (zone : Zone) (now time t : ℤ) : Prop :=
  ∀ u, now < u → u < t → ¬ zone.Shows time u

end Zone

/-- The first instant that shows the time of day is the deadline. -/
theorem first_iff_nextPicked {zone : Zone} {now time t : ℤ} (hfuture : now < t)
    (hshows : zone.Shows time t) (hwall : zone.wall t = nextWall (zone.wall now) time)
    (hunique : ∀ u, zone.wall u = nextWall (zone.wall now) time → u = t) :
    zone.First now time t ↔ zone.NextPicked now time := by
  constructor
  · intro hfirst u hu hushows hufirst
    rcases lt_trichotomy u t with hlt | rfl | hgt
    · exact absurd hushows (hfirst u hu hlt)
    · exact hwall
    · exact absurd hshows (hufirst t hfuture hgt)
  · intro hpicked u hu hut hushows
    obtain ⟨first, ⟨hfirst, hfirstShows⟩, hleast⟩ := Int.exists_least_of_bdd
      (P := fun v => now < v ∧ zone.Shows time v) ⟨now, fun v hv => hv.1.le⟩ ⟨u, hu, hushows⟩
    have hnone : ∀ v, now < v → v < first → ¬ zone.Shows time v :=
      fun v hv hlt hvshows => absurd hlt (not_lt.mpr (hleast v ⟨hv, hvshows⟩))
    have heq := hunique first (hpicked first hfirst hfirstShows hnone)
    have hle := hleast u ⟨hu, hushows⟩
    omega

/-- In a regular zone only a wall time that has passed can come before the deadline. -/
theorem first_iff_not_recurs {zone : Zone} (hregular : zone.Regular) {now time t : ℤ}
    (h0 : 0 ≤ time) (h1 : time < oneDay) (hwall : zone.wall t = nextWall (zone.wall now) time)
    (hunique : ∀ u, zone.wall u = nextWall (zone.wall now) time → u = t) :
    zone.First now time t ↔ ¬ zone.Recurs now time := by
  constructor
  · rintro hfirst ⟨u, hu, hle, hshows⟩
    have hpassed := nextWall_passed h0 h1 hshows hle
    rcases lt_trichotomy u t with hlt | rfl | hgt
    · exact hfirst u hu hlt hshows
    · unfold oneDay at hpassed
      omega
    · -- the clock would have been set back by a day since the deadline
      have hback := hregular t u hgt
      omega
  · intro hno u hu hut hshows
    have hne : zone.wall u ≠ nextWall (zone.wall now) time := fun heq => hut.ne (hunique u heq)
    rcases nextWall_far h0 h1 hshows hne with hle | hlater
    · exact hno ⟨u, hu, hle, hshows⟩
    · have hback := hregular u t hut
      omega

/-- What a deadline `t` guarantees. -/
structure NextOccurrence (zone : Zone) (now time t : ℤ) : Prop where
  future : now < t
  shows : zone.Shows time t
  /-- It is the next occurrence exactly if that has the wall time that is picked. -/
  first_iff : zone.First now time t ↔ zone.NextPicked now time
  /-- In a regular zone, exactly if no such time that has passed comes again. -/
  regular : zone.Regular → (zone.First now time t ↔ ¬ zone.Recurs now time)

/-- **A deadline is a future instant that shows `HH:MM`**, and when it is the next one. -/
theorem deadline_next {zone : Zone} {now t : ℤ} {endTime : String}
    (h : deadline zone now endTime = .ok t) :
    ∃ time, parseTime endTime = some time ∧ NextOccurrence zone now time t := by
  obtain ⟨time, htime, hfuture, hwall, hunique⟩ := deadline_ok h
  obtain ⟨h0, h1⟩ := parseTime_range htime
  have hshows : zone.Shows time t := by
    unfold Zone.Shows
    rw [hwall]
    exact nextWall_shows h0 h1
  exact ⟨time, htime, hfuture, hshows, first_iff_nextPicked hfuture hshows hwall hunique,
    fun hregular => first_iff_not_recurs hregular h0 h1 hwall hunique⟩

/-! ## Daylight saving -/

/-- Helsinki in the autumn of 2026: at 01:00 UTC on October 25 the clock is set back from
    04:00 to 03:00. -/
def helsinki : Zone := .transition 1792890000000000 10800000000 7200000000

/-- The evening before, at 23:00 UTC, 03:30 is ambiguous. -/
example : deadline helsinki 1792882800000000 "03:30" = .error .ambiguous := by decide +kernel

/-- An hour after noon, the next 12:00 is on the next day. -/
theorem deadline_next_sample : ∃ time, parseTime "12:00" = some time ∧
    NextOccurrence helsinki 1792926000000000 time 1793008800000000 :=
  deadline_next (by decide +kernel)

/-- When it is 03:30 for the first time, 03:15 has passed and comes again, but the deadline is
    03:15 of the next day. -/
theorem deadline_skips : deadline helsinki 1792888200000000 "03:15" = .ok 1792977300000000 ∧
    parseTime "03:15" = some 11700000000 ∧
      ¬ helsinki.First 1792888200000000 11700000000 1792977300000000 :=
  ⟨by decide +kernel, by decide +kernel, fun hfirst =>
    hfirst 1792890900000000 (by norm_num) (by norm_num) (by decide +kernel)⟩

end BalboaRs485
