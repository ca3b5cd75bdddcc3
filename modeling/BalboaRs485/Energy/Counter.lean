import BalboaRs485.Lib.Maxima
import BalboaRs485.Session.Record
import Mathlib.Algebra.Order.BigOperators.Group.List
import Mathlib.Algebra.Order.Field.Rat

/-!
# The energy counter

Model of `EnergyCounter` in `energy.py`, which prices the time between observations of the
power. The reference prices each unbroken run of observations at once: of those that advance
the clock, the pairs of neighbours.

* `run_eq`: the counter is its reference.
* `stale_ignored`: an observation that does not advance the clock changes nothing.
* `restore_record`: a restored counter has the totals, and no observation to continue from.
* `accounting`: all of this, for every sequence of calls.
-/

namespace BalboaRs485

/-! ## Model -/

/-- What `EnergyCounter` raises. -/
inductive EnergyError where
  /-- `ValueError("Invalid energy observation")`. -/
  | observation
  /-- `ValueError("Invalid energy record")`. -/
  | record
  /-- `ValueError("Invalid energy totals")`. -/
  | totals
deriving DecidableEq

/-- An observation of the power, as `_previous` keeps it. -/
structure Sample where
  now : ℚ
  watts : Option ℚ
  epoch : ℤ
  nonneg : ∀ w ∈ watts, 0 ≤ w
deriving DecidableEq

/-- The attributes of `EnergyCounter` (lines 123–126). -/
structure EnergyCounter where
  kwh : ℚ := 0
  knownSeconds : ℚ := 0
  unknownSeconds : ℚ := 0
  previous : Option Sample := none
deriving DecidableEq

/-- The arguments of `sample`, if they are valid (lines 129–132). -/
def Sample.make (now : Number) (watts : Option Number) (epoch : ℤ) : Option Sample :=
  match now, watts with
  | .finite now, none => some ⟨now, none, epoch, by simp⟩
  | .finite now, some (.finite w) =>
    if h : 0 ≤ w then some ⟨now, some w, epoch, by simpa using h⟩ else none
  | _, _ => none

namespace EnergyCounter

/-- An observation with valid arguments (lines 133–144). -/
def observe (c : EnergyCounter) (s : Sample) : EnergyCounter :=
  match c.previous with
  | none => { c with previous := some s }
  | some p =>
    let seconds := s.now - p.now
    if seconds ≤ 0 then c
    else if seconds ≤ 8 ∧ p.watts ≠ none ∧ s.watts ≠ none ∧ s.epoch = p.epoch then
      { c with
        kwh := c.kwh + p.watts.getD 0 * seconds / 3600000
        knownSeconds := c.knownSeconds + seconds
        previous := some s }
    else { c with unknownSeconds := c.unknownSeconds + seconds, previous := some s }

/-- `sample` (lines 128–144). -/
def sample (c : EnergyCounter) (now : Number) (watts : Option Number) (epoch : ℤ) :
    Except EnergyError EnergyCounter :=
  match Sample.make now watts epoch with
  | none => .error .observation
  | some s => .ok (c.observe s)

/-- `break_interval` (lines 146–148). -/
def breakInterval (c : EnergyCounter) : EnergyCounter := { c with previous := none }

/-- The keys of a record. -/
def fields : List String := ["kwh", "known_seconds", "unknown_seconds"]

/-- `record` (lines 150–155). -/
def record (c : EnergyCounter) : Dict String Stored where
  entries := [("kwh", .float c.kwh), ("known_seconds", .float c.knownSeconds),
    ("unknown_seconds", .float c.unknownSeconds)]
  nodup := show fields.Nodup by decide

/-- A total, if it is a finite number that is not negative (lines 165–168). -/
def totalOf (value : Stored) : Except EnergyError ℚ :=
  match value.number with
  | .ok x => if x < 0 then .error .totals else .ok x
  | .error _ => .error .totals

/-- `restore` (lines 157–170); `none` is an object that is no dictionary. -/
def restore (record : Option (Dict String Stored)) : Except EnergyError EnergyCounter :=
  match record.filter fun record => record.hasKeys fields with
  | none => .error .record
  | some record => do
    let kwh ← totalOf (storedAt record "kwh")
    let knownSeconds ← totalOf (storedAt record "known_seconds")
    let unknownSeconds ← totalOf (storedAt record "unknown_seconds")
    return { kwh, knownSeconds, unknownSeconds }

end EnergyCounter

/-- A call of the counter with valid arguments. -/
inductive EnergyCall where
  | sample (s : Sample)
  | breakInterval
deriving DecidableEq

namespace EnergyCounter

/-- The call. -/
def call (c : EnergyCounter) : EnergyCall → Except EnergyError EnergyCounter
  | .sample s => c.sample (.finite s.now) (s.watts.map .finite) s.epoch
  | .breakInterval => .ok c.breakInterval

/-- The calls, one after the other. -/
def run (c : EnergyCounter) (calls : List EnergyCall) : Except EnergyError EnergyCounter :=
  calls.foldlM call c

/-! ## The reference -/

/-- The observations between breaks. -/
def runs : List EnergyCall → List (List Sample)
  | [] => [[]]
  | .breakInterval :: calls => [] :: runs calls
  | .sample s :: calls => (runs calls).modifyHead (s :: ·)

/-- The same, when the first run goes on from an earlier observation. -/
def runsFrom (previous : Option Sample) (calls : List EnergyCall) : List (List Sample) :=
  (runs calls).modifyHead (previous.toList ++ ·)

/-- The observations of each run that advance the clock. -/
def advancing (previous : Option Sample) (calls : List EnergyCall) : List (List Sample) :=
  (runsFrom previous calls).map (maxima Sample.now)

/-- The time between two observations is priced. -/
def Priced (p q : Sample) : Prop :=
  q.now - p.now ≤ 8 ∧ p.epoch = q.epoch ∧ p.watts.isSome ∧ q.watts.isSome

instance (p q : Sample) : Decidable (Priced p q) := inferInstanceAs (Decidable (_ ∧ _))

/-- What is counted for two neighbours: energy, known and unknown seconds. -/
def priceKwh (p : Sample × Sample) : ℚ :=
  if Priced p.1 p.2 then p.1.watts.getD 0 * (p.2.now - p.1.now) / 3600000 else 0

/-- The seconds between two observations for which the power is known. -/
def priceKnown (p : Sample × Sample) : ℚ := if Priced p.1 p.2 then p.2.now - p.1.now else 0

/-- The other seconds. -/
def priceUnknown (p : Sample × Sample) : ℚ := if Priced p.1 p.2 then 0 else p.2.now - p.1.now

/-- The sum over the neighbours of all runs. -/
def totalOver (price : Sample × Sample → ℚ) (runs : List (List Sample)) : ℚ :=
  (runs.map fun run => ((consecutive run).map price).sum).sum

/-- The last observation to continue from. -/
def lastOf (runs : List (List Sample)) : Option Sample := (runs.getLast?.getD []).getLast?

/-- The reference: the totals before, and those of the calls. -/
def reference (c : EnergyCounter) (calls : List EnergyCall) : EnergyCounter where
  kwh := c.kwh + totalOver priceKwh (advancing c.previous calls)
  knownSeconds := c.knownSeconds + totalOver priceKnown (advancing c.previous calls)
  unknownSeconds := c.unknownSeconds + totalOver priceUnknown (advancing c.previous calls)
  previous := lastOf (advancing c.previous calls)

variable {c : EnergyCounter} {s p : Sample} {calls : List EnergyCall}

/-! ## One call -/

theorem sample_eq (c : EnergyCounter) (s : Sample) :
    c.sample (.finite s.now) (s.watts.map .finite) s.epoch = .ok (c.observe s) := by
  obtain ⟨now, watts, epoch, hnonneg⟩ := s
  cases watts with
  | none => rfl
  | some w =>
    unfold sample
    simp only [Option.map_some, Sample.make, dif_pos (hnonneg w rfl)]

/-- The counter after a call. -/
def next (c : EnergyCounter) : EnergyCall → EnergyCounter
  | .sample s => c.observe s
  | .breakInterval => c.breakInterval

theorem call_eq (c : EnergyCounter) (k : EnergyCall) : c.call k = .ok (c.next k) := by
  cases k with
  | sample s => exact c.sample_eq s
  | breakInterval => rfl

/-! ## The reference, call by call -/

theorem runs_ne_nil (calls : List EnergyCall) : runs calls ≠ [] := by
  induction calls with
  | nil => simp [runs]
  | cons k calls ih =>
    cases k with
    | sample s => simpa [runs] using ih
    | breakInterval => simp [runs]

theorem advancing_ne_nil (previous : Option Sample) (calls : List EnergyCall) :
    advancing previous calls ≠ [] := by
  simpa [advancing, runsFrom] using runs_ne_nil calls

theorem runsFrom_none (calls : List EnergyCall) : runsFrom none calls = runs calls := by
  rw [runsFrom]
  cases runs calls <;> rfl

/-- The maxima of a list of at most one observation. -/
theorem maxima_toList (previous : Option Sample) :
    maxima Sample.now previous.toList = previous.toList := by
  cases previous <;> rfl

theorem advancing_nil (previous : Option Sample) : advancing previous [] = [previous.toList] := by
  rw [advancing, runsFrom, runs, List.modifyHead_cons, List.append_nil, List.map_singleton,
    maxima_toList]

theorem advancing_break (previous : Option Sample) (calls : List EnergyCall) :
    advancing previous (.breakInterval :: calls) = previous.toList :: advancing none calls := by
  rw [advancing, runsFrom, runs, List.modifyHead_cons, List.append_nil, List.map_cons,
    maxima_toList, advancing, runsFrom_none]

theorem advancing_first (s : Sample) (calls : List EnergyCall) :
    advancing none (.sample s :: calls) = advancing (some s) calls := by
  rw [advancing, runsFrom_none]
  rfl

/-- An observation that does not advance the clock is left out. -/
theorem advancing_stale (h : s.now ≤ p.now) (calls : List EnergyCall) :
    advancing (some p) (.sample s :: calls) = advancing (some p) calls := by
  simp only [advancing, runsFrom, runs]
  cases runs calls with
  | nil => rfl
  | cons run rest =>
    simp only [List.modifyHead_cons, List.map_cons, Option.toList_some, List.cons_append,
      List.nil_append]
    rw [maxima_cons_le h]

/-- An observation that does is the next one of its run. -/
theorem advancing_later (h : p.now < s.now) (calls : List EnergyCall) :
    ∃ run rest, advancing (some s) calls = (s :: run) :: rest ∧
      advancing (some p) (.sample s :: calls) = (p :: s :: run) :: rest := by
  simp only [advancing, runsFrom, runs]
  cases hruns : runs calls with
  | nil => exact absurd hruns (runs_ne_nil calls)
  | cons run rest =>
    refine ⟨(maxima Sample.now run).filter fun b => s.now < b.now, rest.map (maxima Sample.now),
      rfl, ?_⟩
    simp only [List.modifyHead_cons, List.map_cons, Option.toList_some, List.cons_append,
      List.nil_append]
    rw [maxima_cons_lt h]
    rfl

/-! ## Sums over the neighbours -/

theorem totalOver_toList (price : Sample × Sample → ℚ) (previous : Option Sample)
    (runs : List (List Sample)) :
    totalOver price (previous.toList :: runs) = totalOver price runs := by
  rw [totalOver, List.map_cons, List.sum_cons]
  cases previous <;> exact zero_add _

theorem totalOver_later (price : Sample × Sample → ℚ) (p s : Sample) (run : List Sample)
    (rest : List (List Sample)) :
    totalOver price ((p :: s :: run) :: rest) =
      price (p, s) + totalOver price ((s :: run) :: rest) := by
  rw [totalOver, totalOver, List.map_cons, List.map_cons, List.sum_cons, List.sum_cons,
    consecutive_cons_cons, List.map_cons, List.sum_cons, add_assoc]

theorem totalOver_add (f g : Sample × Sample → ℚ) (runs : List (List Sample)) :
    totalOver f runs + totalOver g runs = totalOver (fun p => f p + g p) runs := by
  simp only [totalOver, List.sum_map_add]

theorem lastOf_cons (run : List Sample) {rest : List (List Sample)} (h : rest ≠ []) :
    lastOf (run :: rest) = lastOf rest := by
  obtain ⟨b, l, rfl⟩ := List.exists_cons_of_ne_nil h
  rfl

theorem lastOf_later (p s : Sample) (run : List Sample) (rest : List (List Sample)) :
    lastOf ((p :: s :: run) :: rest) = lastOf ((s :: run) :: rest) := by
  cases rest <;> rfl

/-! ## The counter is its reference -/

/-- **One call**: the reference goes on from the counter after it. -/
theorem reference_cons (c : EnergyCounter) (k : EnergyCall) (calls : List EnergyCall) :
    c.reference (k :: calls) = (c.next k).reference calls := by
  cases k with
  | breakInterval =>
    simp only [reference, next, breakInterval, advancing_break, totalOver_toList,
      lastOf_cons _ (advancing_ne_nil none calls)]
  | sample s =>
    cases hprevious : c.previous with
    | none => simp only [reference, next, observe, hprevious, advancing_first]
    | some p =>
      by_cases hstale : s.now ≤ p.now
      · have hnext : c.next (.sample s) = c := by
          simp only [next, observe, hprevious, if_pos (sub_nonpos.mpr hstale)]
        rw [hnext]
        simp only [reference, hprevious, advancing_stale hstale]
      · rw [not_le] at hstale
        obtain ⟨run, rest, hlater, hfrom⟩ := advancing_later hstale calls
        have hadvance : ¬ s.now - p.now ≤ 0 := by simpa using hstale
        have hpriced : (s.now - p.now ≤ 8 ∧ p.watts ≠ none ∧ s.watts ≠ none ∧ s.epoch = p.epoch) ↔
            Priced p s := by
          simp only [Priced, Option.isSome_iff_ne_none, @eq_comm _ s.epoch]
          tauto
        simp only [reference, next, observe, hprevious, hfrom, totalOver_later, lastOf_later,
          if_neg hadvance, hpriced]
        split
        · next h =>
          simp only [hlater, priceKwh, priceKnown, priceUnknown, if_pos h, zero_add, add_assoc]
        · next h =>
          simp only [hlater, priceKwh, priceKnown, priceUnknown, if_neg h, zero_add, add_assoc]

/-- **The counter is its reference**, and no valid call raises. -/
theorem run_eq (c : EnergyCounter) (calls : List EnergyCall) :
    c.run calls = .ok (c.reference calls) := by
  induction calls generalizing c with
  | nil =>
    obtain ⟨kwh, known, unknown, previous⟩ := c
    cases previous <;> simp [run, reference, advancing_nil, totalOver, consecutive, lastOf] <;> rfl
  | cons k calls ih =>
    rw [run, List.foldlM_cons, call_eq, reference_cons]
    exact ih (c.next k)

/-! ## What follows from it -/

/-- Every neighbour pair is counted once, as known or as unknown. -/
theorem known_add_unknown (runs : List (List Sample)) :
    totalOver priceKnown runs + totalOver priceUnknown runs =
      (runs.map (span Sample.now)).sum := by
  rw [totalOver_add, totalOver]
  refine congrArg List.sum (List.map_congr_left fun run _ => ?_)
  rw [← sum_consecutive]
  refine congrArg List.sum (List.map_congr_left fun p _ => ?_)
  rw [priceKnown, priceUnknown]
  split
  · exact add_zero _
  · exact zero_add _

theorem totalOver_nonneg {price : Sample × Sample → ℚ}
    (h : ∀ p : Sample × Sample, p.1.now < p.2.now → 0 ≤ price p) (previous : Option Sample)
    (calls : List EnergyCall) : 0 ≤ totalOver price (advancing previous calls) := by
  refine List.sum_nonneg ?_
  intro x hx
  obtain ⟨run, hrun, rfl⟩ := List.mem_map.mp hx
  obtain ⟨all, -, rfl⟩ := List.mem_map.mp hrun
  refine List.sum_nonneg ?_
  intro y hy
  obtain ⟨p, hp, rfl⟩ := List.mem_map.mp hy
  exact h p (rel_of_mem_consecutive (maxima_increasing all).isChain hp)

/-- No total decreases. -/
theorem reference_ge (c : EnergyCounter) (calls : List EnergyCall) :
    c.kwh ≤ (c.reference calls).kwh ∧ c.knownSeconds ≤ (c.reference calls).knownSeconds ∧
      c.unknownSeconds ≤ (c.reference calls).unknownSeconds := by
  refine ⟨le_add_of_nonneg_right (totalOver_nonneg ?_ _ _),
    le_add_of_nonneg_right (totalOver_nonneg ?_ _ _),
    le_add_of_nonneg_right (totalOver_nonneg ?_ _ _)⟩ <;> intro p hp
  · have hwatts : 0 ≤ p.1.watts.getD 0 := by
      cases hw : p.1.watts with
      | none => exact le_rfl
      | some w => exact p.1.nonneg w hw
    rw [priceKwh]
    split
    · exact div_nonneg (mul_nonneg hwatts (sub_nonneg.mpr hp.le)) (by norm_num)
    · exact le_rfl
  · rw [priceKnown]
    split
    · exact sub_nonneg.mpr hp.le
    · exact le_rfl
  · rw [priceUnknown]
    split
    · exact le_rfl
    · exact sub_nonneg.mpr hp.le

theorem run_append (c : EnergyCounter) (earlier later : List EnergyCall) :
    c.run (earlier ++ later) = (c.reference earlier).run later := by
  rw [run, List.foldlM_append]
  change (c.run earlier >>= fun d => d.run later) = _
  rw [run_eq, ok_bind]

/-- The counter continues from an observation at this time or later. -/
def Reached (c : EnergyCounter) (t : ℚ) : Prop := ∃ p, c.previous = some p ∧ t ≤ p.now

theorem reached_observe (c : EnergyCounter) (s : Sample) : (c.observe s).Reached s.now := by
  unfold observe
  split
  · exact ⟨s, rfl, le_rfl⟩
  · next p hp =>
    dsimp only
    split_ifs with hstale
    · exact ⟨p, hp, sub_nonpos.mp hstale⟩
    · exact ⟨s, rfl, le_rfl⟩
    · exact ⟨s, rfl, le_rfl⟩

/-- The clock of an unbroken run does not go back. -/
theorem Reached.observe {t : ℚ} (h : c.Reached t) (s : Sample) : (c.observe s).Reached t := by
  obtain ⟨p, hp, ht⟩ := h
  unfold EnergyCounter.observe
  rw [hp]
  dsimp only
  split_ifs with hstale
  · exact ⟨p, hp, ht⟩
  all_goals
    rw [sub_nonpos, not_le] at hstale
    exact ⟨s, rfl, ht.trans hstale.le⟩

theorem Reached.reference {t : ℚ} (h : c.Reached t) (hbreak : .breakInterval ∉ calls) :
    (c.reference calls).Reached t := by
  induction calls generalizing c with
  | nil =>
    have hrun : c.run [] = .ok c := rfl
    rw [run_eq] at hrun
    rw [Except.ok.inj hrun]
    exact h
  | cons k calls ih =>
    rw [reference_cons]
    obtain ⟨hk, hcalls⟩ := not_or.mp (mt List.mem_cons.mpr hbreak)
    cases k with
    | breakInterval => exact absurd rfl hk
    | sample s => exact ih (h.observe s) hcalls

theorem Reached.stale {t : ℚ} (h : c.Reached t) (hs : s.now ≤ t) : c.observe s = c := by
  obtain ⟨p, hp, ht⟩ := h
  unfold EnergyCounter.observe
  rw [hp]
  exact if_pos (sub_nonpos.mpr (hs.trans ht))

/-- The second sequence has one more observation: no later than one of the same unbroken run
    before it. -/
inductive Inserted : List EnergyCall → List EnergyCall → Prop where
  | stale (before between after : List EnergyCall) (p s : Sample)
      (hbreak : .breakInterval ∉ between) (hstale : s.now ≤ p.now) :
      Inserted (before ++ .sample p :: between ++ after)
        (before ++ .sample p :: between ++ .sample s :: after)

/-- **An observation that does not advance the clock changes nothing.** -/
theorem stale_ignored {calls' : List EnergyCall} (h : Inserted calls calls') (c : EnergyCounter) :
    c.run calls' = c.run calls := by
  obtain ⟨before, between, after, p, s, hbreak, hstale⟩ := h
  rw [run_append, run_append, run, List.foldlM_cons, call_eq, ok_bind]
  have hreached : (c.reference (before ++ .sample p :: between)).Reached p.now := by
    have happend := run_append c before (.sample p :: between)
    rw [run_eq, run_eq, reference_cons] at happend
    rw [Except.ok.inj happend]
    exact (reached_observe _ p).reference hbreak
  rw [next, hreached.stale hstale]
  rfl

/-- A valid total is read back. -/
theorem totalOf_float {x : ℚ} (h : 0 ≤ x) : totalOf (.float x) = .ok x := if_neg (not_lt.mpr h)

/-- **Restoring a record breaks the interval**, and changes nothing else. -/
theorem restore_record (hkwh : 0 ≤ c.kwh) (hknown : 0 ≤ c.knownSeconds)
    (hunknown : 0 ≤ c.unknownSeconds) : restore (some c.record) = .ok c.breakInterval := by
  have hfilter : (some c.record).filter (fun record => record.hasKeys fields) = some c.record :=
    Option.filter_eq_some_iff.mpr ⟨rfl, Dict.hasKeys_of_keys rfl⟩
  unfold restore
  rw [hfilter]
  dsimp only
  rw [storedAt_eq 0 rfl, storedAt_eq 1 rfl, storedAt_eq 2 rfl, totalOf_float hkwh,
    totalOf_float hknown, totalOf_float hunknown]
  rfl

/-- **Energy accounting**: every sequence of calls gives the totals of its reference; all time
    of an unbroken run is known or unknown, no energy is taken back, observations that do not
    advance the clock change nothing wherever they are inserted, and after a restart the totals
    are those of the record and of the calls since. -/
theorem accounting (c : EnergyCounter) (calls : List EnergyCall) :
    c.run calls = .ok (c.reference calls) ∧
    (c.reference calls).knownSeconds + (c.reference calls).unknownSeconds =
      c.knownSeconds + c.unknownSeconds +
        ((advancing c.previous calls).map (span Sample.now)).sum ∧
    (∀ earlier later, calls = earlier ++ later →
      ∃ d, c.run earlier = .ok d ∧ d.kwh ≤ (c.reference calls).kwh) ∧
    (∀ calls', Relation.ReflTransGen Inserted calls calls' → c.run calls' = c.run calls) ∧
    (0 ≤ c.kwh ∧ 0 ≤ c.knownSeconds ∧ 0 ≤ c.unknownSeconds → ∀ calls',
      ∃ restored final, restore (some (c.reference calls).record) = .ok restored ∧
        restored.run calls' = .ok final ∧
        final.kwh = (c.reference calls).kwh + totalOver priceKwh (advancing none calls') ∧
        final.knownSeconds =
          (c.reference calls).knownSeconds + totalOver priceKnown (advancing none calls') ∧
        final.unknownSeconds =
          (c.reference calls).unknownSeconds + totalOver priceUnknown (advancing none calls')) := by
  refine ⟨c.run_eq calls, ?_, ?_, ?_, ?_⟩
  · rw [← known_add_unknown]
    simp only [reference]
    ring
  · rintro earlier later rfl
    refine ⟨c.reference earlier, c.run_eq earlier, ?_⟩
    have happend := run_append c earlier later
    rw [run_eq, run_eq] at happend
    rw [Except.ok.inj happend]
    exact (reference_ge _ later).1
  · intro calls' h
    induction h with
    | refl => rfl
    | tail _ hinserted ih => rw [stale_ignored hinserted, ih]
  · rintro ⟨hkwh, hknown, hunknown⟩ calls'
    obtain ⟨hkwh', hknown', hunknown'⟩ := reference_ge c calls
    exact ⟨_, _, restore_record (hkwh.trans hkwh') (hknown.trans hknown')
      (hunknown.trans hunknown'), run_eq _ calls', rfl, rfl, rfl⟩

end EnergyCounter

end BalboaRs485
