import BalboaRs485.Lib.Machine
import BalboaRs485.Lib.Regression
import BalboaRs485.Prediction.Model
import BalboaRs485.State.Model

/-!
# Collecting heating segments

Model of `SegmentCollector` in `prediction.py`. It keeps running sums of the accepted points
of the current run of observations and returns a segment when the run is long enough. The
reference is the batch definition: the run itself, its accepted points, and their
regression line.

* `Rep`: the sums are those of the accepted points of the run.
* `finish_ok`: a segment that is returned passes its own check, and no sum divides by zero.
* `observe_spec`: what one observation does to the run.
* `segments_clean`: every returned segment fits a clean run, and no two runs overlap.
-/

namespace BalboaRs485

/-! ## Model -/

/-- `a + b`. -/
def Number.add : Number → Number → Number
  | .finite a, .finite b => .finite (a + b)
  | _, _ => .nonfinite

/-- What `SegmentCollector` could raise. -/
inductive CollectorError where
  | zeroDivision
  /-- A `HeatingSegment` is refused. -/
  | segment (e : ModelError)
deriving DecidableEq

/-- `HeatingSegment(…)`. -/
def HeatingSegment.make (r : SegmentRecord) : Except ModelError HeatingSegment :=
  match h : r.check with
  | .ok () => .ok ⟨r, h⟩
  | .error e => .error e

/-- The arguments of `observe`. -/
structure Observation where
  at_ : Number
  water : Option Number
  outdoor : Option Number
  heating : Bool
  healthy : Bool

/-- The attributes of `SegmentCollector`; the defaults are those of `reset`
    (lines 55–59). -/
structure SegmentCollector where
  outdoor : Bool
  start : Option ℚ := none
  seen : ℚ := 0
  at_ : ℚ := 0
  first : ℚ := 0
  water : ℚ := 0
  n : ℕ := 0
  t : ℚ := 0
  tt : ℚ := 0
  y : ℚ := 0
  ty : ℚ := 0
  air : Number := .finite 0

namespace SegmentCollector

/-- What a valid observation measures: `at`, `water`, and `outdoor or 0`. -/
structure Reading where
  at_ : ℚ
  water : ℚ
  outdoor : Number
deriving DecidableEq

/-- The bounds on `outdoor` (lines 102–104). -/
def outdoorValid : Option Number → Bool
  | some (.finite outdoor) => -60 ≤ outdoor ∧ outdoor ≤ 60
  | _ => false

/-- `valid` (lines 92–106), and what is measured then. -/
def reading (outdoor : Bool) (o : Observation) : Option Reading :=
  match o.at_, o.water with
  | .finite at_, some (.finite water) =>
    if (0 ≤ at_ ∧ at_ ≤ 253402300799) ∧ o.healthy ∧ (0 ≤ water ∧ water ≤ 45) ∧
        (outdoor = true → outdoorValid o.outdoor = true) then
      some ⟨at_, water, o.outdoor.getD (.finite 0)⟩
    else none
  | _, _ => none

/-- `reset` (lines 55–59). -/
def reset (s : SegmentCollector) : SegmentCollector := { outdoor := s.outdoor }

/-- `self._air / self._n if self.outdoor else None`; `HeatingSegment` refuses what is not
    finite. -/
def meanAir (s : SegmentCollector) : Except ModelError (Option ℚ) :=
  if s.outdoor then
    match s.air with
    | .finite air => .ok (some (air / s.n))
    | .nonfinite => .error .finite
  else .ok none

/-- `_finish` (lines 61–79). -/
def finish (s : SegmentCollector) : Except CollectorError (Option HeatingSegment) :=
  match s.start with
  | none => .ok none
  | some start =>
    if s.at_ - start < 1800 ∨ s.water - s.first < 1 then .ok none
    else if s.n = 0 ∨ s.tt - s.t * s.t / s.n = 0 then .error .zeroDivision
    else
      let rate := (s.ty - s.t * s.y / s.n) / (s.tt - s.t * s.t / s.n)
      if ¬ (0 < rate ∧ rate ≤ 8) ∨ ¬ (s.first ≤ s.y / s.n ∧ s.y / s.n ≤ s.water) then .ok none
      else
        match s.meanAir with
        | .error e => .error (.segment e)
        | .ok meanOutdoor =>
          match HeatingSegment.make
            ⟨start, s.at_, s.first, s.water, s.y / s.n, meanOutdoor, rate⟩ with
          | .error e => .error (.segment e)
          | .ok segment => .ok (some segment)

/-- A run of observations begins or goes on (lines 117–120). -/
def begin (s : SegmentCollector) (r : Reading) : SegmentCollector :=
  if s.start = none then
    { s with start := some r.at_, at_ := r.at_, first := r.water, water := r.water, seen := r.at_ }
  else { s with seen := r.at_ }

/-- A point goes into the sums (lines 133–139). -/
def add (s : SegmentCollector) (hours : ℚ) (r : Reading) : SegmentCollector :=
  { s with
    n := s.n + 1
    t := s.t + hours
    tt := s.tt + hours * hours
    y := s.y + r.water
    ty := s.ty + hours * r.water
    air := s.air.add r.outdoor
    at_ := r.at_
    water := r.water }

/-- A heating observation (lines 117–146). -/
def collect (s : SegmentCollector) (r : Reading) :
    Except CollectorError (Option HeatingSegment × SegmentCollector) :=
  let s := s.begin r
  let hours := (r.at_ - s.start.getD r.at_) / 3600
  if s.n ≠ 0 ∧ r.at_ - s.at_ < 30 then .ok (none, s)
  else if s.n ≠ 0 ∧ (r.water < s.water - 1 / 2 ∨
      max 1 ((r.at_ - s.at_) / 450) < r.water - s.water) then .ok (none, s.reset)
  else if 3 / 2 < hours then .ok (none, s.reset)
  else if 1 ≤ hours then
    match (s.add hours r).finish with
    | .error e => .error e
    | .ok result =>
      .ok (result, if result.isSome ∨ 3 / 2 ≤ hours then s.reset else s.add hours r)
  else .ok (none, s.add hours r)

/-- A step back in time, or a gap, ends the run (lines 111–112). -/
def interrupted (s : SegmentCollector) (r : Reading) : Bool :=
  s.start ≠ none ∧ (r.at_ < s.seen ∨ 90 < r.at_ - s.seen)

/-- `observe` (lines 81–146). -/
def observe (s : SegmentCollector) (o : Observation) :
    Except CollectorError (Option HeatingSegment × SegmentCollector) :=
  match reading s.outdoor o with
  | none => .ok (none, s.reset)
  | some r =>
    let s := if s.interrupted r then s.reset else s
    if o.heating then s.collect r
    else
      match s.finish with
      | .error e => .error e
      | .ok result => .ok (result, s.reset)

end SegmentCollector

/-- A collector and its observations. -/
def collectorMachine (outdoor : Bool) :
    Machine SegmentCollector Observation (Except CollectorError (Option HeatingSegment)) where
  init := { outdoor }
  step s o :=
    match s.observe o with
    | .error e => (s, .error e)
    | .ok (result, s) => (s, .ok result)

namespace SegmentCollector

/-! ## The batch definition -/

/-- `outdoor or 0`, when it is finite. -/
def Reading.air (r : Reading) : ℚ :=
  match r.outdoor with
  | .finite outdoor => outdoor
  | .nonfinite => 0

/-- The points accepted so far and a new reading: it is one of them when the last one is 30
    seconds old. -/
def accept (points : List Reading) (r : Reading) : List Reading :=
  match points.getLast? with
  | none => [r]
  | some p => if r.at_ - p.at_ < 30 then points else points ++ [r]

/-- The accepted points of a run. -/
def accepted (run : List Reading) : List Reading := run.foldl accept []

/-- When a run began. -/
def startOf (run : List Reading) : ℚ := (run.head?.map Reading.at_).getD 0

/-- The accepted points of a run, as hours since its start and water temperatures. -/
def points (run : List Reading) : List (ℚ × ℚ) :=
  (accepted run).map fun p => ((p.at_ - startOf run) / 3600, p.water)

/-- The observations measure the readings, heat, and follow each other within 90 seconds. -/
structure Clean (outdoor : Bool) (os : List Observation) (run : List Reading) : Prop where
  valid : os.map (reading outdoor) = run.map some
  heating : ∀ o ∈ os, o.heating = true
  close : run.IsChain fun a b => a.at_ ≤ b.at_ ∧ b.at_ - a.at_ ≤ 90

open Regression in
/-- The segment is that of the accepted points of the run. -/
structure Fitted (outdoor : Bool) (segment : SegmentRecord) (run : List Reading) : Prop where
  start : run.head?.map Reading.at_ = some segment.start
  startWater : run.head?.map Reading.water = some segment.startWater
  endTime : (accepted run).getLast?.map Reading.at_ = some segment.endTime
  endWater : (accepted run).getLast?.map Reading.water = some segment.endWater
  meanWater : segment.meanWater = mean ((accepted run).map Reading.water)
  meanOutdoor : segment.meanOutdoor =
    if outdoor then some (mean ((accepted run).map Reading.air)) else none
  rate : segment.rate = slope (points run)
  least : ∀ a b, residual (points run) (intercept (points run)) segment.rate ≤
    residual (points run) a b
  duration : 1800 ≤ segment.endTime - segment.start ∧ segment.endTime - segment.start ≤ 5400
  rise : 1 ≤ segment.endWater - segment.startWater

/-! ## Accepted points -/

variable {run : List Reading} {r : Reading}

theorem accepted_concat (run : List Reading) (r : Reading) :
    accepted (run ++ [r]) = accept (accepted run) r := by
  rw [accepted, List.foldl_append]
  rfl

/-- Either the reading comes too early, or it becomes the last point. -/
theorem accept_case (points : List Reading) (r : Reading) :
    (∃ p, points.getLast? = some p ∧ r.at_ - p.at_ < 30 ∧ accept points r = points) ∨
      ((∀ p ∈ points.getLast?, 30 ≤ r.at_ - p.at_) ∧ accept points r = points ++ [r]) := by
  unfold accept
  cases h : points.getLast? with
  | none =>
    obtain rfl : points = [] := List.getLast?_eq_none_iff.mp h
    exact Or.inr ⟨by simp, rfl⟩
  | some p =>
    dsimp only
    by_cases hearly : r.at_ - p.at_ < 30
    · rw [if_pos hearly]
      exact Or.inl ⟨p, rfl, hearly, rfl⟩
    · rw [if_neg hearly]
      refine Or.inr ⟨?_, rfl⟩
      rintro q ⟨⟩
      exact not_lt.mp hearly

theorem accepted_sublist (run : List Reading) : (accepted run).Sublist run := by
  induction run using List.reverseRecOn with
  | nil => exact .slnil
  | append_singleton run r ih =>
    rw [accepted_concat]
    rcases accept_case (accepted run) r with ⟨p, -, -, heq⟩ | ⟨-, heq⟩
    · rw [heq]
      exact ih.trans (List.sublist_append_left _ _)
    · rw [heq]
      exact ih.append (.refl _)

/-- Accepted points are at least 30 seconds apart. -/
theorem accepted_spaced (run : List Reading) :
    (accepted run).IsChain fun a b => 30 ≤ b.at_ - a.at_ := by
  induction run using List.reverseRecOn with
  | nil => exact .nil
  | append_singleton run r ih =>
    rw [accepted_concat]
    rcases accept_case (accepted run) r with ⟨p, -, -, heq⟩ | ⟨hlate, heq⟩
    · rw [heq]
      exact ih
    · rw [heq, List.isChain_append]
      refine ⟨ih, .singleton _, ?_⟩
      intro p hp q hq
      cases hq
      exact hlate p hp

/-- The first reading of a run is its first point. -/
theorem accepted_head (run : List Reading) : (accepted run).head? = run.head? := by
  induction run using List.reverseRecOn with
  | nil => rfl
  | append_singleton run r ih =>
    rw [accepted_concat]
    rcases accept_case (accepted run) r with ⟨p, hp, -, heq⟩ | ⟨-, heq⟩
    · rw [heq, ih]
      cases run with
      | nil => cases hp
      | cons a run => rfl
    · rw [heq, List.head?_append, ih, List.head?_append]

/-! ## The sums of a run -/

/-- The bounds of a reading. -/
structure Reading.Valid (r : Reading) (outdoor : Bool) : Prop where
  at_ : 0 ≤ r.at_ ∧ r.at_ ≤ 253402300799
  water : 0 ≤ r.water ∧ r.water ≤ 45
  air : outdoor = true → r.outdoor = .finite r.air ∧ -60 ≤ r.air ∧ r.air ≤ 60

/-- The attributes are those of the run since the last reset. -/
structure Rep (s : SegmentCollector) (run : List Reading) : Prop where
  start : s.start = run.head?.map Reading.at_
  seen : ∀ r ∈ run.getLast?, s.seen = r.at_
  first : ∀ r ∈ run.head?, s.first = r.water
  last : ∀ p ∈ (accepted run).getLast?, s.at_ = p.at_ ∧ s.water = p.water
  n : s.n = (accepted run).length
  t : s.t = ((points run).map Prod.fst).sum
  tt : s.tt = ((points run).map fun p => p.1 * p.1).sum
  y : s.y = ((points run).map Prod.snd).sum
  ty : s.ty = ((points run).map fun p => p.1 * p.2).sum
  air : s.outdoor = true → s.air = .finite ((accepted run).map Reading.air).sum
  span : ∀ p ∈ accepted run, (p.at_ - startOf run) / 3600 ≤ 3 / 2
  valid : ∀ r ∈ run, r.Valid s.outdoor

variable {s : SegmentCollector} {outdoor : Bool} {o : Observation}

theorem rep_reset (s : SegmentCollector) : Rep s.reset [] where
  start := rfl
  seen _ h := by cases h
  first _ h := by cases h
  last _ h := by cases h
  n := rfl
  t := rfl
  tt := rfl
  y := rfl
  ty := rfl
  air _ := rfl
  span _ h := by cases h
  valid _ h := by cases h

theorem reading_valid (h : reading outdoor o = some r) : r.Valid outdoor := by
  unfold reading at h
  split at h
  · next at_ water _ _ =>
    split at h
    · next hvalid =>
      cases h
      obtain ⟨hat, -, hwater, hair⟩ := hvalid
      refine ⟨hat, hwater, fun houtdoor => ?_⟩
      have hbounds := hair houtdoor
      unfold outdoorValid at hbounds
      split at hbounds
      · next x hx => exact ⟨by rw [hx]; rfl, by rw [hx]; exact of_decide_eq_true hbounds⟩
      · cases hbounds
    · cases h
  · cases h

/-! ## Returning a segment -/

theorem make_ok {r : SegmentRecord} (h : r.check = .ok ()) :
    HeatingSegment.make r = .ok ⟨r, h⟩ := by
  unfold HeatingSegment.make
  split
  · rfl
  · next e he =>
    rw [h] at he
    cases he

theorem check_ok {r : SegmentRecord} (htimes : 0 ≤ r.start ∧ r.endTime ≤ 253402300799)
    (hduration : 1800 ≤ r.endTime - r.start ∧ r.endTime - r.start ≤ 5400)
    (hwater : 0 ≤ r.startWater ∧ r.startWater < r.endWater ∧ r.endWater ≤ 45)
    (hrate : 0 < r.rate ∧ r.rate ≤ 8)
    (hmean : r.startWater ≤ r.meanWater ∧ r.meanWater ≤ r.endWater)
    (houtdoor : ∀ x ∈ r.meanOutdoor, -60 ≤ x ∧ x ≤ 60) : r.check = .ok () := by
  unfold SegmentRecord.check
  rw [if_neg, if_neg, if_neg, if_neg]
  · rw [Option.any_eq_true]
    rintro ⟨x, hx, hout⟩
    simp [houtdoor x hx] at hout
  · exact not_not.mpr hmean
  · rintro (hout | hout)
    · exact hout hwater
    · exact hout hrate
  · rintro (hout | hout | hout)
    · linarith [htimes.1]
    · linarith [htimes.2]
    · exact hout hduration

open Regression

theorem length_points (run : List Reading) : (points run).length = (accepted run).length :=
  List.length_map _

theorem points_snd (run : List Reading) :
    (points run).map Prod.snd = (accepted run).map Reading.water := by
  rw [points, List.map_map]
  rfl

/-- The average outside is that of the accepted points, between their bounds. -/
theorem meanAir_ok (hrep : Rep s run) (hne : accepted run ≠ []) :
    ∃ air, s.meanAir = .ok air ∧
      air = (if s.outdoor then some (mean ((accepted run).map Reading.air)) else none) ∧
      ∀ x ∈ air, -60 ≤ x ∧ x ≤ 60 := by
  unfold meanAir
  by_cases houtdoor : s.outdoor = true
  · rw [if_pos houtdoor, if_pos houtdoor, hrep.air houtdoor]
    refine ⟨_, rfl, ?_, ?_⟩
    · rw [mean, List.length_map, hrep.n]
    · rintro x ⟨⟩
      have hne' : (accepted run).map Reading.air ≠ [] := by simpa using hne
      have hair : ∀ x ∈ (accepted run).map Reading.air, -60 ≤ x ∧ x ≤ 60 := by
        intro x hx
        obtain ⟨p, hp, rfl⟩ := List.mem_map.mp hx
        exact ((hrep.valid p ((accepted_sublist run).subset hp)).air houtdoor).2
      have hmean := mean_mem hne' hair
      rw [mean, List.length_map, ← hrep.n] at hmean
      exact hmean
  · rw [if_neg houtdoor, if_neg houtdoor]
    exact ⟨none, rfl, rfl, by simp⟩

/-- The first and the last accepted point of a run that has begun. -/
theorem Rep.ends (hrep : Rep s run) {start : ℚ} (h : s.start = some start) :
    ∃ r p, run.head? = some r ∧ (accepted run).head? = some r ∧
      (accepted run).getLast? = some p ∧ r ∈ accepted run ∧ p ∈ accepted run ∧
      start = r.at_ ∧ startOf run = r.at_ ∧ s.first = r.water ∧ s.at_ = p.at_ ∧
      s.water = p.water := by
  rw [hrep.start] at h
  obtain ⟨r, hr, rfl⟩ := Option.map_eq_some_iff.mp h
  have hhead : (accepted run).head? = some r := by rw [accepted_head, hr]
  have hne : accepted run ≠ [] := by
    intro hnil
    rw [hnil] at hhead
    cases hhead
  obtain ⟨p, hp⟩ := Option.ne_none_iff_exists'.mp (mt List.getLast?_eq_none_iff.mp hne)
  refine ⟨r, p, hr, hhead, hp, List.mem_of_head? hhead, List.mem_of_getLast? hp, rfl, ?_,
    hrep.first r hr, (hrep.last p hp).1, (hrep.last p hp).2⟩
  rw [startOf, hr]
  rfl

/-- Half an hour apart, the points are spread. -/
theorem points_spread {first last : Reading} (hfirst : first ∈ accepted run)
    (hlast : last ∈ accepted run) (hlong : 1800 ≤ last.at_ - first.at_) :
    0 < spread (points run) := by
  refine spread_pos (List.mem_map_of_mem hfirst) (List.mem_map_of_mem hlast) ?_
  intro heq
  have hhours : (first.at_ - startOf run) / 3600 = (last.at_ - startOf run) / 3600 := heq
  linarith

/-- **A segment that is returned fits the run**, and nothing is raised. -/
theorem finish_ok (hrep : Rep s run) :
    ∃ result, s.finish = .ok result ∧
      ∀ segment ∈ result, Fitted s.outdoor segment.toSegmentRecord run := by
  unfold finish
  cases hstart : s.start with
  | none => exact ⟨none, rfl, by simp⟩
  | some start =>
    dsimp only
    by_cases hshort : s.at_ - start < 1800 ∨ s.water - s.first < 1
    · rw [if_pos hshort]
      exact ⟨none, rfl, by simp⟩
    rw [if_neg hshort]
    obtain ⟨hlong, hrise⟩ := not_or.mp hshort
    rw [not_lt] at hlong hrise
    obtain ⟨r, p, hr, hhead, hp, hrmem, hpmem, rfl, hbase, hfirst, hat, hwater⟩ := hrep.ends hstart
    have hne : accepted run ≠ [] := List.ne_nil_of_mem hrmem
    have hps : points run ≠ [] := by
      rw [points]
      simpa using hne
    have hspread : 0 < spread (points run) := points_spread hrmem hpmem (by rw [← hat]; exact hlong)
    have hvariance : s.tt - s.t * s.t / s.n = spread (points run) := by
      rw [spread_eq hps, hrep.tt, hrep.t, hrep.n, length_points]
    have hcross : s.ty - s.t * s.y / s.n = cross (points run) := by
      rw [cross_eq hps, hrep.ty, hrep.t, hrep.y, hrep.n, length_points]
    have hmean : s.y / s.n = mean ((accepted run).map Reading.water) := by
      rw [hrep.y, hrep.n, points_snd, mean, List.length_map]
    have hn : s.n ≠ 0 := by
      rw [hrep.n]
      exact fun hlen => hne (List.length_eq_zero_iff.mp hlen)
    rw [hvariance, hcross, hmean, if_neg (not_or.mpr ⟨hn, hspread.ne'⟩)]
    by_cases hbad : ¬ (0 < cross (points run) / spread (points run) ∧
        cross (points run) / spread (points run) ≤ 8) ∨
        ¬ (s.first ≤ mean ((accepted run).map Reading.water) ∧
          mean ((accepted run).map Reading.water) ≤ s.water)
    · rw [if_pos hbad]
      exact ⟨none, rfl, by simp⟩
    rw [if_neg hbad]
    obtain ⟨hrate, hbetween⟩ := not_or.mp hbad
    obtain ⟨air, hair, hairmean, hairbounds⟩ := meanAir_ok hrep hne
    rw [hair]
    dsimp only
    have hrvalid := hrep.valid r ((accepted_sublist run).subset hrmem)
    have hpvalid := hrep.valid p ((accepted_sublist run).subset hpmem)
    have hspan := hrep.span p hpmem
    rw [hbase] at hspan
    have hduration : 1800 ≤ s.at_ - r.at_ ∧ s.at_ - r.at_ ≤ 5400 := by
      refine ⟨hlong, ?_⟩
      rw [hat]
      linarith
    have hcheck : (⟨r.at_, s.at_, s.first, s.water, mean ((accepted run).map Reading.water), air,
        cross (points run) / spread (points run)⟩ : SegmentRecord).check = .ok () :=
      check_ok ⟨hrvalid.at_.1, hat ▸ hpvalid.at_.2⟩ hduration
        ⟨hfirst ▸ hrvalid.water.1, by linarith, hwater ▸ hpvalid.water.2⟩
        (not_not.mp hrate) (not_not.mp hbetween) hairbounds
    rw [make_ok hcheck]
    refine ⟨_, rfl, ?_⟩
    rintro segment ⟨⟩
    exact
      { start := congrArg (Option.map Reading.at_) hr
        startWater := (congrArg (Option.map Reading.water) hr).trans (congrArg some hfirst.symm)
        endTime := (congrArg (Option.map Reading.at_) hp).trans (congrArg some hat.symm)
        endWater := (congrArg (Option.map Reading.water) hp).trans (congrArg some hwater.symm)
        meanWater := rfl
        meanOutdoor := hairmean
        rate := rfl
        least := slope_least hspread
        duration := hduration
        rise := hrise }

/-! ## One observation -/

theorem startOf_concat (h : run ≠ []) (r : Reading) : startOf (run ++ [r]) = startOf run := by
  rw [startOf, startOf, List.head?_append_of_ne_nil _ h]

theorem head?_concat (run : List Reading) (r : Reading) :
    (run ++ [r]).head? = some (run.head?.getD r) := by
  cases run <;> rfl

/-- The hours of a point do not depend on what comes after it. -/
theorem points_of_accepted (run : List Reading) (r : Reading) :
    (accepted run).map (fun p => ((p.at_ - startOf (run ++ [r])) / 3600, p.water)) =
      points run := by
  rcases eq_or_ne run [] with rfl | hne
  · rfl
  · rw [startOf_concat hne, points]

theorem Rep.accepted_nil (hrep : Rep s run) : s.n = 0 ↔ run = [] := by
  rw [hrep.n, List.length_eq_zero_iff]
  constructor
  · intro hnil
    have hhead := accepted_head run
    rw [hnil] at hhead
    exact List.head?_eq_none_iff.mp hhead.symm
  · rintro rfl
    rfl

/-- A run that has begun goes on as it is. -/
theorem Rep.begin_eq (hrep : Rep s run) (hne : run ≠ []) (r : Reading) :
    s.begin r = { s with seen := r.at_ } := by
  unfold begin
  rw [if_neg]
  rw [hrep.start, Option.map_eq_none_iff]
  exact mt List.head?_eq_none_iff.mp hne

/-- `collect` counts the hours of a reading from the start of its run. -/
theorem Rep.hours (hrep : Rep s run) (r : Reading) :
    (r.at_ - (s.begin r).start.getD r.at_) / 3600 =
      (r.at_ - startOf (run ++ [r])) / 3600 := by
  rcases eq_or_ne run [] with rfl | hne
  · have hstart : s.start = none := hrep.start
    rw [begin, if_pos hstart]
    rfl
  · rw [hrep.begin_eq hne, startOf_concat hne, startOf, hrep.start]
    obtain ⟨a, ha⟩ := Option.ne_none_iff_exists'.mp (mt List.head?_eq_none_iff.mp hne)
    rw [ha]
    rfl

theorem Rep.accepted_early (hrep : Rep s run) (hne : run ≠ []) (hearly : r.at_ - s.at_ < 30) :
    accepted (run ++ [r]) = accepted run := by
  rw [accepted_concat]
  rcases accept_case (accepted run) r with ⟨-, -, -, heq⟩ | ⟨hlate, -⟩
  · exact heq
  · obtain ⟨p, hp⟩ : ∃ p, (accepted run).getLast? = some p := by
      rw [← Option.ne_none_iff_exists', ne_eq, List.getLast?_eq_none_iff,
        ← List.length_eq_zero_iff, ← hrep.n, hrep.accepted_nil]
      exact hne
    have hlate := hlate p hp
    rw [← (hrep.last p hp).1] at hlate
    exact absurd hearly (not_lt.mpr hlate)

theorem Rep.accepted_late (hrep : Rep s run) (hlate : ¬ (s.n ≠ 0 ∧ r.at_ - s.at_ < 30)) :
    accepted (run ++ [r]) = accepted run ++ [r] := by
  rw [accepted_concat]
  rcases accept_case (accepted run) r with ⟨p, hp, hearly, -⟩ | ⟨-, heq⟩
  · refine absurd ⟨?_, ?_⟩ hlate
    · rw [hrep.n]
      exact fun hlen => by rw [List.length_eq_zero_iff.mp hlen] at hp; cases hp
    · rw [(hrep.last p hp).1]
      exact hearly
  · exact heq

/-- A reading that comes too early leaves the sums. -/
theorem Rep.skip (hrep : Rep s run) (hvalid : r.Valid s.outdoor) (hne : run ≠ [])
    (hearly : r.at_ - s.at_ < 30) : Rep { s with seen := r.at_ } (run ++ [r]) := by
  have haccepted := hrep.accepted_early hne hearly
  have hpoints : points (run ++ [r]) = points run := by
    rw [points, haccepted, points_of_accepted]
  have hhead : (run ++ [r]).head? = run.head? := List.head?_append_of_ne_nil _ hne
  exact
    { start := hrep.start.trans (congrArg (Option.map Reading.at_) hhead.symm)
      seen := by
        intro q hq
        rw [List.getLast?_concat] at hq
        cases hq
        rfl
      first := fun q hq => hrep.first q (hhead ▸ hq)
      last := fun p hp => hrep.last p (haccepted ▸ hp)
      n := hrep.n.trans (congrArg List.length haccepted.symm)
      t := by rw [hpoints]; exact hrep.t
      tt := by rw [hpoints]; exact hrep.tt
      y := by rw [hpoints]; exact hrep.y
      ty := by rw [hpoints]; exact hrep.ty
      air := by rw [haccepted]; exact hrep.air
      span := by rw [haccepted, startOf_concat hne]; exact hrep.span
      valid := by
        intro q hq
        rcases List.mem_append.mp hq with hq | hq
        · exact hrep.valid q hq
        · rw [List.mem_singleton.mp hq]
          exact hvalid }

/-- To begin a run, or to go on with it, leaves the sums. -/
theorem begin_sums (s : SegmentCollector) (r : Reading) :
    (s.begin r).outdoor = s.outdoor ∧ (s.begin r).n = s.n ∧ (s.begin r).t = s.t ∧
      (s.begin r).tt = s.tt ∧ (s.begin r).y = s.y ∧ (s.begin r).ty = s.ty ∧
      (s.begin r).air = s.air ∧ (s.begin r).seen = r.at_ := by
  unfold begin
  split <;> exact ⟨rfl, rfl, rfl, rfl, rfl, rfl, rfl, rfl⟩

theorem Rep.begin_start (hrep : Rep s run) (r : Reading) :
    (s.begin r).start = some (run.head?.getD r).at_ ∧
      (s.begin r).first = (run.head?.getD r).water := by
  rcases eq_or_ne run [] with rfl | hne
  · have hnone : s.start = none := hrep.start
    rw [begin, if_pos hnone]
    exact ⟨rfl, rfl⟩
  · obtain ⟨a, ha⟩ := Option.ne_none_iff_exists'.mp (mt List.head?_eq_none_iff.mp hne)
    rw [hrep.begin_eq hne, hrep.start, hrep.first a ha, ha]
    exact ⟨rfl, rfl⟩

/-- A reading that is accepted adds its point to every sum. -/
theorem Rep.add (hrep : Rep s run) (hvalid : r.Valid s.outdoor)
    (hlate : ¬ (s.n ≠ 0 ∧ r.at_ - s.at_ < 30))
    (hhours : (r.at_ - startOf (run ++ [r])) / 3600 ≤ 3 / 2) :
    Rep ((s.begin r).add ((r.at_ - startOf (run ++ [r])) / 3600) r) (run ++ [r]) := by
  have haccepted := hrep.accepted_late hlate
  have hpoints : points (run ++ [r]) =
      points run ++ [((r.at_ - startOf (run ++ [r])) / 3600, r.water)] := by
    rw [points, haccepted, List.map_append, points_of_accepted]
    rfl
  have hsum : ∀ f : ℚ × ℚ → ℚ, ((points (run ++ [r])).map f).sum =
      ((points run).map f).sum + f ((r.at_ - startOf (run ++ [r])) / 3600, r.water) := by
    intro f
    rw [hpoints, List.map_append, List.sum_append, List.map_singleton, List.sum_singleton]
  obtain ⟨houtdoor, hn, ht, htt, hy, hty, hair, hseen⟩ := begin_sums s r
  have hstart := hrep.begin_start r
  exact
    { start := by
        rw [head?_concat]
        exact hstart.1
      seen := by
        intro q hq
        rw [List.getLast?_concat] at hq
        cases hq
        exact hseen
      first := by
        intro q hq
        rw [head?_concat] at hq
        cases hq
        exact hstart.2
      last := by
        intro p hp
        rw [haccepted, List.getLast?_concat] at hp
        cases hp
        exact ⟨rfl, rfl⟩
      n := by
        rw [haccepted, List.length_append, ← hrep.n, ← hn]
        rfl
      t := by
        rw [hsum, ← hrep.t, ← ht]
        rfl
      tt := by
        rw [hsum, ← hrep.tt, ← htt]
        rfl
      y := by
        rw [hsum, ← hrep.y, ← hy]
        rfl
      ty := by
        rw [hsum, ← hrep.ty, ← hty]
        rfl
      air := by
        intro hout
        have hout : s.outdoor = true := houtdoor ▸ hout
        have hsum : (s.begin r).air.add r.outdoor =
            .finite (((accepted run).map Reading.air).sum + r.air) := by
          rw [hair, hrep.air hout, (hvalid.air hout).1]
          rfl
        rw [haccepted, List.map_append, List.sum_append, List.map_singleton, List.sum_singleton]
        exact hsum
      span := by
        rw [haccepted]
        intro p hp
        rcases List.mem_append.mp hp with hp | hp
        · have hne : run ≠ [] := List.ne_nil_of_mem ((accepted_sublist run).subset hp)
          rw [startOf_concat hne]
          exact hrep.span p hp
        · rw [List.mem_singleton.mp hp]
          exact hhours
      valid := by
        intro q hq
        rcases List.mem_append.mp hq with hq | hq
        · exact houtdoor.symm ▸ hrep.valid q hq
        · rw [List.mem_singleton.mp hq]
          exact houtdoor.symm ▸ hvalid }

/-- What a heating observation gives, and the run after it. -/
inductive Collected (outdoor : Bool) (run : List Reading) (r : Reading) :
    Option HeatingSegment → List Reading → Prop where
  | dropped : Collected outdoor run r none []
  | extended : Collected outdoor run r none (run ++ [r])
  | completed (segment : HeatingSegment) (h : Fitted outdoor segment.toSegmentRecord (run ++ [r])) :
      Collected outdoor run r (some segment) []

/-- A reading joins the run, drops it or completes it. -/
theorem collect_spec (hrep : Rep s run) (hvalid : r.Valid s.outdoor) :
    ∃ result s' run', s.collect r = .ok (result, s') ∧ s'.outdoor = s.outdoor ∧ Rep s' run' ∧
      Collected s.outdoor run r result run' := by
  obtain ⟨houtdoor, hn, -⟩ := begin_sums s r
  have hdropped : ∃ result s' run',
      (.ok (none, (s.begin r).reset) :
        Except CollectorError (Option HeatingSegment × SegmentCollector)) = .ok (result, s') ∧
      s'.outdoor = s.outdoor ∧ Rep s' run' ∧ Collected s.outdoor run r result run' :=
    ⟨none, _, [], rfl, houtdoor, rep_reset _, .dropped⟩
  unfold collect
  dsimp only
  rw [hn]
  by_cases hearly : s.n ≠ 0 ∧ r.at_ - (s.begin r).at_ < 30
  · rw [if_pos hearly]
    have hne : run ≠ [] := mt hrep.accepted_nil.mpr hearly.1
    rw [hrep.begin_eq hne] at hearly ⊢
    exact ⟨none, _, run ++ [r], rfl, rfl,
      hrep.skip hvalid hne hearly.2, .extended⟩
  rw [if_neg hearly]
  by_cases hjump : s.n ≠ 0 ∧ (r.water < (s.begin r).water - 1 / 2 ∨
      max 1 ((r.at_ - (s.begin r).at_) / 450) < r.water - (s.begin r).water)
  · rw [if_pos hjump]
    exact hdropped
  rw [if_neg hjump, hrep.hours r]
  by_cases hlong : 3 / 2 < (r.at_ - startOf (run ++ [r])) / 3600
  · rw [if_pos hlong]
    exact hdropped
  rw [if_neg hlong]
  have hlate : ¬ (s.n ≠ 0 ∧ r.at_ - s.at_ < 30) := by
    rintro ⟨hn, hlt⟩
    rw [hrep.begin_eq (mt hrep.accepted_nil.mpr hn)] at hearly
    exact hearly ⟨hn, hlt⟩
  have hadded := hrep.add hvalid hlate (not_lt.mp hlong)
  by_cases hhour : 1 ≤ (r.at_ - startOf (run ++ [r])) / 3600
  · rw [if_pos hhour]
    obtain ⟨result, hfinish, hfitted⟩ := finish_ok hadded
    rw [hfinish]
    dsimp only
    cases result with
    | some segment =>
      rw [if_pos (Or.inl Option.isSome_some)]
      refine ⟨some segment, _, [], rfl, houtdoor, rep_reset _, .completed segment ?_⟩
      exact houtdoor ▸ hfitted segment rfl
    | none =>
      split
      · exact ⟨none, _, [], rfl, houtdoor, rep_reset _, .dropped⟩
      · exact ⟨none, _, run ++ [r], rfl, houtdoor, hadded, .extended⟩
  · rw [if_neg hhour]
    exact ⟨none, _, run ++ [r], rfl, houtdoor, hadded, .extended⟩

/-- The reading follows the run within 90 seconds. -/
def Link (run : List Reading) (r : Reading) : Prop :=
  ∀ p ∈ run.getLast?, p.at_ ≤ r.at_ ∧ r.at_ - p.at_ ≤ 90

/-- What one observation gives, and the run after it. -/
inductive Observed (s : SegmentCollector) (run : List Reading) (o : Observation) :
    Option HeatingSegment → List Reading → Prop where
  | dropped : Observed s run o none []
  /-- The heater has stopped: the run ends before the observation. -/
  | finished (segment : HeatingSegment) (h : Fitted s.outdoor segment.toSegmentRecord run) :
      Observed s run o (some segment) []
  /-- The run, or a new one after an interruption, goes on with the observation. -/
  | collected (r : Reading) (base run' : List Reading) (result : Option HeatingSegment)
      (hr : reading s.outdoor o = some r) (hheating : o.heating = true)
      (hbase : (base = run ∧ s.interrupted r = false) ∨ (base = [] ∧ s.interrupted r = true))
      (hlink : Link base r) (h : Collected s.outdoor base r result run') :
      Observed s run o result run'

/-- Nothing is fitted to the empty run. -/
theorem not_fitted_nil {segment : SegmentRecord} : ¬ Fitted outdoor segment [] := by
  intro h
  cases h.start

/-- A run that is not interrupted is linked to the reading. -/
theorem Rep.link (hrep : Rep s run) (h : s.interrupted r = false) : Link run r := by
  intro p hp
  have hstart : s.start ≠ none := by
    rw [hrep.start, ne_eq, Option.map_eq_none_iff, List.head?_eq_none_iff]
    rintro rfl
    cases hp
  have hclose := of_decide_eq_false h
  rw [hrep.seen p hp] at hclose
  obtain ⟨hbefore, hafter⟩ := not_or.mp fun hout => hclose ⟨hstart, hout⟩
  exact ⟨not_lt.mp hbefore, not_lt.mp hafter⟩

/-- **One observation**: nothing is raised, and the attributes stay those of a run. -/
theorem observe_spec (hrep : Rep s run) (o : Observation) :
    ∃ result s' run', s.observe o = .ok (result, s') ∧ s'.outdoor = s.outdoor ∧ Rep s' run' ∧
      Observed s run o result run' := by
  unfold observe
  cases hr : reading s.outdoor o with
  | none => exact ⟨none, _, [], rfl, rfl, rep_reset s, .dropped⟩
  | some r =>
    dsimp only
    have hbase : ∃ base, Rep (if s.interrupted r then s.reset else s) base ∧ Link base r ∧
        ((base = run ∧ s.interrupted r = false) ∨ (base = [] ∧ s.interrupted r = true)) := by
      cases hcut : s.interrupted r with
      | true =>
        refine ⟨[], rep_reset s, ?_, .inr ⟨rfl, rfl⟩⟩
        intro p hp
        cases hp
      | false => exact ⟨run, hrep, hrep.link hcut, .inl ⟨rfl, rfl⟩⟩
    obtain ⟨base, hbaserep, hlink, hcase⟩ := hbase
    have houtdoor : (if s.interrupted r then s.reset else s).outdoor = s.outdoor := by
      split <;> rfl
    by_cases hheating : o.heating = true
    · rw [if_pos hheating]
      obtain ⟨result, s', run', hcollect, hout, hrep', hcollected⟩ :=
        collect_spec hbaserep (houtdoor.symm ▸ reading_valid hr)
      refine ⟨result, s', run', hcollect, hout.trans houtdoor, hrep', ?_⟩
      exact .collected r base run' result hr hheating hcase hlink (houtdoor ▸ hcollected)
    · rw [if_neg hheating]
      obtain ⟨result, hfinish, hfitted⟩ := finish_ok hbaserep
      rw [hfinish]
      refine ⟨result, _, [], rfl, houtdoor, rep_reset _, ?_⟩
      rw [houtdoor] at hfitted
      cases result with
      | none => exact .dropped
      | some segment =>
        rcases hcase with ⟨rfl, -⟩ | ⟨rfl, -⟩
        · exact .finished segment (hfitted segment rfl)
        · exact absurd (hfitted segment rfl) not_fitted_nil

/-! ## A run of observations -/

/-- The observations from `m` to `k` measure the run: it began at `m` with a reset collector,
    which was not reset since. -/
structure Since (outdoor : Bool) (os : List Observation) (m k : ℕ) (run : List Reading) :
    Prop where
  clean : Clean outdoor ((os.take k).drop m) run
  fresh : m < k → ∃ o r, os[m]? = some o ∧ reading outdoor o = some r ∧
    (((collectorMachine outdoor).stateAt os m).start = none ∨
      ((collectorMachine outdoor).stateAt os m).interrupted r = true)
  kept : ∀ j, m < j → j < k →
    ((collectorMachine outdoor).stateAt os j).start = run.head?.map Reading.at_

theorem machine_step {result : Option HeatingSegment} {s' : SegmentCollector}
    (h : s.observe o = .ok (result, s')) :
    (collectorMachine outdoor).step s o = (s', .ok result) := by
  simp only [collectorMachine, h]

variable {os : List Observation} {m n : ℕ}

/-- Nothing is measured between a position and itself. -/
theorem since_nil (outdoor : Bool) (os : List Observation) (n : ℕ) : Since outdoor os n n [] where
  clean :=
    { valid := by rw [List.drop_eq_nil_of_le (List.length_take_le n os)]; rfl
      heating := by rw [List.drop_eq_nil_of_le (List.length_take_le n os)]; simp
      close := .nil }
  fresh h := absurd h (lt_irrefl n)
  kept _ h h' := absurd (h.trans h') (lt_irrefl n)

theorem Since.run_nil (h : Since outdoor os n n run) : run = [] := by
  have hlen := congrArg List.length h.clean.valid
  rw [List.drop_eq_nil_of_le (List.length_take_le n os), List.map_nil, List.length_map] at hlen
  exact List.length_eq_zero_iff.mp hlen.symm

/-- One more linked reading. -/
theorem Since.extend (h : Since outdoor os m n run) (hm : m ≤ n) (ho : os[n]? = some o)
    (hr : reading outdoor o = some r) (hheating : o.heating = true) (hlink : Link run r)
    (hfresh : m = n → ((collectorMachine outdoor).stateAt os m).start = none ∨
      ((collectorMachine outdoor).stateAt os m).interrupted r = true)
    (hkept : m < n →
      ((collectorMachine outdoor).stateAt os n).start = run.head?.map Reading.at_)
    (hne : m < n → run ≠ []) : Since outdoor os m (n + 1) (run ++ [r]) := by
  have hlen : n < os.length := (List.getElem?_eq_some_iff.mp ho).1
  have hwindow : (os.take (n + 1)).drop m = (os.take n).drop m ++ [o] := by
    rw [List.take_add_one, ho, List.drop_append_of_le_length]
    · rfl
    · rw [List.length_take_of_le hlen.le]
      exact hm
  have hhead : m < n → (run ++ [r]).head? = run.head? :=
    fun hlt => List.head?_append_of_ne_nil _ (hne hlt)
  refine ⟨⟨?_, ?_, ?_⟩, ?_, ?_⟩
  · rw [hwindow, List.map_append, List.map_append, h.clean.valid, List.map_singleton, hr]
    rfl
  · rw [hwindow]
    intro x hx
    rcases List.mem_append.mp hx with hx | hx
    · exact h.clean.heating x hx
    · rw [List.mem_singleton.mp hx]
      exact hheating
  · rw [List.isChain_append]
    refine ⟨h.clean.close, .singleton _, ?_⟩
    intro p hp q hq
    cases hq
    exact hlink p hp
  · intro _
    rcases hm.lt_or_eq with hlt | rfl
    · exact h.fresh hlt
    · exact ⟨o, r, ho, hr, hfresh rfl⟩
  · intro j hmj hj
    rcases (Nat.lt_succ_iff.mp hj).lt_or_eq with hlt | rfl
    · rw [hhead (hmj.trans hlt)]
      exact h.kept j hmj hlt
    · rw [hhead hmj]
      exact hkept hmj

/-- The observation at position `i` returns a segment. -/
def Returns (outdoor : Bool) (os : List Observation) (i : ℕ) (segment : HeatingSegment) : Prop :=
  (collectorMachine outdoor).outAt os i = some (.ok (some segment))

/-- The attributes after `n` observations are those of a run that ends there and begins after
    every segment. -/
structure Running (outdoor : Bool) (os : List Observation) (n m : ℕ) (run : List Reading) :
    Prop where
  le : m ≤ n
  rep : Rep ((collectorMachine outdoor).stateAt os n) run
  own : ((collectorMachine outdoor).stateAt os n).outdoor = outdoor
  since : Since outdoor os m n run
  nonempty : m < n → run ≠ []
  after : ∀ i segment, i < n → Returns outdoor os i segment → i < m

/-- Where the collected run begins. -/
theorem Running.base (h : Running outdoor os n m run) (ho : os[n]? = some o) {base : List Reading}
    (hr : reading outdoor o = some r) (hheating : o.heating = true)
    (hbase : (base = run ∧ ((collectorMachine outdoor).stateAt os n).interrupted r = false) ∨
      (base = [] ∧ ((collectorMachine outdoor).stateAt os n).interrupted r = true))
    (hlink : Link base r) :
    ∃ m', m ≤ m' ∧ m' ≤ n ∧ Since outdoor os m' (n + 1) (base ++ [r]) := by
  rcases hbase with ⟨rfl, -⟩ | ⟨rfl, hcut⟩
  · refine ⟨m, le_rfl, h.le, h.since.extend h.le ho hr hheating hlink ?_ ?_ h.nonempty⟩
    · rintro rfl
      left
      rw [h.rep.start, h.since.run_nil]
      rfl
    · exact fun _ => h.rep.start
  · exact ⟨n, h.le, le_rfl, (since_nil outdoor os n).extend le_rfl ho hr hheating hlink
      (fun _ => .inr hcut) (fun hlt => absurd hlt (lt_irrefl n))
      (fun hlt => absurd hlt (lt_irrefl n))⟩

/-- **One observation of a run**: what it returns and where the run goes on. -/
theorem Running.step (h : Running outdoor os n m run) (ho : os[n]? = some o) :
    ∃ result, (collectorMachine outdoor).outAt os n = some (.ok result) ∧
      (∃ m' run', Running outdoor os (n + 1) m' run') ∧
      ∀ segment ∈ result, ∃ m' k run', m ≤ m' ∧ m' < k ∧ k ≤ n + 1 ∧ Since outdoor os m' k run' ∧
        Fitted outdoor segment.toSegmentRecord run' := by
  obtain ⟨result, s', run', hobserve, hown, hrep, hobserved⟩ := observe_spec h.rep o
  rw [h.own] at hown
  have hstep : (collectorMachine outdoor).step ((collectorMachine outdoor).stateAt os n) o =
      (s', .ok result) := machine_step hobserve
  have hout : (collectorMachine outdoor).outAt os n = some (.ok result) := by
    rw [Machine.outAt_eq _ ho, hstep]
  have hstate : (collectorMachine outdoor).stateAt os (n + 1) = s' := by
    rw [Machine.stateAt_succ _ ho, hstep]
  have hreset : run' = [] → ∃ m' run'', Running outdoor os (n + 1) m' run'' := by
    rintro rfl
    exact ⟨n + 1, [],
      { le := le_rfl
        rep := hstate.symm ▸ hrep
        own := hstate.symm ▸ hown
        since := since_nil outdoor os (n + 1)
        nonempty := fun hlt => absurd hlt (lt_irrefl _)
        after := fun i _ hi _ => hi }⟩
  refine ⟨result, hout, ?_⟩
  cases hobserved with
  | dropped => exact ⟨hreset rfl, by simp⟩
  | finished segment hfitted =>
    refine ⟨hreset rfl, ?_⟩
    rintro segment ⟨⟩
    rw [h.own] at hfitted
    have hlt : m < n := by
      rcases h.le.lt_or_eq with hlt | rfl
      · exact hlt
      · rw [h.since.run_nil] at hfitted
        exact absurd hfitted not_fitted_nil
    exact ⟨m, n, run, le_rfl, hlt, Nat.le_succ n, h.since, hfitted⟩
  | collected r base run' result hr hheating hbase hlink hcollected =>
    rw [h.own] at hr hcollected
    obtain ⟨m', hm', hm'n, hsince⟩ := h.base ho hr hheating hbase hlink
    cases hcollected with
    | dropped => exact ⟨hreset rfl, by simp⟩
    | completed segment hfitted =>
      refine ⟨hreset rfl, ?_⟩
      rintro segment ⟨⟩
      exact ⟨m', n + 1, base ++ [r], hm', Nat.lt_succ_of_le hm'n, le_rfl, hsince, hfitted⟩
    | extended =>
      refine ⟨⟨m', base ++ [r], ?_⟩, by simp⟩
      exact
        { le := hm'n.trans (Nat.le_succ n)
          rep := hstate.symm ▸ hrep
          own := hstate.symm ▸ hown
          since := hsince
          nonempty := fun _ => List.concat_ne_nil _ _
          after := by
            intro i segment hi hreturns
            rcases (Nat.lt_succ_iff.mp hi).lt_or_eq with hlt | rfl
            · exact (h.after i segment hlt hreturns).trans_le hm'
            · rw [Returns, hout] at hreturns
              cases hreturns }

/-- The attributes are always those of a run. -/
theorem running (outdoor : Bool) (os : List Observation) (n : ℕ) (hn : n ≤ os.length) :
    ∃ m run, Running outdoor os n m run := by
  induction n with
  | zero =>
    exact ⟨0, [],
      { le := le_rfl
        rep := rep_reset (collectorMachine outdoor).init
        own := rfl
        since := since_nil outdoor os 0
        nonempty := fun hlt => absurd hlt (lt_irrefl 0)
        after := fun i _ hi _ => absurd hi (Nat.not_lt_zero i) }⟩
  | succ n ih =>
    obtain ⟨m, run, h⟩ := ih (Nat.le_of_succ_le hn)
    obtain ⟨-, -, hnext, -⟩ := h.step (List.getElem?_eq_getElem hn)
    exact hnext

/-- **Segments are clean and fitted**: no observation raises; a segment that is returned fits
    the accepted points of a clean run of observations since the last reset, and its run begins
    after the observation that returned an earlier segment. -/
theorem segments_clean (outdoor : Bool) (os : List Observation) :
    (∀ n out, (collectorMachine outdoor).outAt os n = some out → ∃ result, out = .ok result) ∧
    ∃ (first last : ℕ → ℕ) (run : ℕ → List Reading),
      (∀ n segment, Returns outdoor os n segment →
        first n < last n ∧ last n ≤ n + 1 ∧ Since outdoor os (first n) (last n) (run n) ∧
        (accepted (run n)).Sublist (run n) ∧
        ((accepted (run n)).IsChain fun a b => 30 ≤ b.at_ - a.at_) ∧
        Fitted outdoor segment.toSegmentRecord (run n)) ∧
      ∀ i j segment segment', i < j → Returns outdoor os i segment → Returns outdoor os j segment' →
        last i ≤ first j := by
  have hstep : ∀ n out, (collectorMachine outdoor).outAt os n = some out →
      ∃ result m, out = .ok result ∧ (∀ i segment, i < n → Returns outdoor os i segment → i < m) ∧
        ∀ segment ∈ result, ∃ m' k run', m ≤ m' ∧ m' < k ∧ k ≤ n + 1 ∧
          Since outdoor os m' k run' ∧ Fitted outdoor segment.toSegmentRecord run' := by
    intro n out hout
    obtain ⟨o, ho, -⟩ := (Machine.outAt_eq_some _).mp hout
    obtain ⟨m, run, h⟩ := running outdoor os n (List.getElem?_eq_some_iff.mp ho).1.le
    obtain ⟨result, hresult, -, hsegment⟩ := h.step ho
    exact ⟨result, m, Option.some.inj (hout.symm.trans hresult), h.after, hsegment⟩
  refine ⟨fun n out hout => ?_, ?_⟩
  · obtain ⟨result, -, hresult, -⟩ := hstep n out hout
    exact ⟨result, hresult⟩
  have hwindow : ∀ n, ∃ m' k run', ∀ segment, Returns outdoor os n segment →
      m' < k ∧ k ≤ n + 1 ∧ (∀ i segment, i < n → Returns outdoor os i segment → i < m') ∧
        Since outdoor os m' k run' ∧ Fitted outdoor segment.toSegmentRecord run' := by
    intro n
    by_cases hreturns : ∃ segment, Returns outdoor os n segment
    · obtain ⟨segment, hsegment⟩ := hreturns
      obtain ⟨result, m, hresult, hafter, hfit⟩ := hstep n _ hsegment
      cases hresult
      obtain ⟨m', k, run', hm, hlt, hle, hsince, hfitted⟩ := hfit segment rfl
      refine ⟨m', k, run', fun segment' h' => ?_⟩
      rw [Returns] at hsegment h'
      rw [hsegment] at h'
      cases h'
      exact ⟨hlt, hle, fun i t hi ht => (hafter i t hi ht).trans_le hm, hsince, hfitted⟩
    · exact ⟨0, 0, [], fun segment h => absurd ⟨segment, h⟩ hreturns⟩
  choose first last run hrun using hwindow
  refine ⟨first, last, run, fun n segment h => ?_, ?_⟩
  · obtain ⟨hlt, hle, -, hsince, hfitted⟩ := hrun n segment h
    exact ⟨hlt, hle, hsince, accepted_sublist _, accepted_spaced _, hfitted⟩
  · intro i j segment segment' hij hi hj
    have hlast := (hrun i segment hi).2.1
    have hfirst := (hrun j segment' hj).2.2.1 i segment hij hi
    exact hlast.trans hfirst

end SegmentCollector

end BalboaRs485
