import BalboaRs485.Session.Record
import BalboaRs485.State.Model
import Mathlib.Algebra.Order.BigOperators.Group.List
import Mathlib.Algebra.Order.Field.Rat
import Mathlib.Tactic.DeriveFintype
import Mathlib.Tactic.Linarith

/-!
# The power estimate

Model of `powers`, `circulation_pump_present` and `estimate` in `energy.py`: a profile of
ratings, and the sum of those whose load is seen to run.

* `Profile`: the ratings that `powers` accepts, each finite and between 0 and 25000 W.
* `estimate_some`: an estimate prices all running loads, at ratings that are configured.
* `estimate_le`: no estimate is negative or above `maxWatts`.
-/

namespace BalboaRs485

/-! ## Profiles -/

/-- The keys of `DEFAULT_POWERS` (lines 12–26). -/
inductive Load where
  | heater
  | electronics
  | circulation
  | light
  | pump (index : Fin 6) (high : Bool)
  | blower
  | mister
  | aux1
  | aux2
deriving DecidableEq, Fintype

namespace Load

/-- The key as the source spells it. -/
def key : Load → String
  | heater => "heater_w"
  | electronics => "electronics_w"
  | circulation => "circulation_w"
  | light => "light_w"
  | pump index high =>
    "pump" ++ toString (index.val + 1) ++ (if high then "_high_w" else "_low_w")
  | blower => "blower_w"
  | mister => "mister_w"
  | aux1 => "aux1_w"
  | aux2 => "aux2_w"

/-- All keys, in order. -/
def all : List Load :=
  [heater, electronics, circulation, light] ++
    (List.finRange 6).flatMap (fun i => [pump i false, pump i true]) ++ [blower, mister, aux1, aux2]

theorem mem_all (l : Load) : l ∈ all := by
  cases l with
  | pump i high =>
    have hi : pump i high ∈ (List.finRange 6).flatMap fun i => [pump i false, pump i true] := by
      cases high <;> simp
    simp [all, hi]
  | _ => simp [all]

/-- `DEFAULT_POWERS`. -/
def defaultWatts : Load → ℚ
  | heater => 3000
  | electronics => 20
  | circulation => 250
  | light => 10
  | pump _ false => 350
  | pump _ true => 1300
  | blower => 0
  | mister => 0
  | aux1 => 0
  | aux2 => 0

end Load

/-- A power profile, as `powers` returns it. -/
structure Profile where
  watts : Load → ℚ
  valid : ∀ l, 0 ≤ watts l ∧ watts l ≤ 25000

instance : DecidableEq Profile := fun p q =>
  decidable_of_iff (p.watts = q.watts) ⟨fun h => by cases p; cases q; cases h; rfl, congrArg _⟩

/-- `powers({})`. -/
def Profile.default : Profile where
  watts := Load.defaultWatts
  valid l := by
    cases l with
    | pump i high => cases high <;> norm_num [Load.defaultWatts]
    | _ => norm_num [Load.defaultWatts]

/-- What `powers` raises. -/
inductive PowerError where
  /-- `ValueError("Invalid power profile")`. -/
  | profile
  /-- `ValueError("Power must be finite and between 0 and 25000 W")`. -/
  | watts
deriving DecidableEq

/-- `result[key] = value`, if the value is in range. -/
def Profile.set (profile : Profile) (l : Load) (x : ℚ) : Except PowerError Profile :=
  if h : 0 ≤ x ∧ x ≤ 25000 then
    .ok ⟨Function.update profile.watts l x, fun l' => by
      by_cases hl : l' = l
      · simpa [hl] using h
      · simpa [hl] using profile.valid l'⟩
  else .error .watts

/-- One entry of a profile (lines 53–57). -/
def setPower (profile : Profile) (entry : String × Stored) : Except PowerError Profile :=
  match Load.all.find? (fun l => l.key = entry.1), entry.2 with
  | some l, .int i => profile.set l i
  | some l, .float x => profile.set l x
  | some _, .nonfinite => .error .watts
  | _, _ => .error .profile

/-- `powers` (lines 50–58). -/
def powers (values : List (String × Stored)) : Except PowerError Profile :=
  values.foldlM setPower Profile.default

/-- Every key is that of one load. -/
theorem Load.find_key (l : Load) : Load.all.find? (fun l' => l'.key = l.key) = some l := by
  revert l
  decide

/-- The entries of a profile. -/
def Profile.entries (p : Profile) : List (String × Stored) :=
  Load.all.map fun l => (l.key, .float (p.watts l))

theorem Profile.set_watts (q p : Profile) (l : Load) :
    ∃ q', q.set l (p.watts l) = .ok q' ∧ q'.watts = Function.update q.watts l (p.watts l) := by
  unfold Profile.set
  rw [dif_pos (p.valid l)]
  exact ⟨_, rfl, rfl⟩

theorem setPower_float (q p : Profile) (l : Load) :
    ∃ q', setPower q (l.key, .float (p.watts l)) = .ok q' ∧
      q'.watts = Function.update q.watts l (p.watts l) := by
  unfold setPower
  rw [Load.find_key]
  exact q.set_watts p l

/-- **A profile that is given back is accepted as it is.** -/
theorem powers_entries (p : Profile) : powers p.entries = .ok p := by
  have hfold : ∀ (l : List Load) (q : Profile), ∃ q',
      (l.map fun l => (l.key, Stored.float (p.watts l))).foldlM setPower q = .ok q' ∧
        ∀ x, q'.watts x = if x ∈ l then p.watts x else q.watts x := by
    intro l
    induction l with
    | nil => exact fun q => ⟨q, rfl, fun x => by simp⟩
    | cons a l ih =>
      intro q
      obtain ⟨q₁, hset, hwatts⟩ := setPower_float q p a
      obtain ⟨q₂, hrest, hfinal⟩ := ih q₁
      refine ⟨q₂, ?_, fun x => ?_⟩
      · rw [List.map_cons, List.foldlM_cons, hset]
        exact hrest
      · rw [hfinal, hwatts]
        by_cases hx : x = a
        · subst hx
          simp
        · simp [hx]
  obtain ⟨q, hq, hwatts⟩ := hfold Load.all Profile.default
  have hqp : q = p := by
    obtain ⟨qw, hqv⟩ := q
    obtain ⟨pw, hpv⟩ := p
    congr
    funext x
    simpa [Load.mem_all] using hwatts x
  exact hq.trans (congrArg Except.ok hqp)

/-! ## Running loads -/

/-- `CirculationPump`. -/
inductive CirculationPump where
  | auto
  | absent
  | present
deriving DecidableEq

/-- `CirculationPump.value`. -/
def CirculationPump.text : CirculationPump → String
  | auto => "auto"
  | absent => "absent"
  | present => "present"

/-- `circulation_pump` (`messages.py` line 308). -/
def StatusMessage.circulationPump (m : StatusMessage) : Bool := m.data 13 &&& 2 ≠ 0

/-- The most an estimate can be. -/
def maxWatts : ℚ := 15 * 25000

/-- Python's `bool(value)`. -/
def Value.truthy : Value → Bool
  | .bool b => b
  | .int i => i ≠ 0
  | .float q => q ≠ 0
  | .mode m => m.toInt ≠ 0
  | _ => true

namespace SpaState

variable (s : SpaState)

/-- `circulation_pump_present` (lines 37–46). -/
def circulationPumpPresent : CirculationPump → Option Bool
  | .absent => some false
  | .present => some true
  | .auto =>
    let descriptor := pair (s.configuration.capabilities.caps 3) 6
    if descriptor = 0 then some false else if descriptor = 2 then some true else none

/-- The load of a pump (lines 74–82). -/
def pumpLoad (i : Fin 6) : Option (List Load) :=
  if s.configuration.capabilities.pumpsRaw.get i = 0 then some []
  else
    match s.pumpValue i with
    | none => none
    | some value =>
      if value.pyEq (.pump .off) then some []
      else some [.pump i (¬ value.pyEq (.pump .low))]

/-- The load of an accessory, if it is a light its raw value too (lines 87–108). -/
def accessoryLoad (control : Control) (load : Load) (raw : UInt8) : Option (List Load) :=
  if s.options control = [] then if raw ≠ 0 then none else some []
  else
    match s.value control with
    | none => none
    | some value => some (if value.truthy then [load] else [])

/-- The accessories (lines 87–94). -/
def accessories : List (Control × Load × UInt8) :=
  [(.light1, .light, s.status.lightsRaw.1), (.light2, .light, s.status.lightsRaw.2),
    (.blower, .blower, 0), (.mister, .mister, 0), (.aux1, .aux1, 0), (.aux2, .aux2, 0)]

/-- The loads that run, unless some are unknown (lines 69–108). -/
def loads (circulation : CirculationPump) : Option (List Load) :=
  if s.status.heatState = .unknown then none
  else do
    let pumps ← (List.finRange 6).mapM s.pumpLoad
    let dedicated ← s.circulationPumpPresent circulation
    let accessories ← s.accessories.mapM fun a => s.accessoryLoad a.1 a.2.1 a.2.2
    return .electronics :: ((if s.status.heatState = .heating then [.heater] else []) ++
      pumps.flatten ++ (if dedicated ∧ s.status.circulationPump then [.circulation] else []) ++
      accessories.flatten)

/-- `estimate` (lines 61–111). -/
def estimate (profile : Profile) (circulation : CirculationPump) : Option ℚ :=
  match s.loads circulation with
  | none => none
  | some loads =>
    if loads.any fun l => l ≠ .electronics ∧ profile.watts l = 0 then none
    else some (loads.map profile.watts).sum

/-! ## Bounds -/

variable {s} {profile : Profile} {circulation : CirculationPump} {w : ℚ}

theorem pumpLoad_length {i : Fin 6} {l : List Load} (h : s.pumpLoad i = some l) : l.length ≤ 1 := by
  unfold pumpLoad at h
  split at h
  · cases h
    exact Nat.zero_le 1
  · split at h
    · cases h
    · split at h
      · cases h
        exact Nat.zero_le 1
      · cases h
        exact le_rfl

theorem accessoryLoad_length {control : Control} {load : Load} {raw : UInt8} {l : List Load}
    (h : s.accessoryLoad control load raw = some l) : l.length ≤ 1 := by
  unfold accessoryLoad at h
  split at h
  · split at h
    · cases h
    · cases h
      exact Nat.zero_le 1
  · split at h
    · cases h
    · cases h
      split
      · exact le_rfl
      · exact Nat.zero_le 1

theorem length_flatten_mapM {α β : Type} {f : α → Option (List β)} {l : List α}
    {ys : List (List β)} (hf : ∀ a y, f a = some y → y.length ≤ 1) (h : l.mapM f = some ys) :
    ys.flatten.length ≤ l.length := by
  induction l generalizing ys with
  | nil =>
    cases h
    exact le_rfl
  | cons a l ih =>
    rw [List.mapM_cons] at h
    obtain ⟨y, hy, h⟩ := Option.bind_eq_some_iff.mp h
    obtain ⟨ys', hys, h⟩ := Option.bind_eq_some_iff.mp h
    cases h
    have hlength := hf a y hy
    have hrest := ih hys
    simp only [List.flatten_cons, List.length_append, List.length_cons]
    omega

theorem loads_length {loads : List Load} (h : s.loads circulation = some loads) :
    loads.length ≤ 15 := by
  unfold SpaState.loads at h
  split at h
  · cases h
  · obtain ⟨pumps, hpumps, h⟩ := Option.bind_eq_some_iff.mp h
    obtain ⟨dedicated, -, h⟩ := Option.bind_eq_some_iff.mp h
    obtain ⟨accessories, haccessories, h⟩ := Option.bind_eq_some_iff.mp h
    cases h
    have hp := length_flatten_mapM (fun _ _ => pumpLoad_length) hpumps
    have ha := length_flatten_mapM (fun _ _ => accessoryLoad_length) haccessories
    have hheater : (if s.status.heatState = .heating then [Load.heater] else []).length ≤ 1 := by
      split <;> simp
    have hcirculation :
        (if dedicated ∧ s.status.circulationPump then [Load.circulation] else []).length ≤ 1 := by
      split <;> simp
    simp only [List.length_cons, List.length_append]
    simp only [List.length_finRange, SpaState.accessories, List.length_cons, List.length_nil]
      at hp ha
    omega

/-- **An estimate prices every running load**, and only at ratings that are configured. -/
theorem estimate_some (h : s.estimate profile circulation = some w) :
    ∃ loads, s.loads circulation = some loads ∧ w = (loads.map profile.watts).sum ∧
      ∀ l ∈ loads, l = .electronics ∨ 0 < profile.watts l := by
  unfold estimate at h
  split at h
  · cases h
  · next loads hloads =>
    split at h
    · cases h
    · next hconfigured =>
      refine ⟨loads, hloads, (Option.some.inj h).symm, fun l hl => ?_⟩
      by_contra hnot
      obtain ⟨hne, hle⟩ := not_or.mp hnot
      have hzero : profile.watts l = 0 := le_antisymm (not_lt.mp hle) (profile.valid l).1
      exact hconfigured (List.any_eq_true.mpr ⟨l, hl, by simp [hne, hzero]⟩)

/-- **No estimate is negative or above the most a spa can draw.** -/
theorem estimate_le (h : s.estimate profile circulation = some w) : 0 ≤ w ∧ w ≤ maxWatts := by
  obtain ⟨loads, hloads, rfl, -⟩ := estimate_some h
  constructor
  · refine List.sum_nonneg fun x hx => ?_
    obtain ⟨l, -, rfl⟩ := List.mem_map.mp hx
    exact (profile.valid l).1
  · have hbound : ∀ x ∈ loads.map profile.watts, x ≤ 25000 := by
      intro x hx
      obtain ⟨l, -, rfl⟩ := List.mem_map.mp hx
      exact (profile.valid l).2
    have hsum := List.sum_le_card_nsmul (loads.map profile.watts) 25000 hbound
    have hlength : (loads.length : ℚ) ≤ 15 := by exact_mod_cast loads_length hloads
    rw [List.length_map, nsmul_eq_mul] at hsum
    unfold maxWatts
    linarith

end SpaState

end BalboaRs485
