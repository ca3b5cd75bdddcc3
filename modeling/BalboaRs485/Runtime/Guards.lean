import BalboaRs485.Runtime.Commands

/-!
# The guards of the participant

`SpaRuntime.request` keeps the predicate of a goal in `guards`, under the control of
the goal, and `prepare` calls every predicate it finds there before it hands out an
action. The goals live in the engine, which knows nothing of the predicates.

* `Guarded`: the goal `id`, as long as it can still be sent, has its predicate in
  `guards`. Every method of the participant keeps this (`Guarded.descend`,
  `Guarded.request`, `Guarded.prepare`), and an accepted request establishes it for
  its own goal (`guarded_new`).
* `guardCalls`: the calls that one `prepare` makes; recording them changes nothing
  (`admitGuards_logged`).
* `prepare_called`: `prepare` only hands out the action of a guarded goal if it has
  called the predicate of that goal and the answer was `True`.
-/

namespace BalboaRs485

namespace Commands

variable {γ ρ : Type}

/-! ## Requests -/

/-- The end of `SpaRuntime.request` (`runtime.py` lines 288–300): the goal of an accepted
    request brings its guard, or takes the one of its control away. -/
def request (cfg : RuntimeConfig) (c : Commands γ) (r : Engine.Request) (guard : Option γ) :
    Except Engine.RequestError Intent × Commands γ :=
  match c.engine.request cfg.engine r with
  | (.error e, engine) => (.error e, { c with engine })
  | (.ok intent, engine) =>
    (.ok intent, { c with
      engine
      guards :=
        match guard with
        | none => c.guards.pop r.control
        | some guard => c.guards.set r.control (intent.id, guard) })

/-- The goal of a request and the guards are changed together, or the engine alone. -/
theorem request_case (cfg : RuntimeConfig) (c : Commands γ) (r : Engine.Request)
    (guard : Option γ) :
    (∃ e, c.request cfg r guard =
        (.error e, { c with engine := (c.engine.request cfg.engine r).2 }) ∧
        (c.engine.request cfg.engine r).1 = .error e) ∨
      ∃ intent, (c.engine.request cfg.engine r).1 = .ok intent ∧
        c.request cfg r guard = (.ok intent, { c with
          engine := (c.engine.request cfg.engine r).2
          guards :=
            match guard with
            | none => c.guards.pop r.control
            | some guard => c.guards.set r.control (intent.id, guard) }) := by
  unfold request
  rcases c.engine.request cfg.engine r with ⟨e | intent, engine⟩
  · exact Or.inl ⟨e, rfl, rfl⟩
  · exact Or.inr ⟨intent, rfl, rfl⟩

theorem request_engine (cfg : RuntimeConfig) (c : Commands γ) (r : Engine.Request)
    (guard : Option γ) :
    (c.request cfg r guard).2.engine = (c.engine.request cfg.engine r).2 ∧
      (c.request cfg r guard).1 = (c.engine.request cfg.engine r).1 := by
  obtain ⟨e, heq, he⟩ | ⟨intent, hok, heq⟩ := request_case cfg c r guard
  · rw [heq, he]
    exact ⟨rfl, rfl⟩
  · rw [heq, hok]
    exact ⟨rfl, rfl⟩

/-! ## Calls of the guards -/

/-- One round of the loop over the guards. -/
inductive AdmitCase (valid : Control → γ → ρ → Bool × γ × ρ) (c : Commands γ) (r : ρ)
    (control : Control) (id : ℕ) (guard : γ) : Commands γ → ρ → Prop
  | dropped (h : c.guardsPending id = false) :
      AdmitCase valid c r control id guard { c with guards := c.guards.pop control } r
  | admitted (h : c.guardsPending id = true) (guard' : γ) (r' : ρ)
      (hv : valid control guard r = (true, guard', r')) :
      AdmitCase valid c r control id guard
        { c with guards := c.guards.set control (id, guard') } r'
  | refused (h : c.guardsPending id = true) (guard' : γ) (r' : ρ)
      (hv : valid control guard r = (false, guard', r')) :
      AdmitCase valid c r control id guard
        { c with
          engine := c.engine.cancel control none
          guards := c.guards.pop control } r'

theorem admitGuards_cons (valid : Control → γ → ρ → Bool × γ × ρ) (c : Commands γ) (r : ρ)
    (control : Control) (id : ℕ) (guard : γ) (l : List (Control × ℕ × γ)) :
    ∃ c₁ r₁, AdmitCase valid c r control id guard c₁ r₁ ∧
      admitGuards valid ((control, id, guard) :: l) c r = admitGuards valid l c₁ r₁ := by
  cases hpending : c.guardsPending id with
  | false =>
    refine ⟨_, _, .dropped hpending, ?_⟩
    rw [admitGuards, if_pos (by simpa using hpending)]
  | true =>
    rw [admitGuards, if_neg (by simpa using hpending)]
    rcases hv : valid control guard r with ⟨_ | _, guard', r'⟩
    · exact ⟨_, _, .refused hpending guard' r' hv, rfl⟩
    · exact ⟨_, _, .admitted hpending guard' r' hv, rfl⟩

/-- One call of a guard: what it was called on, and its answer. -/
structure GuardCall (γ ρ : Type) where
  control : Control
  guard : γ
  owner : ρ
  answer : Bool

/-- `valid`, which records its calls. -/
def logged (valid : Control → γ → ρ → Bool × γ × ρ) (control : Control) (guard : γ)
    (r : ρ × List (GuardCall γ ρ)) : Bool × γ × ρ × List (GuardCall γ ρ) :=
  ((valid control guard r.1).1, (valid control guard r.1).2.1, (valid control guard r.1).2.2,
    r.2 ++ [⟨control, guard, r.1, (valid control guard r.1).1⟩])

/-- The calls that `prepare` makes. -/
def guardCalls (valid : Control → γ → ρ → Bool × γ × ρ) (c : Commands γ) (r : ρ) :
    List (GuardCall γ ρ) :=
  (admitGuards (logged valid) c.guards.entries c (r, [])).2.2

/-- **Recording the calls changes nothing.** -/
theorem admitGuards_logged (valid : Control → γ → ρ → Bool × γ × ρ) (l : List (Control × ℕ × γ))
    (c : Commands γ) (r : ρ) (log : List (GuardCall γ ρ)) :
    (admitGuards (logged valid) l c (r, log)).1 = (admitGuards valid l c r).1 ∧
      (admitGuards (logged valid) l c (r, log)).2.1 = (admitGuards valid l c r).2 := by
  induction l generalizing c r log with
  | nil => exact ⟨rfl, rfl⟩
  | cons entry l ih =>
    obtain ⟨control, id, guard⟩ := entry
    unfold admitGuards
    by_cases hpending : c.guardsPending id
    · rw [if_neg (by simpa using hpending), if_neg (by simpa using hpending)]
      rcases hv : valid control guard r with ⟨answer, guard', r'⟩
      have hlog : logged valid control guard (r, log) =
          (answer, guard', r', log ++ [⟨control, guard, r, answer⟩]) := by
        unfold logged
        rw [hv]
      rw [hlog]
      cases answer
      · exact ih _ _ _
      · exact ih _ _ _
    · rw [if_pos (by simpa using hpending), if_pos (by simpa using hpending)]
      exact ih _ _ _

/-- A recorded answer is the one the guard gave. -/
theorem guardCalls_answer (valid : Control → γ → ρ → Bool × γ × ρ) (c : Commands γ) (r : ρ) :
    ∀ call ∈ guardCalls valid c r,
      call.answer = (valid call.control call.guard call.owner).1 := by
  refine admitGuards_owner c (logged valid)
    (P := fun r => ∀ call ∈ r.2, call.answer = (valid call.control call.guard call.owner).1)
    (fun control guard r h call hcall => ?_) _ _ (by simp)
  rcases List.mem_append.mp hcall with hcall | hcall
  · exact h call hcall
  · rw [List.mem_singleton.mp hcall]

/-- A guard is only called while the goal behind it can still be sent. -/
theorem admitGuards_calls (cfg : RuntimeConfig) (valid : Control → γ → ρ → Bool × γ × ρ)
    (l : List (Control × ℕ × γ)) (c : Commands γ) (r : ρ) (log : List (GuardCall γ ρ)) :
    ∀ call ∈ (admitGuards (logged valid) l c (r, log)).2.2, call ∈ log ∨
      ∃ id e item, (call.control, id, call.guard) ∈ l ∧
        Engine.Calls cfg.engine PrepareOp c.engine e ∧ e.intent id = some item ∧
          item.stage.terminal = false := by
  induction l generalizing c r log with
  | nil => exact fun call hcall => Or.inl hcall
  | cons entry l ih =>
    intro call hcall
    obtain ⟨control, id, guard⟩ := entry
    obtain ⟨c₁, ⟨r₁, log₁⟩, hcase, heq⟩ :=
      admitGuards_cons (logged valid) c (r, log) control id guard l
    rw [heq] at hcall
    have hcalls : Engine.Calls cfg.engine PrepareOp c.engine c₁.engine := by
      cases hcase with
      | dropped => exact .refl _
      | admitted => exact .refl _
      | refused => exact .one (.cancel control none) trivial
    have hnow : log₁ = log ∨ c.guardsPending id = true ∧
        ∃ answer, log₁ = log ++ [⟨control, guard, r, answer⟩] := by
      cases hcase with
      | dropped => exact Or.inl rfl
      | admitted hpending guard' _ hv => exact Or.inr ⟨hpending, _, (congrArg (·.2.2.2) hv).symm⟩
      | refused hpending guard' _ hv => exact Or.inr ⟨hpending, _, (congrArg (·.2.2.2) hv).symm⟩
    rcases ih c₁ r₁ log₁ call hcall with hlog | ⟨id', e, item, hmem, he, hi, hlive⟩
    · rcases hnow with rfl | ⟨hpending, answer, rfl⟩
      · exact Or.inl hlog
      · rcases List.mem_append.mp hlog with hlog | hlog
        · exact Or.inl hlog
        · obtain rfl := List.mem_singleton.mp hlog
          obtain ⟨item, hi, hlive⟩ := (Option.any_eq_true _ _).mp hpending
          exact Or.inr ⟨id, c.engine, item, List.mem_cons_self, .refl _, hi, by simpa using hlive⟩
    · exact Or.inr ⟨id', e, item, List.mem_cons_of_mem _ hmem, hcalls.trans he, hi, hlive⟩

theorem guardCalls_live (cfg : RuntimeConfig) (valid : Control → γ → ρ → Bool × γ × ρ)
    (c : Commands γ) (r : ρ) : ∀ call ∈ guardCalls valid c r,
      ∃ id e item, c.guards.get? call.control = some (id, call.guard) ∧
        Engine.Calls cfg.engine PrepareOp c.engine e ∧ e.intent id = some item ∧
          item.stage.terminal = false := by
  intro call hcall
  rcases admitGuards_calls cfg valid c.guards.entries c r [] call hcall with
    hnone | ⟨id, e, item, hmem, hrest⟩
  · cases hnone
  · exact ⟨id, e, item, c.guards.mem_entries.mp hmem, hrest⟩

/-- What holds of every guard, and of what its calls make of it, holds behind the loop. -/
theorem admitGuards_entries {valid : Control → γ → ρ → Bool × γ × ρ} {Q : Control → ℕ → γ → Prop}
    (hQ : ∀ control id guard r, Q control id guard → Q control id (valid control guard r).2.1)
    (l : List (Control × ℕ × γ)) (hl : ∀ control id guard, (control, id, guard) ∈ l →
      Q control id guard) (c : Commands γ) (r : ρ)
    (h : ∀ control id guard, c.guards.get? control = some (id, guard) → Q control id guard) :
    ∀ control id guard, (admitGuards valid l c r).1.guards.get? control = some (id, guard) →
      Q control id guard := by
  induction l generalizing c r with
  | nil => exact h
  | cons entry l ih =>
    obtain ⟨control, id, guard⟩ := entry
    obtain ⟨c₁, r₁, hcase, heq⟩ := admitGuards_cons valid c r control id guard l
    rw [heq]
    refine ih (fun control' id' guard' hmem => hl control' id' guard' (List.mem_cons_of_mem _ hmem))
      c₁ r₁ fun control' id' guard' hget => ?_
    have hpopped : ∀ k, (c.guards.pop k).get? control' = some (id', guard') →
        Q control' id' guard' := by
      intro k hget
      rw [Dict.get?_pop] at hget
      split at hget
      · cases hget
      · exact h control' id' guard' hget
    cases hcase with
    | dropped => exact hpopped control hget
    | refused => exact hpopped control hget
    | admitted _ changed _ hv =>
      have hget : (c.guards.set control (id, changed)).get? control' = some (id', guard') := hget
      rw [Dict.get?_set] at hget
      split at hget
      · next hsame =>
        cases hget
        rw [hsame]
        have hchanged := hQ control id guard r (hl control id guard List.mem_cons_self)
        rw [hv] at hchanged
        exact hchanged
      · exact h control' id' guard' hget

/-! ## Guarded goals -/

/-- The goal `id` of a control, as long as it can still be sent, has a guard with the
    property `P` in `guards`. -/
structure Guarded (c : Commands γ) (control : Control) (id : ℕ) (P : γ → Prop) : Prop where
  known : id ≤ c.engine.counter
  asked : ∀ item, c.engine.intent id = some item → item.control = control
  held : ∀ item, c.engine.intent id = some item → item.stage.terminal = false →
    ∃ guard, c.guards.get? control = some (id, guard) ∧ P guard

section Guarded

variable {cfg : RuntimeConfig} {c c' : Commands γ} {control : Control} {id : ℕ} {P : γ → Prop}

/-- A goal that can still be sent could be sent before. -/
theorem Guarded.earlier (h : Guarded c control id P) (hd : Engine.Descends c.engine c'.engine)
    {item' : Intent} (hi : c'.engine.intent id = some item') :
    item'.control = control ∧ (item'.stage.terminal = false →
      ∃ item, c.engine.intent id = some item ∧ item.stage.terminal = false) := by
  obtain ⟨item, hi₀, hg, hlive⟩ := hd.goal id item' h.known hi
  refine ⟨?_, fun ht => ⟨item, hi₀, hlive ht⟩⟩
  rw [Engine.intent_control hg]
  exact h.asked item hi₀

/-- What leaves the guard of the goal alone keeps it guarded. -/
theorem Guarded.descend (h : Guarded c control id P)
    (hd : Engine.Descends c.engine c'.engine)
    (hguards : c'.guards.get? control = c.guards.get? control) : Guarded c' control id P where
  known := h.known.trans hd.counter
  asked := fun _ hi => (h.earlier hd hi).1
  held := by
    intro item' hi hlive
    obtain ⟨item, hi₀, hlive₀⟩ := (h.earlier hd hi).2 hlive
    rw [hguards]
    exact h.held item hi₀ hlive₀

theorem Guarded.mono {Q : γ → Prop} (h : Guarded c control id P) (hPQ : ∀ guard, P guard → Q guard) :
    Guarded c control id Q where
  known := h.known
  asked := h.asked
  held := by
    intro item hi hlive
    obtain ⟨guard, hget, hP⟩ := h.held item hi hlive
    exact ⟨guard, hget, hPQ guard hP⟩

/-- A request, accepted or not, of any control and with any guard. -/
theorem Guarded.request (h : Guarded c control id P) (hr : Engine.IntentRep c.engine)
    (hp : Engine.Pending c.engine) (r : Engine.Request) (guard : Option γ) :
    Guarded (c.request cfg r guard).2 control id P := by
  have hd : Engine.Descends c.engine (c.engine.request cfg.engine r).2 :=
    Engine.step_descends hr hp (.request r)
  obtain ⟨e, heq, -⟩ | ⟨intent, hok, heq⟩ := request_case cfg c r guard
  · rw [heq]
    exact h.descend hd rfl
  · have hengine := (request_engine cfg c r guard).1
    refine ⟨?_, ?_, ?_⟩
    · rw [hengine]
      exact h.known.trans hd.counter
    · intro item' hi
      rw [hengine] at hi
      have hd' : Engine.Descends c.engine
          ({ c with engine := (c.engine.request cfg.engine r).2 } : Commands γ).engine := hd
      exact (h.earlier hd' hi).1
    · intro item' hi hlive
      rw [hengine] at hi
      rcases (Engine.request_pending cfg.engine hr hp r).2 id item' hi hlive with
        ⟨item, hi₀, hg, hlive₀, hother⟩ | ⟨-, hnew⟩
      · -- the goal of another control keeps its guard
        have hne : control ≠ r.control := by
          rw [← h.asked item hi₀, ← Engine.intent_control hg]
          exact hother intent hok
        obtain ⟨g, hget, hP⟩ := h.held item hi₀ hlive₀
        refine ⟨g, ?_, hP⟩
        rw [heq, ← hget]
        cases guard with
        | none => exact (Dict.get?_pop _ _ _).trans (if_neg hne)
        | some guard => exact (Dict.get?_set _ _ _ _).trans (if_neg hne)
      · have := h.known
        omega

/-- **An accepted request guards its goal.** -/
theorem guarded_new (hr : Engine.IntentRep c.engine) {r : Engine.Request} {guard : γ}
    {intent : Intent} (h : (c.request cfg r (some guard)).1 = .ok intent) :
    Guarded (c.request cfg r (some guard)).2 r.control intent.id (· = guard) := by
  have hengine := request_engine cfg c r (some guard)
  obtain ⟨e, s', herr, -⟩ | ⟨new, s₁, hok, -, hid, hc, -, -, -, hnew, -, hcounter, -⟩ :=
    Engine.request_intents cfg.engine r hr
  · rw [hengine.2, herr] at h
    cases h
  · rw [hengine.2, hok] at h
    cases h
    have hguard : (c.request cfg r (some guard)).2.guards.get? r.control =
        some (intent.id, guard) := by
      obtain ⟨e, -, herr⟩ | ⟨intent', hok', heq⟩ := request_case cfg c r (some guard)
      · rw [hok] at herr
        cases herr
      · rw [hok] at hok'
        cases hok'
        rw [heq]
        exact Dict.get?_set_self _ _ _
    refine ⟨?_, ?_, fun _ _ _ => ⟨guard, hguard, rfl⟩⟩
    · rw [hengine.1, hcounter, hid]
    · intro item hi
      rw [hengine.1, hnew] at hi
      cases hi
      exact hc

/-! ## `prepare` -/

theorem offer_guards (cfg : RuntimeConfig) (c : Commands γ) (now : ℚ) :
    (c.offer cfg now).2.guards = c.guards := by
  unfold offer
  split
  · rfl
  · split
    · rfl
    · rfl
    · split <;> rfl

/-- An action that is offered is the next one of the engine, which is left as it was handed
    out. -/
theorem offer_next (cfg : RuntimeConfig) (c : Commands γ) {now : ℚ} {t : Transmission}
    {action : Action} (h : (c.offer cfg now).1 = some t) (ht : t.token = .action action) :
    (c.engine.nextAction cfg.engine now).1 = some action ∧
      (c.offer cfg now).2.engine = (c.engine.nextAction cfg.engine now).2 := by
  refine ⟨(offer_action cfg c h ht).1, ?_⟩
  unfold offer at h ⊢
  split at h
  · cases h
  next hpending =>
  rw [if_neg hpending]
  split at h
  · cases h
    cases ht
  · cases h
    cases ht
  · split at h
    · next heq => rw [heq]
    · cases h

variable {valid : Control → γ → ρ → Bool × γ × ρ} {r r₁ : ρ} {c₁ : Commands γ}

/-- One round of the loop, on the guard of any control. -/
theorem AdmitCase.calls {control : Control} {id : ℕ} {guard : γ}
    (h : AdmitCase valid c r control id guard c₁ r₁) :
    Engine.Calls .default PrepareOp c.engine c₁.engine := by
  cases h with
  | dropped => exact .refl _
  | admitted => exact .refl _
  | refused => exact .one (.cancel control none) trivial

/-- One round on another control. -/
theorem AdmitCase.other {control' : Control} {id' : ℕ} {guard : γ}
    (h : AdmitCase valid c r control' id' guard c₁ r₁) (hne : control ≠ control') :
    c₁.guards.get? control = c.guards.get? control := by
  cases h with
  | dropped => exact (Dict.get?_pop _ _ _).trans (if_neg hne)
  | admitted => exact (Dict.get?_set _ _ _ _).trans (if_neg hne)
  | refused => exact (Dict.get?_pop _ _ _).trans (if_neg hne)

/-- One round on the control of the goal: a goal that can still be sent behind it had its
    guard called, and the answer was `True`. -/
theorem AdmitCase.own {id' : ℕ} {guard : γ} (h : AdmitCase valid c r control id' guard c₁ r₁)
    (hr : Engine.IntentRep c.engine) (hp : Engine.Pending c.engine) (hg : Guarded c control id P)
    (hget : c.guards.get? control = some (id', guard)) {item : Intent}
    (hi : c₁.engine.intent id = some item) (hlive : item.stage.terminal = false) :
    id' = id ∧ P guard ∧ (valid control guard r).1 = true ∧ (valid control guard r).2.2 = r₁ ∧
      c₁.guards.get? control = some (id, (valid control guard r).2.1) := by
  have hd : Engine.Descends c.engine c₁.engine := h.calls.descends hr hp
  obtain ⟨item₀, hi₀, hlive₀⟩ := (hg.earlier hd hi).2 hlive
  obtain ⟨g, hget', hP⟩ := hg.held item₀ hi₀ hlive₀
  rw [hget] at hget'
  cases hget'
  have hpending : c.guardsPending id = true := by
    unfold guardsPending
    rw [hi₀]
    simp [hlive₀]
  cases h with
  | dropped h =>
    rw [hpending] at h
    cases h
  | admitted h guard' r' hv =>
    rw [hv]
    exact ⟨rfl, hP, rfl, rfl, Dict.get?_set_self _ _ _⟩
  | refused h guard' r' hv =>
    have := Engine.cancel_ends hr hp control none hi (hg.earlier hd hi).1
    rw [hlive] at this
    cases this

/-- One round, on the guard of any control, keeps the goal guarded. -/
theorem AdmitCase.guarded {control' : Control} {id' : ℕ} {guard : γ}
    (h : AdmitCase valid c r control' id' guard c₁ r₁) (hr : Engine.IntentRep c.engine)
    (hp : Engine.Pending c.engine) (hg : Guarded c control id P)
    (hP : ∀ g r, P g → P (valid control g r).2.1)
    (hget : c.guards.get? control' = some (id', guard)) : Guarded c₁ control id P := by
  have hd : Engine.Descends c.engine c₁.engine := h.calls.descends hr hp
  by_cases hne : control = control'
  · subst hne
    refine ⟨hg.known.trans hd.counter, fun _ hi => (hg.earlier hd hi).1, fun item hi hlive => ?_⟩
    obtain ⟨-, hguard, -, -, hget₁⟩ := h.own hr hp hg hget hi hlive
    exact ⟨_, hget₁, hP _ _ hguard⟩
  · exact hg.descend hd (h.other hne)

/-- The entries behind this round still have the guards they were copied with. -/
theorem AdmitCase.sync {control' : Control} {id' : ℕ} {guard : γ} {l : List (Control × ℕ × γ)}
    (h : AdmitCase valid c r control' id' guard c₁ r₁) (hl : control' ∉ l.map Prod.fst)
    (hsync : ∀ k x, (k, x) ∈ l → c.guards.get? k = some x) :
    ∀ k x, (k, x) ∈ l → c₁.guards.get? k = some x := by
  intro k x hx
  have hne : k ≠ control' := by
    rintro rfl
    exact hl (List.mem_map.mpr ⟨(k, x), hx, rfl⟩)
  rw [h.other hne]
  exact hsync k x hx

/-- The loop keeps the goal guarded. Its entries have distinct controls, so none is called
    on a guard that an earlier round has changed. -/
theorem admitGuards_guarded (hP : ∀ g r, P g → P (valid control g r).2.1)
    (l : List (Control × ℕ × γ)) (hl : (l.map Prod.fst).Nodup) (c : Commands γ)
    (hr : Engine.IntentRep c.engine) (hp : Engine.Pending c.engine)
    (hsync : ∀ k x, (k, x) ∈ l → c.guards.get? k = some x)
    (hg : Guarded c control id P) (r : ρ) : Guarded (admitGuards valid l c r).1 control id P := by
  induction l generalizing c r with
  | nil => exact hg
  | cons entry l ih =>
    obtain ⟨k, id', guard⟩ := entry
    obtain ⟨c₁, r₁, hcase, heq⟩ := admitGuards_cons valid c r k id' guard l
    rw [List.map_cons, List.nodup_cons] at hl
    obtain ⟨hr₁, hp₁⟩ := hcase.calls.rep hr hp
    rw [heq]
    exact ih hl.2 c₁ hr₁ hp₁
      (hcase.sync hl.1 fun k' x hx => hsync k' x (List.mem_cons_of_mem _ hx))
      (hcase.guarded hr hp hg hP (hsync k (id', guard) List.mem_cons_self)) r₁

/-- **What the answer `True` establishes.** `Q` holds of the owner of a guard once the guard
    has answered `True`, and no other call takes it back. Then it holds behind the loop if
    the goal can still be sent. -/
theorem admitGuards_called (cfg : RuntimeConfig) {Q : ρ → Prop}
    (hQ : ∀ g r, P g → (valid control g r).1 = true → Q (valid control g r).2.2)
    (hkeep : ∀ k g r, Q r → Q (valid k g r).2.2)
    (l : List (Control × ℕ × γ)) (hl : (l.map Prod.fst).Nodup) (c : Commands γ)
    (hr : Engine.IntentRep c.engine) (hp : Engine.Pending c.engine)
    (hmem : ∀ x, c.guards.get? control = some x → (control, x) ∈ l)
    (hsync : ∀ k x, (k, x) ∈ l → c.guards.get? k = some x)
    (hg : Guarded c control id P) (r : ρ) {item : Intent}
    (hi : (admitGuards valid l c r).1.engine.intent id = some item)
    (hlive : item.stage.terminal = false) : Q (admitGuards valid l c r).2 := by
  induction l generalizing c r with
  | nil =>
    obtain ⟨guard, hget, -⟩ := hg.held item hi hlive
    exact absurd (hmem _ hget) (by simp)
  | cons entry l ih =>
    obtain ⟨k, id', guard⟩ := entry
    obtain ⟨c₁, r₁, hcase, heq⟩ := admitGuards_cons valid c r k id' guard l
    have hget : c.guards.get? k = some (id', guard) := hsync k _ List.mem_cons_self
    have hd : Engine.Descends c.engine c₁.engine := hcase.calls.descends hr hp
    obtain ⟨hr₁, hp₁⟩ := hcase.calls.rep hr hp
    rw [List.map_cons, List.nodup_cons] at hl
    rw [heq] at hi ⊢
    by_cases hne : control = k
    · subst hne
      have hrest := admitGuards_engine cfg c₁ valid l r₁
      have hknown : id ≤ c₁.engine.counter := hg.known.trans hd.counter
      obtain ⟨item₁, hi₁, -, hlive₁⟩ := (hrest.descends hr₁ hp₁).goal id item hknown hi
      obtain ⟨-, hP, hyes, hr', -⟩ := hcase.own hr hp hg hget hi₁ (hlive₁ hlive)
      refine admitGuards_owner c₁ valid hkeep l r₁ ?_
      rw [← hr']
      exact hQ guard r hP hyes
    · refine ih hl.2 c₁ hr₁ hp₁ (fun x hx => ?_)
        (hcase.sync hl.1 fun k' x hx => hsync k' x (List.mem_cons_of_mem _ hx))
        (hg.descend hd (hcase.other hne)) r₁ hi
      rw [hcase.other hne] at hx
      exact (List.mem_cons.mp (hmem x hx)).resolve_left fun h => hne (congrArg Prod.fst h)

/-- `prepare` keeps the goal guarded. -/
theorem Guarded.prepare (cfg : RuntimeConfig) (hP : ∀ g r, P g → P (valid control g r).2.1)
    (hg : Guarded c control id P) (hr : Engine.IntentRep c.engine) (hp : Engine.Pending c.engine)
    (r : ρ) (now : ℚ) : Guarded (c.prepare cfg valid r now).2.1 control id P := by
  have hadmitted : Guarded (admitGuards valid c.guards.entries c r).1 control id P :=
    admitGuards_guarded hP c.guards.entries c.guards.nodup c hr hp
      (fun _ _ h => c.guards.mem_entries.mp h) hg r
  obtain ⟨hr₁, hp₁⟩ := (admitGuards_engine cfg c valid c.guards.entries r).rep hr hp
  refine hadmitted.descend ((offer_engine cfg _ now).descends hr₁ hp₁) ?_
  show (offer cfg _ now).2.guards.get? control = _
  rw [offer_guards]

/-- What the answer `True` establishes holds behind a `prepare` that leaves the goal to be
    sent. -/
theorem prepare_called (cfg : RuntimeConfig) {Q : ρ → Prop}
    (hQ : ∀ g r, P g → (valid control g r).1 = true → Q (valid control g r).2.2)
    (hkeep : ∀ k g r, Q r → Q (valid k g r).2.2) (hg : Guarded c control id P)
    (hr : Engine.IntentRep c.engine) (hp : Engine.Pending c.engine) (r : ρ) (now : ℚ) {item : Intent}
    (hi : (c.prepare cfg valid r now).2.1.engine.intent id = some item)
    (hlive : item.stage.terminal = false) : Q (c.prepare cfg valid r now).2.2 := by
  obtain ⟨hr₁, hp₁⟩ := (admitGuards_engine cfg c valid c.guards.entries r).rep hr hp
  have hknown : id ≤ (admitGuards valid c.guards.entries c r).1.engine.counter :=
    hg.known.trans ((admitGuards_engine cfg c valid c.guards.entries r).descends hr hp).counter
  obtain ⟨item₁, hi₁, -, hlive₁⟩ :=
    ((offer_engine cfg _ now).descends hr₁ hp₁).goal id item hknown hi
  exact admitGuards_called cfg hQ hkeep c.guards.entries c.guards.nodup c hr hp
    (fun _ h => c.guards.mem_entries.mpr h) (fun _ _ h => c.guards.mem_entries.mp h) hg r hi₁
    (hlive₁ hlive)

/-- An action is handed out for a goal that can still be sent behind the `prepare`. -/
theorem prepare_live (cfg : RuntimeConfig) (hr : Engine.IntentRep c.engine)
    (hp : Engine.Pending c.engine) {now : ℚ} {t : Transmission} {action : Action}
    (h : (c.prepare cfg valid r now).1 = some t) (ht : t.token = .action action) :
    ∃ item, (c.prepare cfg valid r now).2.1.engine.intent action.intent.id = some item ∧
      item.stage.terminal = false ∧ item.goal = action.intent.goal := by
  obtain ⟨hr₁, -⟩ := (admitGuards_engine cfg c valid c.guards.entries r).rep hr hp
  obtain ⟨hnext, heq⟩ := offer_next cfg _ h ht
  obtain ⟨-, -, -, -, -, -, hfinal⟩ := Engine.nextAction_intent hr₁ hnext
  exact ⟨_, (congrArg (fun e => Engine.intent e action.intent.id) heq).trans hfinal, rfl, rfl⟩

/-- **The guard of what is handed out was called, and has answered `True`.** -/
theorem prepare_guardCalls (cfg : RuntimeConfig) (hg : Guarded c control id P)
    (hr : Engine.IntentRep c.engine) (hp : Engine.Pending c.engine) (r : ρ) (now : ℚ) {item : Intent}
    (hi : (c.prepare cfg valid r now).2.1.engine.intent id = some item)
    (hlive : item.stage.terminal = false) :
    ∃ call ∈ guardCalls valid c r, call.control = control ∧ P call.guard ∧ call.answer = true := by
  have hlogged := admitGuards_logged valid c.guards.entries c r []
  have hprepare :
      (c.prepare cfg (logged valid) (r, []) now).2.1 = (c.prepare cfg valid r now).2.1 := by
    show (offer cfg (admitGuards (logged valid) c.guards.entries c (r, [])).1 now).2 = _
    rw [hlogged.1]
    rfl
  have hafter : (c.prepare cfg (logged valid) (r, []) now).2.1.engine.intent id = some item :=
    hprepare ▸ hi
  refine prepare_called cfg (Q := fun r => ∃ call ∈ r.2, call.control = control ∧ P call.guard ∧
    call.answer = true) (fun g r hP hyes => ?_) ?_ hg hr hp (r, []) now hafter hlive
  · exact ⟨_, List.mem_append_right _ (List.mem_singleton_self _), rfl, hP, hyes⟩
  · rintro k g r ⟨call, hcall, hrest⟩
    exact ⟨call, List.mem_append_left _ hcall, hrest⟩

end Guarded

end Commands

end BalboaRs485
