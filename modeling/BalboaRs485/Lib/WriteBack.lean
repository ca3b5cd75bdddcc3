import Mathlib.Logic.Relation

/-!
# A value that is written back

A program changes a value in memory. A saver in the background writes copies of it to a disk: a
flag says that the memory has changed since the last copy was made, and a signal wakes the saver.
The program may stop at any time and starts from the disk.

A `Medium` says what a start finds on a disk. `WriteBack.Step` is what can happen; a write that is
given up may still reach the disk later, until the next one begins.

* `Step.sound`: the disk is as good as the memory unless a flag, a signal or a failure says
  otherwise.
* `Sound.finds`, `Sound.landed`: between two writes nothing is lost if the program stops.
-/

namespace BalboaRs485

namespace WriteBack

variable {α δ : Type*}

/-- How values of `α` are kept on disks of type `δ`. -/
structure Medium (α δ : Type*) where
  /-- The values that are kept. -/
  Valid : α → Prop
  /-- A start that finds the disk has the value. -/
  Finds : δ → α → Prop
  write : α → δ
  finds_write : ∀ a, Valid a → Finds (write a) a

/-- Every start that would have `a` would have `b` if `b` were the value. -/
def Medium.Covers (M : Medium α δ) (a b : α) : Prop := ∀ d, M.Finds d a → M.Finds d b

/-- What the saver does. -/
inductive Saver where
  /-- It waits for the signal. -/
  | asleep
  | writing
  /-- It is gone, and the program writes for the last time. -/
  | last
  | gone
deriving DecidableEq

namespace Saver

/-- A write is under way. -/
def busy (s : Saver) : Prop := s = writing ∨ s = last

instance (s : Saver) : Decidable s.busy := inferInstanceAs (Decidable (_ ∨ _))

/-- After a write. -/
def after : Saver → Saver
  | writing => asleep
  | last => gone
  | s => s

end Saver

/-- The value, the disk, the copy that was made last, and the saver. -/
structure Cell (α δ : Type*) where
  memory : α
  disk : δ
  copy : Option α := none
  dirty : Bool := false
  signal : Bool := false
  saver : Saver := .asleep
  failed : Bool := false
  /-- The disk writes when it likes. -/
  late : Bool := false

variable (M : Medium α δ)

/-- What a start has: the value of the disk, or the signal to write it. -/
structure Started (c : Cell α δ) : Prop where
  valid : c.failed = false → M.Valid c.memory
  copy : c.copy = none
  saver : c.saver = .asleep
  signal : c.dirty = true → c.signal = true
  clean : c.dirty = false → c.failed = false → M.Finds c.disk c.memory

/-- What can happen. -/
inductive Step : Cell α δ → Cell α δ → Prop where
  | change {c : Cell α δ} (a : α) (h : c.failed = false → M.Valid a) :
      Step c { c with memory := a, dirty := true, signal := true }
  /-- The disk does not know of the change, and need not. -/
  | adjust {c : Cell α δ} (a : α) (h : c.failed = false → M.Valid a)
      (hcovers : c.failed = false → M.Covers c.memory a) : Step c { c with memory := a }
  /-- The saver is woken and finds nothing to do. -/
  | idle {c : Cell α δ} (h : c.saver = .asleep) (hclean : c.dirty = false ∨ c.failed = true) :
      Step c { c with signal := false }
  | begin {c : Cell α δ} (h : c.saver = .asleep) (hfailed : c.failed = false) :
      Step c { c with
        signal := false, dirty := false, copy := some c.memory, saver := .writing }
  /-- The copy reaches the disk. -/
  | land {c : Cell α δ} {a : α} (h : c.copy = some a) : Step c { c with disk := M.write a }
  /-- The write has ended, and the copy is on the disk or will be. -/
  | confirm {c : Cell α δ} {a : α} (hbusy : c.saver.busy) (h : c.copy = some a)
      (hfinds : M.Finds c.disk a ∨ c.late = true) : Step c { c with saver := c.saver.after }
  | fail {c : Cell α δ} (hbusy : c.saver.busy) :
      Step c { c with failed := true, saver := c.saver.after }
  /-- The write is given up. -/
  | cancel {c : Cell α δ} (hbusy : c.saver.busy) : Step c { c with dirty := true, saver := .gone }
  /-- The saver is stopped while it sleeps. -/
  | stop {c : Cell α δ} (h : ¬ c.saver.busy) : Step c { c with saver := .gone }
  | close {c : Cell α δ} (h : c.saver = .gone) (hfailed : c.failed = false) :
      Step c { c with dirty := false, copy := some c.memory, saver := .last }
  | delay {c : Cell α δ} : Step c { c with late := true }
  | restart {c c' : Cell α δ} (hdisk : c'.disk = c.disk) (h : Started M c') : Step c c'

/-- **Nothing is forgotten**: a change is on the disk, or the saver has been told of it. -/
structure Sound (c : Cell α δ) : Prop where
  valid : c.failed = false → M.Valid c.memory
  copied : ∀ a ∈ c.copy, c.failed = false → M.Valid a
  busy : c.saver.busy → c.copy ≠ none
  told : c.dirty = true → c.failed = true ∨ c.signal = true ∨ c.saver = .gone
  copy : c.dirty = false → c.failed = false → ∀ a ∈ c.copy, M.Covers a c.memory
  clean : c.dirty = false → c.failed = false → ¬ c.saver.busy →
    M.Finds c.disk c.memory ∨ c.late = true ∧ c.copy ≠ none

variable {M} {c c' : Cell α δ}

theorem Started.sound (h : Started M c) : Sound M c where
  valid := h.valid
  copied a ha := by
    rw [h.copy] at ha
    cases ha
  busy hbusy := by
    rw [h.saver] at hbusy
    obtain h | h := hbusy <;> cases h
  told hdirty := Or.inr (Or.inl (h.signal hdirty))
  copy _ _ a ha := by
    rw [h.copy] at ha
    cases ha
  clean hdirty hfailed _ := Or.inl (h.clean hdirty hfailed)

theorem Saver.not_busy_after (s : Saver) : ¬ s.after.busy := by
  cases s <;> simp [after, busy]

/-- **One step forgets nothing.** -/
theorem Step.sound (h : Step M c c') (hc : Sound M c) : Sound M c' := by
  cases h with
  | change a hvalid =>
    exact ⟨hvalid, hc.copied, hc.busy, fun _ => Or.inr (Or.inl rfl), nofun, nofun⟩
  | adjust a hvalid hcovers =>
    refine ⟨hvalid, hc.copied, hc.busy, hc.told, fun hd hf b hb d hfinds => ?_,
      fun hd hf hidle => ?_⟩
    · exact hcovers hf d (hc.copy hd hf b hb d hfinds)
    · exact (hc.clean hd hf hidle).imp_left (hcovers hf _)
  | idle hasleep hclean =>
    refine ⟨hc.valid, hc.copied, hc.busy, fun hd => Or.inl ?_, hc.copy, hc.clean⟩
    obtain hdirty | hfailed := hclean
    · exact absurd (hdirty.symm.trans hd) (by decide)
    · exact hfailed
  | begin hasleep hfailed =>
    refine ⟨hc.valid, ?_, nofun, nofun, ?_, fun _ _ hidle => absurd (Or.inl rfl) hidle⟩
    · rintro _ ⟨⟩
      exact hc.valid
    · rintro - - _ ⟨⟩ d hfinds
      exact hfinds
  | @land a hcopy =>
    refine ⟨hc.valid, hc.copied, hc.busy, hc.told, hc.copy, fun hd hf _ => Or.inl ?_⟩
    exact hc.copy hd hf a hcopy _ (M.finds_write a (hc.copied a hcopy hf))
  | @confirm a hbusy hcopy hfinds =>
    have hgone : ¬ c.saver.after.busy := c.saver.not_busy_after
    refine ⟨hc.valid, hc.copied, fun h => absurd h hgone, fun hd => ?_, hc.copy,
      fun hd hf _ => ?_⟩
    · refine (hc.told hd).imp_right (Or.imp_right fun h => ?_)
      show c.saver.after = .gone
      rw [h]
      rfl
    · obtain hfinds | hlate := hfinds
      · exact Or.inl (hc.copy hd hf a hcopy _ hfinds)
      · exact Or.inr ⟨hlate, by rw [hcopy]; nofun⟩
  | fail hbusy =>
    exact ⟨nofun, nofun, fun h => absurd h c.saver.not_busy_after, fun _ => Or.inl rfl,
      nofun, nofun⟩
  | cancel hbusy =>
    refine ⟨hc.valid, hc.copied, fun h => ?_, fun _ => Or.inr (Or.inr rfl), nofun, nofun⟩
    obtain h | h := h <;> cases h
  | stop hidle =>
    refine ⟨hc.valid, hc.copied, fun h => ?_, fun _ => Or.inr (Or.inr rfl), hc.copy,
      fun hd hf _ => hc.clean hd hf hidle⟩
    obtain h | h := h <;> cases h
  | close hgone hfailed =>
    refine ⟨hc.valid, ?_, nofun, nofun, ?_, fun _ _ hidle => absurd (Or.inr rfl) hidle⟩
    · rintro _ ⟨⟩
      exact hc.valid
    · rintro - - _ ⟨⟩ d hfinds
      exact hfinds
  | delay =>
    refine ⟨hc.valid, hc.copied, hc.busy, hc.told, hc.copy, fun hd hf hidle => ?_⟩
    obtain hfinds | ⟨-, hcopy⟩ := hc.clean hd hf hidle
    · exact Or.inl hfinds
    · exact Or.inr ⟨rfl, hcopy⟩
  | restart _ h => exact h.sound

/-- Any number of steps. -/
abbrev Reaches (M : Medium α δ) : Cell α δ → Cell α δ → Prop := Relation.ReflTransGen (Step M)

theorem Reaches.sound (h : Reaches M c c') (hc : Sound M c) : Sound M c' := by
  induction h with
  | refl => exact hc
  | tail _ hstep ih => exact hstep.sound ih

/-- A saver that sleeps without a signal has nothing to do. -/
theorem Sound.dirty_eq_false (h : Sound M c) (hsaver : c.saver = .asleep)
    (hsignal : c.signal = false) (hfailed : c.failed = false) : c.dirty = false := by
  refine Bool.eq_false_iff.mpr fun hdirty => ?_
  obtain hf | hs | hg := h.told hdirty
  · exact absurd (hf.symm.trans hfailed) (by decide)
  · exact absurd (hs.symm.trans hsignal) (by decide)
  · rw [hsaver] at hg
    cases hg

/-- **Between two writes the disk is as good as the memory.** -/
theorem Sound.finds (h : Sound M c) (hbusy : ¬ c.saver.busy) (hdirty : c.dirty = false)
    (hfailed : c.failed = false) (hlate : c.late = false) : M.Finds c.disk c.memory :=
  (h.clean hdirty hfailed hbusy).resolve_right fun hl =>
    absurd (hl.1.symm.trans hlate) (by decide)

/-- The disk, once the last copy has reached it. -/
def Cell.landed (M : Medium α δ) (c : Cell α δ) : δ := (c.copy.map M.write).getD c.disk

/-- The same of a disk that writes when it likes, once it has. -/
theorem Sound.landed (h : Sound M c) (hbusy : ¬ c.saver.busy) (hdirty : c.dirty = false)
    (hfailed : c.failed = false) : M.Finds (c.landed M) c.memory := by
  unfold Cell.landed
  cases hcopy : c.copy with
  | none =>
    exact (h.clean hdirty hfailed hbusy).resolve_right fun hl => hl.2 hcopy
  | some a =>
    exact h.copy hdirty hfailed a hcopy _ (M.finds_write a (h.copied a hcopy hfailed))

end WriteBack

end BalboaRs485
