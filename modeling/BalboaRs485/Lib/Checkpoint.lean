import Mathlib.Logic.Relation
import Mathlib.Order.Basic

/-!
# Checkpoints of a growing value

A program keeps a value that only grows, writes copies of it to a disk and publishes a copy once
it has read it back. It may stop at any time and starts from the disk. `Checkpoint.Step` is what
can happen to it, over any preorder; a write that is given up may still reach the disk later,
until the next one begins.

* `Step.sound`: the published copy is behind the disk, the disk behind the copy that is being
  written, and that behind the memory.
* `Reaches.published_le`: what is published never goes back, over any number of restarts.
* `Reaches.durable`: what was published once is on the disk forever.
-/

namespace BalboaRs485

namespace Checkpoint

variable {α : Type*} [Preorder α]

/-- A value in memory, unless the start has failed, the disk, the copy that was made last and
    the one that was published. -/
structure Cell (α : Type*) where
  memory : Option α
  disk : Option α
  copy : Option α
  published : Option α

/-- What can happen. -/
inductive Step : Cell α → Cell α → Prop where
  | advance {c : Cell α} {a : α} (b : α) (h : c.memory = some a) (hle : a ≤ b) :
      Step c { c with memory := some b }
  /-- A copy is made, to be written. -/
  | begin {c : Cell α} {a : α} (h : c.memory = some a) : Step c { c with copy := some a }
  /-- The copy reaches the disk. -/
  | land {c : Cell α} {a : α} (h : c.copy = some a) : Step c { c with disk := some a }
  /-- The copy was read back. -/
  | publish {c : Cell α} {a : α} (h : c.disk = some a) : Step c { c with published := some a }
  /-- A new start, from the disk. -/
  | restart {c : Cell α} {a : α} (h : c.disk = some a) : Step c ⟨some a, c.disk, none, some a⟩
  /-- The first start. -/
  | start {c : Cell α} (a : α) (h : c.disk = none) : Step c ⟨some a, none, none, none⟩
  /-- A start that has failed to read the disk. -/
  | fail {c : Cell α} : Step c ⟨none, c.disk, none, none⟩

/-- Each copy is behind the next. -/
structure Sound (c : Cell α) : Prop where
  published : ∀ a ∈ c.published, ∃ b ∈ c.disk, a ≤ b
  disk : ∀ a ∈ c.disk, ∀ b ∈ c.memory, a ≤ b
  copy : ∀ a ∈ c.copy, (∀ b ∈ c.disk, b ≤ a) ∧ ∃ b ∈ c.memory, a ≤ b

variable {c c' : Cell α}

/-- **One step keeps the order of the copies.** -/
theorem Step.sound (h : Step c c') (hc : Sound c) : Sound c' := by
  cases h with
  | @advance a b hmemory hle =>
    refine ⟨hc.published, fun x hx y hy => ?_, fun x hx => ⟨(hc.copy x hx).1, b, rfl, ?_⟩⟩
    · obtain rfl := Option.some.inj hy
      exact (hc.disk x hx a hmemory).trans hle
    · obtain ⟨-, y, hy, hxy⟩ := hc.copy x hx
      obtain rfl := Option.some.inj (hmemory.symm.trans hy)
      exact hxy.trans hle
  | @begin a hmemory =>
    refine ⟨hc.published, hc.disk, fun x hx => ?_⟩
    obtain rfl := Option.some.inj hx
    exact ⟨fun y hy => hc.disk y hy _ hmemory, _, hmemory, le_rfl⟩
  | @land a hcopy =>
    obtain ⟨hdisk, b, hb, hab⟩ := hc.copy a hcopy
    refine ⟨fun x hx => ?_, fun x hx y hy => ?_, fun x hx => ?_⟩
    · obtain ⟨y, hy, hxy⟩ := hc.published x hx
      exact ⟨a, rfl, hxy.trans (hdisk y hy)⟩
    · obtain rfl := Option.some.inj hx
      obtain rfl := Option.some.inj (hb.symm.trans hy)
      exact hab
    · obtain rfl := Option.some.inj (hcopy.symm.trans hx)
      refine ⟨fun y hy => ?_, b, hb, hab⟩
      obtain rfl := Option.some.inj hy
      exact le_rfl
  | @publish a hdisk =>
    refine ⟨fun x hx => ?_, hc.disk, hc.copy⟩
    obtain rfl := Option.some.inj hx
    exact ⟨_, hdisk, le_rfl⟩
  | @restart a hdisk =>
    refine ⟨fun x hx => ?_, fun x hx y hy => ?_, nofun⟩
    · obtain rfl := Option.some.inj hx
      exact ⟨_, hdisk, le_rfl⟩
    · obtain rfl := Option.some.inj hy
      obtain rfl := Option.some.inj (hdisk.symm.trans hx)
      exact le_rfl
  | start a hdisk => exact ⟨nofun, nofun, nofun⟩
  | fail => exact ⟨nofun, fun _ _ _ h => (by cases h), nofun⟩

/-- The disk never goes back. -/
theorem Step.disk_le (h : Step c c') (hc : Sound c) : ∀ a ∈ c.disk, ∃ b ∈ c'.disk, a ≤ b := by
  intro a ha
  cases h with
  | land hcopy => exact ⟨_, rfl, (hc.copy _ hcopy).1 a ha⟩
  | start b hdisk =>
    rw [hdisk] at ha
    cases ha
  | _ => exact ⟨a, ha, le_rfl⟩

/-- What is published is what was published before, or what is on the disk. -/
theorem Step.published (h : Step c c') :
    ∀ a ∈ c'.published, a ∈ c.published ∨ a ∈ c'.disk := by
  intro a ha
  cases h with
  | publish hdisk =>
    obtain rfl := Option.some.inj ha
    exact Or.inr hdisk
  | restart hdisk =>
    obtain rfl := Option.some.inj ha
    exact Or.inr hdisk
  | start => cases ha
  | fail => cases ha
  | _ => exact Or.inl ha

/-- Any number of steps. -/
abbrev Reaches : Cell α → Cell α → Prop := Relation.ReflTransGen Step

theorem Reaches.sound (h : Reaches c c') (hc : Sound c) : Sound c' := by
  induction h with
  | refl => exact hc
  | tail _ hstep ih => exact hstep.sound ih

/-- `a` is on the disk, and nothing less is published. -/
def Kept (a : α) (c : Cell α) : Prop := (∃ b ∈ c.disk, a ≤ b) ∧ ∀ b ∈ c.published, a ≤ b

theorem Step.kept (h : Step c c') (hc : Sound c) {a : α} (ha : Kept a c) : Kept a c' := by
  obtain ⟨⟨b, hb, hab⟩, hpublished⟩ := ha
  obtain ⟨b', hb', hle⟩ := h.disk_le hc b hb
  refine ⟨⟨b', hb', hab.trans hle⟩, fun x hx => ?_⟩
  obtain hx | hx := h.published x hx
  · exact hpublished x hx
  · obtain rfl := Option.some.inj (hb'.symm.trans hx)
    exact hab.trans hle

theorem Reaches.kept (h : Reaches c c') (hc : Sound c) {a : α} (ha : a ∈ c.published) :
    Kept a c' := by
  have hstart : Kept a c := by
    refine ⟨hc.published a ha, fun b hb => ?_⟩
    obtain rfl := Option.some.inj (ha.symm.trans hb)
    exact le_rfl
  have hboth : Sound c' ∧ Kept a c' := by
    induction h with
    | refl => exact ⟨hc, hstart⟩
    | tail _ hstep ih => exact ⟨hstep.sound ih.1, hstep.kept ih.1 ih.2⟩
  exact hboth.2

/-- **What is published never goes back**, over any number of restarts. -/
theorem Reaches.published_le (h : Reaches c c') (hc : Sound c) {a b : α} (ha : a ∈ c.published)
    (hb : b ∈ c'.published) : a ≤ b := (h.kept hc ha).2 b hb

/-- **What was published once is on the disk forever.** -/
theorem Reaches.durable (h : Reaches c c') (hc : Sound c) {a : α} (ha : a ∈ c.published) :
    ∃ b ∈ c'.disk, a ≤ b := (h.kept hc ha).1

end Checkpoint

end BalboaRs485
