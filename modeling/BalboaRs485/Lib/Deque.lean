import Mathlib.Data.List.Basic

/-!
# Bounded deques

`collections.deque(maxlen=n)`: an append to a full deque drops the oldest item.
-/

namespace BalboaRs485

/-- At most `n` items, oldest first. -/
structure Deque (n : ℕ) (α : Type*) where
  items : List α
  bounded : items.length ≤ n

namespace Deque

variable {α : Type*} {n : ℕ}

/-- `deque(maxlen=n)`. -/
def empty : Deque n α := ⟨[], Nat.zero_le n⟩

/-- `d.append(a)`. -/
def append (d : Deque n α) (a : α) : Deque n α :=
  ⟨(d.items ++ [a]).drop (d.items.length + 1 - n), by simp; omega⟩

/-- `d[-1] = a`; on an empty deque, where Python raises, nothing changes. -/
def setLast (d : Deque n α) (a : α) : Deque n α :=
  ⟨if d.items = [] then [] else d.items.dropLast ++ [a], by
    have := d.bounded
    split
    · simp
    · next h =>
      have := List.length_pos_of_ne_nil h
      simp; omega⟩

/-- Replace the first item that satisfies `p`. -/
def replaceFirst (p : α → Bool) (a : α) : List α → List α
  | [] => []
  | x :: l => if p x then a :: l else x :: replaceFirst p a l

theorem length_replaceFirst (p : α → Bool) (a : α) (l : List α) :
    (replaceFirst p a l).length = l.length := by
  induction l with
  | nil => rfl
  | cons x l ih => by_cases h : p x <;> simp [replaceFirst, h, ih]

/-- `for index, item in enumerate(d): if p(item): d[index] = a; return`. -/
def replace (d : Deque n α) (p : α → Bool) (a : α) : Deque n α :=
  ⟨replaceFirst p a d.items, by rw [length_replaceFirst]; exact d.bounded⟩

/-- A deque of positive capacity ends in what was appended last. -/
theorem getLast?_append (d : Deque (n + 1) α) (a : α) : (d.append a).items.getLast? = some a := by
  show ((d.items ++ [a]).drop (d.items.length + 1 - (n + 1))).getLast? = some a
  rw [List.drop_append_of_le_length (by omega)]
  simp

theorem mem_of_mem_append {d : Deque n α} {a x : α} (h : x ∈ (d.append a).items) :
    x ∈ d.items ∨ x = a := by
  have := List.mem_of_mem_drop h
  simpa using this

/-- What an append keeps in front of the new item was there before. -/
theorem mem_of_mem_dropLast_append {d : Deque (n + 1) α} {a x : α}
    (h : x ∈ (d.append a).items.dropLast) : x ∈ d.items := by
  have hitems : (d.append a).items = d.items.drop (d.items.length + 1 - (n + 1)) ++ [a] :=
    List.drop_append_of_le_length (by omega)
  rw [hitems, List.dropLast_concat] at h
  exact List.mem_of_mem_drop h

theorem items_setLast {d : Deque n α} {a : α} (h : d.items ≠ []) :
    (d.setLast a).items = d.items.dropLast ++ [a] := by
  show (if d.items = [] then [] else d.items.dropLast ++ [a]) = _
  rw [if_neg h]

theorem getLast?_setLast {d : Deque n α} {b : α} (h : d.items ≠ []) :
    (d.setLast b).items.getLast? = some b := by
  simp [setLast, h]

theorem mem_of_mem_setLast {d : Deque n α} {a x : α} (h : x ∈ (d.setLast a).items) :
    x ∈ d.items ∨ x = a := by
  by_cases hd : d.items = []
  · simp [setLast, hd] at h
  · simp only [setLast, hd, if_false, List.mem_append, List.mem_singleton] at h
    rcases h with h | h
    · exact Or.inl (List.dropLast_subset _ h)
    · exact Or.inr h

theorem find?_replaceFirst_self {p : α → Bool} {a : α} (ha : p a = true) (l : List α) :
    (replaceFirst p a l).find? p = (l.find? p).map fun _ => a := by
  induction l with
  | nil => rfl
  | cons x l ih => by_cases h : p x <;> simp [replaceFirst, h, ha, ih]

theorem find?_replaceFirst_of_disjoint {p q : α → Bool} {a : α} (ha : q a = false)
    (hpq : ∀ x, p x = true → q x = false) (l : List α) :
    (replaceFirst p a l).find? q = l.find? q := by
  induction l with
  | nil => rfl
  | cons x l ih =>
    by_cases h : p x
    · simp [replaceFirst, h, ha, hpq x h]
    · simp [replaceFirst, h, List.find?_cons, ih]

theorem mem_of_mem_replaceFirst {p : α → Bool} {a x : α} {l : List α}
    (h : x ∈ replaceFirst p a l) : x ∈ l ∨ x = a := by
  induction l with
  | nil => simp [replaceFirst] at h
  | cons y l ih =>
    by_cases hy : p y
    · simp only [replaceFirst, hy, if_true, List.mem_cons] at h
      rcases h with h | h
      · exact Or.inr h
      · exact Or.inl (List.mem_cons_of_mem _ h)
    · simp only [replaceFirst, hy, Bool.false_eq_true, if_false, List.mem_cons] at h
      rcases h with h | h
      · exact Or.inl (h ▸ List.mem_cons_self)
      · rcases ih h with h | h
        · exact Or.inl (List.mem_cons_of_mem _ h)
        · exact Or.inr h

/-- Replacing an item by one with the same key keeps the list of keys. -/
theorem map_replaceFirst {β : Type*} {p : α → Bool} {a : α} {f : α → β}
    (h : ∀ x, p x = true → f a = f x) (l : List α) :
    (replaceFirst p a l).map f = l.map f := by
  induction l with
  | nil => rfl
  | cons x l ih =>
    by_cases hx : p x
    · simp [replaceFirst, hx, h x hx]
    · simp [replaceFirst, hx, ih]

/-- With distinct keys, a look-up by key finds the item with that key. -/
theorem find?_eq_some_of_nodup {β : Type*} [DecidableEq β] {f : α → β} {l : List α}
    (hl : (l.map f).Nodup) {x : α} (hx : x ∈ l) : l.find? (fun y => f y = f x) = some x := by
  induction l with
  | nil => cases hx
  | cons y l ih =>
    simp only [List.map_cons, List.nodup_cons] at hl
    rcases List.mem_cons.mp hx with rfl | hx
    · simp
    · have hne : f y ≠ f x := fun h => hl.1 (h ▸ List.mem_map_of_mem hx)
      rw [List.find?_cons_of_neg (by simpa using hne)]
      exact ih hl.2 hx

/-- An append keeps keys distinct if its key is new. -/
theorem nodup_append {β : Type*} {f : α → β} {d : Deque n α} {a : α}
    (hd : (d.items.map f).Nodup) (ha : ∀ x ∈ d.items, f x ≠ f a) :
    ((d.append a).items.map f).Nodup := by
  have hall : ((d.items ++ [a]).map f).Nodup := by
    rw [List.map_append, List.nodup_append]
    refine ⟨hd, by simp, ?_⟩
    intro b hb c hc
    obtain ⟨x, hx, rfl⟩ := List.mem_map.mp hb
    simp only [List.map_cons, List.map_nil, List.mem_singleton] at hc
    exact hc ▸ ha x hx
  exact hall.sublist ((List.drop_sublist _ _).map f)

end Deque

end BalboaRs485
