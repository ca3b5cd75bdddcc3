import Mathlib.Data.List.Basic
import Mathlib.Data.List.Nodup

/-!
# Insertion-ordered dictionaries

A finite map as Python's `dict` keeps it: entries in the order their keys were
first inserted, each key once. Assigning to a present key keeps its place.
-/

namespace BalboaRs485

/-- A dictionary: its entries in insertion order, with distinct keys. -/
structure Dict (α β : Type*) where
  entries : List (α × β)
  nodup : (entries.map Prod.fst).Nodup

namespace Dict

variable {α β : Type*}

/-- The empty dictionary. -/
def empty : Dict α β := ⟨[], List.nodup_nil⟩

/-- The keys, in insertion order. -/
def keys (d : Dict α β) : List α := d.entries.map Prod.fst

/-- The values, in insertion order. -/
def values (d : Dict α β) : List β := d.entries.map Prod.snd

variable [DecidableEq α]

/-- The value of the first entry with key `k`. -/
def lookup (k : α) : List (α × β) → Option β
  | [] => none
  | (k', v) :: l => if k' = k then some v else lookup k l

/-- `d.get(k)`. -/
def get? (d : Dict α β) (k : α) : Option β := lookup k d.entries

/-- `k in d`. -/
def contains (d : Dict α β) (k : α) : Bool := (d.get? k).isSome

/-- The entries after `d[k] = v`: in place if `k` is a key, else at the end. -/
def setEntries (k : α) (v : β) : List (α × β) → List (α × β)
  | [] => [(k, v)]
  | (k', v') :: l => if k' = k then (k, v) :: l else (k', v') :: setEntries k v l

theorem map_fst_setEntries (k : α) (v : β) (l : List (α × β)) :
    (setEntries k v l).map Prod.fst =
      if k ∈ l.map Prod.fst then l.map Prod.fst else l.map Prod.fst ++ [k] := by
  induction l with
  | nil => simp [setEntries]
  | cons e l ih =>
    obtain ⟨k', v'⟩ := e
    by_cases hk : k' = k
    · simp [setEntries, hk]
    · have hk' : ¬ k = k' := fun h => hk h.symm
      simp only [setEntries, if_neg hk, List.map_cons, ih, List.mem_cons, hk', false_or]
      split <;> simp

/-- `d[k] = v`. -/
def set (d : Dict α β) (k : α) (v : β) : Dict α β :=
  ⟨setEntries k v d.entries, by
    rw [map_fst_setEntries]
    split
    · exact d.nodup
    · next h => exact List.Nodup.append d.nodup (List.nodup_singleton k) (by simpa using h)⟩

/-- `d.pop(k, None)`. -/
def pop (d : Dict α β) (k : α) : Dict α β :=
  ⟨d.entries.filter fun e => e.1 ≠ k, d.nodup.sublist (List.filter_sublist.map Prod.fst)⟩

/-! ## Lookups -/

theorem lookup_setEntries (k : α) (v : β) (k' : α) (l : List (α × β)) :
    lookup k' (setEntries k v l) = if k' = k then some v else lookup k' l := by
  induction l with
  | nil => simp [setEntries, lookup, eq_comm]
  | cons e l ih =>
    obtain ⟨a, b⟩ := e
    by_cases hk : a = k
    · subst hk
      simp only [setEntries, if_true, lookup]
      by_cases h : k' = a
      · simp [h]
      · simp [h, Ne.symm (a := k') h]
    · simp only [setEntries, if_neg hk, lookup, ih]
      by_cases h : a = k'
      · subst h; simp [hk]
      · simp [h]

/-- `d[k] = v` changes the value of `k` and no other. -/
theorem get?_set (d : Dict α β) (k : α) (v : β) (k' : α) :
    (d.set k v).get? k' = if k' = k then some v else d.get? k' :=
  lookup_setEntries k v k' d.entries

@[simp] theorem get?_set_self (d : Dict α β) (k : α) (v : β) : (d.set k v).get? k = some v := by
  simp [get?_set]

theorem get?_set_of_ne (d : Dict α β) {k k' : α} (v : β) (h : k' ≠ k) :
    (d.set k v).get? k' = d.get? k' := by
  simp [get?_set, h]

theorem lookup_filter_ne (k k' : α) (l : List (α × β)) :
    lookup k' (l.filter fun e => e.1 ≠ k) = if k' = k then none else lookup k' l := by
  induction l with
  | nil => simp [lookup]
  | cons e l ih =>
    obtain ⟨a, b⟩ := e
    by_cases ha : a = k
    · subst ha
      rw [List.filter_cons_of_neg (by simp), ih, lookup]
      by_cases h : k' = a
      · simp [h]
      · simp [h, Ne.symm (a := k') h]
    · rw [List.filter_cons_of_pos (by simpa using ha), lookup, lookup, ih]
      by_cases h : a = k'
      · subst h; simp [ha]
      · simp [h]

/-- `d.pop(k)` removes `k` and nothing else. -/
theorem get?_pop (d : Dict α β) (k k' : α) :
    (d.pop k).get? k' = if k' = k then none else d.get? k' :=
  lookup_filter_ne k k' d.entries

theorem lookup_of_mem {l : List (α × β)} (hl : (l.map Prod.fst).Nodup) {k : α} {v : β}
    (h : (k, v) ∈ l) : lookup k l = some v := by
  induction l with
  | nil => simp at h
  | cons e l ih =>
    obtain ⟨a, b⟩ := e
    simp only [List.map_cons, List.nodup_cons] at hl
    rcases List.mem_cons.mp h with h | h
    · cases h; simp [lookup]
    · have hne : a ≠ k := fun hka => hl.1 (hka ▸ List.mem_map_of_mem (f := Prod.fst) h)
      rw [lookup, if_neg hne]
      exact ih hl.2 h

theorem mem_of_lookup {l : List (α × β)} {k : α} {v : β} (h : lookup k l = some v) :
    (k, v) ∈ l := by
  induction l with
  | nil => simp [lookup] at h
  | cons e l ih =>
    obtain ⟨a, b⟩ := e
    rw [lookup] at h
    split at h
    · next hk => cases h; exact hk ▸ List.mem_cons_self
    · exact List.mem_cons_of_mem _ (ih h)

/-- The entries are exactly the pairs a lookup finds. -/
theorem mem_entries (d : Dict α β) {k : α} {v : β} : (k, v) ∈ d.entries ↔ d.get? k = some v :=
  ⟨lookup_of_mem d.nodup, mem_of_lookup⟩

theorem get?_of_getElem? (d : Dict α β) {k : α} {v : β} {i : ℕ} (h : d.entries[i]? = some (k, v)) :
    d.get? k = some v := d.mem_entries.mp (List.mem_of_getElem? h)

theorem mem_values (d : Dict α β) {v : β} : v ∈ d.values ↔ ∃ k, d.get? k = some v := by
  simp only [values, List.mem_map, Prod.exists, exists_eq_right, mem_entries]

theorem mem_keys (d : Dict α β) {k : α} : k ∈ d.keys ↔ ∃ v, d.get? k = some v := by
  simp only [keys, List.mem_map, Prod.exists, exists_eq_right, exists_and_right, mem_entries]

/-! ## Keys -/

theorem keys_set (d : Dict α β) (k : α) (v : β) :
    (d.set k v).keys = if k ∈ d.keys then d.keys else d.keys ++ [k] :=
  map_fst_setEntries k v d.entries

/-- Assignment never moves or drops a key. -/
theorem keys_prefix_set (d : Dict α β) (k : α) (v : β) : d.keys <+: (d.set k v).keys := by
  rw [keys_set]
  split
  · exact List.prefix_rfl
  · exact List.prefix_append _ _

theorem contains_iff (d : Dict α β) {k : α} : d.contains k = true ↔ ∃ v, d.get? k = some v :=
  Option.isSome_iff_exists

/-- `set(d) == set(keys)`. -/
def hasKeys (d : Dict α β) (keys : List α) : Bool :=
  (d.keys.all fun k => k ∈ keys) ∧ keys.all fun k => d.contains k

theorem hasKeys_of_keys {d : Dict α β} {keys : List α} (h : d.keys = keys) :
    d.hasKeys keys = true := by
  have hcontains : ∀ k ∈ keys, d.contains k = true := fun k hk =>
    d.contains_iff.mpr (d.mem_keys.mp (h ▸ hk))
  simpa [hasKeys, h] using hcontains

/-! ## Counting -/

theorem setEntries_of_lookup {k : α} (v : β) {l : List (α × β)} (h : lookup k l = none) :
    setEntries k v l = l ++ [(k, v)] := by
  induction l with
  | nil => rfl
  | cons e l ih =>
    obtain ⟨k', v'⟩ := e
    rw [lookup] at h
    split at h
    · cases h
    · next hne => rw [setEntries, if_neg hne, ih h, List.cons_append]

/-- A new key counts its value. -/
theorem countP_set (p : β → Bool) (d : Dict α β) {k : α} (v : β) (h : d.get? k = none) :
    (d.set k v).values.countP p = d.values.countP p + if p v then 1 else 0 := by
  have hvalues : (d.set k v).values = d.values ++ [v] := by
    show (setEntries k v d.entries).map Prod.snd = _
    rw [setEntries_of_lookup v h, List.map_append]
    rfl
  rw [hvalues, List.countP_append, List.countP_singleton]

theorem perm_pop (d : Dict α β) {k : α} {v : β} (h : d.get? k = some v) :
    d.entries.Perm ((k, v) :: (d.pop k).entries) := by
  obtain ⟨l, hl⟩ := d
  induction l with
  | nil => cases h
  | cons e l ih =>
    obtain ⟨k', v'⟩ := e
    obtain ⟨hnew, hl⟩ := List.nodup_cons.mp hl
    change lookup k ((k', v') :: l) = some v at h
    rw [lookup] at h
    change ((k', v') :: l).Perm ((k, v) :: ((k', v') :: l).filter fun e => e.1 ≠ k)
    split at h
    · next heq =>
      cases h
      subst heq
      rw [List.filter_cons_of_neg (by simp), List.filter_eq_self.mpr]
      intro e he
      have hkey : e.1 ∈ l.map Prod.fst := List.mem_map_of_mem he
      exact decide_eq_true fun heq => hnew (heq ▸ hkey)
    · next hne =>
      rw [List.filter_cons_of_pos (by simpa using hne)]
      exact ((ih hl h).cons (k', v')).trans (List.Perm.swap _ _ _)

/-- A key that is removed no longer counts its value. -/
theorem countP_pop (p : β → Bool) (d : Dict α β) {k : α} {v : β} (h : d.get? k = some v) :
    d.values.countP p = (d.pop k).values.countP p + if p v then 1 else 0 := by
  rw [values, (d.perm_pop h |>.map Prod.snd).countP_eq p, List.map_cons, List.countP_cons]
  rfl

theorem countP_pos (p : β → Bool) (d : Dict α β) :
    0 < d.values.countP p ↔ ∃ k v, d.get? k = some v ∧ p v = true := by
  rw [List.countP_pos_iff]
  constructor
  · rintro ⟨v, hv, hp⟩
    obtain ⟨k, hk⟩ := d.mem_values.mp hv
    exact ⟨k, v, hk, hp⟩
  · rintro ⟨k, v, hk, hp⟩
    exact ⟨v, d.mem_values.mpr ⟨k, hk⟩, hp⟩

/-- Where one value counts, it is the only one. -/
theorem countP_eq_one (p : β → Bool) (d : Dict α β) {k : α} {v : β} (h : d.get? k = some v)
    (hp : p v = true) :
    d.values.countP p = 1 ↔ ∀ k' v', d.get? k' = some v' → p v' = true → k' = k := by
  rw [d.countP_pop p h, if_pos hp, Nat.add_eq_right, ← Nat.le_zero, ← Nat.not_lt, countP_pos]
  constructor
  · intro hnone k' v' hk' hp'
    by_contra hne
    exact hnone ⟨k', v', by rw [get?_pop, if_neg hne, hk'], hp'⟩
  · rintro honly ⟨k', v', hk', hp'⟩
    rw [get?_pop] at hk'
    split at hk'
    · cases hk'
    · next hne => exact hne (honly k' v' hk' hp')

end Dict

end BalboaRs485
