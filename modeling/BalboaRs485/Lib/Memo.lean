import Mathlib.Data.List.Basic

/-!
# A memo that guards a log

An action is to be taken at most once for each key, and only the key of the last action
is remembered. That is enough if every other key of the log is past: it will never come
up again.

* `Guarded`: the invariant.
* `Guarded.change`: keys may become past, and a key may be forgotten once it is.
* `Guarded.append`: an action is taken for a key that is not logged yet if the key
  remembered before is past.
-/

namespace BalboaRs485

namespace Memo

variable {κ : Type*} {same : κ → κ → Bool} {past past' : κ → Prop} {log : List κ}
  {memo memo' : Option κ}

/-- No key is logged twice, and every logged key is remembered or past. -/
structure Guarded (same : κ → κ → Bool) (past : κ → Prop) (log : List κ) (memo : Option κ) :
    Prop where
  once : log.Pairwise fun a b => same a b = false
  kept : ∀ k ∈ log, memo = some k ∨ past k

namespace Guarded

theorem nil : Guarded same past [] memo := ⟨.nil, by simp⟩

theorem change (h : Guarded same past log memo)
    (hkept : ∀ k ∈ log, memo = some k ∨ past k → memo' = some k ∨ past' k) :
    Guarded same past' log memo' :=
  ⟨h.once, fun k hk => hkept k hk (h.kept k hk)⟩

theorem append (h : Guarded same past log memo) {key : κ}
    (hmemo : ∀ k ∈ log, memo = some k → past k) (hpast : ∀ k ∈ log, past k → same k key = false) :
    Guarded same past (log ++ [key]) (some key) where
  once := by
    rw [List.pairwise_append]
    refine ⟨h.once, List.pairwise_singleton _ _, ?_⟩
    intro k hk key' hkey'
    obtain rfl := List.mem_singleton.mp hkey'
    exact hpast k hk ((h.kept k hk).elim (hmemo k hk) id)
  kept := by
    intro k hk
    rcases List.mem_append.mp hk with hk | hk
    · exact Or.inr ((h.kept k hk).elim (hmemo k hk) id)
    · exact Or.inl (congrArg some (List.mem_singleton.mp hk).symm)

end Guarded

end Memo

end BalboaRs485
