import BalboaRs485.Prediction.Saved

/-!
# Where a heating model comes from

"A different endpoint/outdoor feature cannot reuse coefficients": whatever the order of
observations, options, saves and restarts, a model has only learned from the spa and the sensor
that it is used for.

* `Taught`: how a model can come about, for a connection and an outdoor entity.
* `model_taught`: every model of a run has come about so.
-/

namespace BalboaRs485

theorem PredictionBinding.same_trans {b b' b'' : PredictionBinding} (h : b.same b' = true)
    (h' : b'.same b'' = true) : b.same b'' = true := by
  simp only [same, decide_eq_true_eq] at h h' ⊢
  exact ⟨sameDict_trans h.1 h'.1, h.2.trans h'.2⟩

/-- The same model is found under an equal binding. -/
theorem PredictionFile.load_same {file : PredictionFile} {b b' : PredictionBinding} {fallback : ℚ}
    {m : HeatingModel} (h : file.load b fallback = .ok (some m)) (hsame : b.same b' = true) :
    file.load b' fallback = .ok (some m) := by
  obtain ⟨owner, record, rfl, howner, hread⟩ := load_eq_some h
  rw [load_holds (PredictionBinding.same_trans howner hsame),
    ← PredictionBinding.same_entity hsame, hread]
  rfl

namespace PredictionSystem

section Runs

variable (file : PredictionFile) (o : PredictionOptions) (connection : Dict String Stored)
  (result : LoadEnd) (run : List PredictionOp)

/-- **How the model of a binding has come about** by step `n`: it began anew, or with what the file
    held for the binding at the beginning, and learned clean segments at steps of the binding. -/
inductive Taught (b : PredictionBinding) : ℕ → HeatingModel → Prop where
  | fresh (n : ℕ) (o' : PredictionOptions) (h : o'.outdoorEntity = b.outdoorEntity) :
      Taught b n o'.model
  | found {fallback : ℚ} {m : HeatingModel} (n : ℕ) (h : file.load b fallback = .ok (some m)) :
      Taught b n m
  | under {n : ℕ} {m : HeatingModel} (h : Taught b n m) (o' : PredictionOptions) :
      Taught b n (m.under o')
  | later {n : ℕ} {m : HeatingModel} (h : Taught b n m) : Taught b (n + 1) m
  | learned {n : ℕ} {m : HeatingModel} {segment : HeatingSegment} (h : Taught b n m)
      (hused : (systemAt file o connection result run n).aborted = false)
      (hbinding : (systemAt file o connection result run n).binding.same b = true)
      (hclean : Clean file o connection result run n segment)
      (hok : (m.update segment).1 = .ok ()) : Taught b (n + 1) (m.update segment).2

variable {file o connection result run} {n : ℕ} {b b' : PredictionBinding} {m : HeatingModel}

theorem Taught.same (h : Taught file o connection result run b n m)
    (hsame : b.same b' = true) : Taught file o connection result run b' n m := by
  induction h with
  | fresh n o' h => exact .fresh n o' (h.trans (PredictionBinding.same_entity hsame))
  | found n h => exact .found n (PredictionFile.load_same h hsame)
  | under _ o' ih => exact ih.under o'
  | later _ ih => exact ih.later
  | learned _ hused hbinding hclean hok ih =>
    exact ih.learned hused (PredictionBinding.same_trans hbinding hsame) hclean hok

/-- The file holds what it held at the beginning, or a model with its binding. -/
def Recorded (file : PredictionFile) (o : PredictionOptions) (connection : Dict String Stored)
    (result : LoadEnd) (run : List PredictionOp) (n : ℕ) (found : PredictionFile) : Prop :=
  found = file ∨ ∃ a : Kept, found = .stored a.binding a.model ∧
    Taught file o connection result run a.binding n a.model

theorem closed_taught (n : ℕ) : Closed (Recorded file o connection result run n)
    (fun a => Taught file o connection result run a.binding n a.model) where
  fresh o' connection := .fresh n o' rfl
  under o' h := h.under o'
  stored a ha := Or.inr ⟨a, rfl, ha⟩
  load hfile h := by
    obtain rfl | ⟨a, rfl, ha⟩ := hfile
    · exact .found n h
    · obtain ⟨owner, record, hholds, hsame, hread⟩ := PredictionFile.load_eq_some h
      cases hholds
      rw [(HeatingModel.fromRecord_toRecord_eq hread).2]
      exact (ha.same hsame).under _

/-- Every model of the system has come about so. -/
abbrev Knows (file : PredictionFile) (o : PredictionOptions) (connection : Dict String Stored)
    (result : LoadEnd) (run : List PredictionOp) (n : ℕ) : Prop :=
  Holds (Recorded file o connection result run n)
    (fun a => Taught file o connection result run a.binding n a.model)
    (systemAt file o connection result run n)

/-- **One step** of a run. -/
theorem Knows.step (h : Knows file o connection result run n) {op : PredictionOp}
    (hop : run[n]? = some op) : Knows file o connection result run (n + 1) := by
  have hlater : Holds (Recorded file o connection result run (n + 1))
      (fun a => Taught file o connection result run a.binding (n + 1) a.model)
      (systemAt file o connection result run n) :=
    ⟨h.file.imp_right fun ⟨a, hfile, ha⟩ => ⟨a, hfile, ha.later⟩, h.memory.later,
      fun a ha => (h.attempt a ha).later, fun a ha => (h.earlier a ha).later⟩
  unfold Knows
  rw [systemAt_succ hop]
  refine hlater.step (closed_taught (n + 1)) op ?_
  rintro i rfl hused
  obtain ⟨rs, hgathers⟩ := gathers file o connection result run n
    (List.getElem?_eq_some_iff.mp hop).1.le
  obtain ⟨-, -, hlearns⟩ := hgathers.observe hop hused
  unfold Learns at hlearns
  rw [systemAt_succ hop, step_eq (Or.inl hused)] at hlearns
  obtain hmodel | ⟨segment, hclean, hok, hmodel⟩ := hlearns
  · exact hmodel.symm ▸ h.memory.later
  · exact hmodel.symm ▸ h.memory.learned hused (PredictionBinding.same_refl _) hclean hok

/-- **Nothing is learned from another spa or sensor**: in every run, the model in use has come
    about from what the file held for its connection and entity, and from clean segments that were
    learned under them. -/
theorem model_taught (file : PredictionFile) (o : PredictionOptions)
    (connection : Dict String Stored) (result : LoadEnd) (run : List PredictionOp) (n : ℕ)
    (hn : n ≤ run.length) :
    Taught file o connection result run (systemAt file o connection result run n).binding n
      (systemAt file o connection result run n).controller.model := by
  have hknows : Knows file o connection result run n := by
    induction n with
    | zero => exact .start (closed_taught 0) (Or.inl rfl) o connection result
    | succ n ih => exact (ih (Nat.le_of_succ_le hn)).step (List.getElem?_eq_getElem hn)
  exact hknows.memory

/-- The spa of `sampleRun`, after its first segment. -/
theorem model_taught_sample :
    Taught .absent {} .empty .read sampleRun
      (systemAt .absent {} .empty .read sampleRun 22).binding 22
      (systemAt .absent {} .empty .read sampleRun 22).controller.model :=
  model_taught .absent {} .empty .read sampleRun 22 (by decide)

end Runs

end PredictionSystem

end BalboaRs485
