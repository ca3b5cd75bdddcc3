import Mathlib.RingTheory.AdjoinRoot
import Mathlib.Algebra.Polynomial.FieldDivision
import Mathlib.Tactic.Ring

/-!
# Cyclic redundancy

Words over a field as polynomials, most significant digit first, and a register that divides
them by a generator `g`. An error goes undetected exactly when `g` divides its polynomial.

* `dvd_burst`: a generator with a constant term divides no burst that is not longer than its
  degree.
* `eval_one_of_dvd`: a generator with root `1` divides no word whose digits do not sum to zero.
* `Divider.foldl_eq_iff`: two words of one length leave the same remainder in the register
  exactly when `g` divides their difference.
-/

namespace BalboaRs485

namespace Cyclic

open Polynomial

variable {K : Type*} [Field K]

/-! ## Words as polynomials -/

/-- The polynomial of a word, most significant digit first. -/
noncomputable def poly : List K → K[X]
  | [] => 0
  | d :: w => C d * X ^ w.length + poly w

@[simp] theorem poly_nil : poly ([] : List K) = 0 := rfl

@[simp] theorem poly_cons (d : K) (w : List K) : poly (d :: w) = C d * X ^ w.length + poly w := rfl

theorem poly_append (u v : List K) : poly (u ++ v) = poly u * X ^ v.length + poly v := by
  induction u with
  | nil => simp
  | cons d u ih =>
    rw [List.cons_append, poly_cons, poly_cons, ih, List.length_append, pow_add]
    ring

theorem poly_of_zero {w : List K} (h : ∀ d ∈ w, d = 0) : poly w = 0 := by
  induction w with
  | nil => rfl
  | cons d w ih =>
    rw [poly_cons, h d (by simp), ih fun e he => h e (List.mem_cons_of_mem _ he)]
    simp

theorem degree_poly_lt (w : List K) : (poly w).degree < w.length := by
  induction w with
  | nil => simp
  | cons d w ih =>
    rw [poly_cons, List.length_cons, degree_lt_iff_coeff_zero]
    intro m hm
    have htail : (poly w).coeff m = 0 := (degree_lt_iff_coeff_zero _ _).mp ih m (by omega)
    have hne : m ≠ w.length := by omega
    rw [coeff_add, htail, coeff_C_mul_X_pow, if_neg hne, add_zero]

/-- A word whose polynomial vanishes has only zeros. -/
theorem eq_zero_of_poly {w : List K} (h : poly w = 0) : ∀ d ∈ w, d = 0 := by
  induction w with
  | nil => simp
  | cons d w ih =>
    have hhead : (poly (d :: w)).coeff w.length = d := by
      have htail : (poly w).coeff w.length = 0 :=
        (degree_lt_iff_coeff_zero _ _).mp (degree_poly_lt w) _ le_rfl
      simp [htail]
    rw [h, coeff_zero] at hhead
    subst hhead
    have htail : poly w = 0 := by simpa using h
    intro e he
    rcases List.mem_cons.mp he with rfl | hmem
    · rfl
    · exact ih htail e hmem

theorem poly_sub {u v : List K} (h : u.length = v.length) :
    poly u - poly v = poly (List.zipWith (· - ·) u v) := by
  induction u generalizing v with
  | nil =>
    obtain rfl : v = [] := List.length_eq_zero_iff.mp h.symm
    simp
  | cons d u ih =>
    cases v with
    | nil => simp at h
    | cons e v =>
      have hlen : u.length = v.length := by simpa using h
      rw [List.zipWith_cons_cons, poly_cons, poly_cons, poly_cons, ← ih hlen,
        List.length_zipWith, hlen, min_self, C_sub]
      ring

theorem eval_one_poly (w : List K) : (poly w).eval 1 = w.sum := by
  induction w with
  | nil => simp
  | cons d w ih => simp [ih]

/-! ## What a generator divides -/

variable {g : K[X]}

theorem isCoprime_X (h : g.coeff 0 ≠ 0) : IsCoprime X g := by
  rw [irreducible_X.coprime_iff_not_dvd, X_dvd_iff]
  exact h

/-- **A burst is no multiple of the generator**: a word whose non-zero digits lie within as
    many places as the degree is one only if it has none. -/
theorem dvd_burst {w : List K} {start : ℕ} (h0 : g.coeff 0 ≠ 0)
    (hw : ∀ i, ∀ d ∈ w[i]?, d ≠ 0 → start ≤ i ∧ i < start + g.natDegree) (hdvd : g ∣ poly w) :
    ∀ d ∈ w, d = 0 := by
  have hbefore : ∀ d ∈ w.take start, d = 0 := by
    intro d hd
    obtain ⟨i, hi⟩ := List.mem_iff_getElem?.mp hd
    by_contra hne
    have hlt : i < start := by
      by_contra hge
      rw [List.getElem?_take_eq_none (by omega)] at hi
      cases hi
    rw [List.getElem?_take_of_lt hlt] at hi
    have := hw i d hi hne
    omega
  have hafter : ∀ d ∈ (w.drop start).drop g.natDegree, d = 0 := by
    intro d hd
    obtain ⟨i, hi⟩ := List.mem_iff_getElem?.mp hd
    by_contra hne
    rw [List.getElem?_drop, List.getElem?_drop] at hi
    have := hw _ d hi hne
    omega
  -- The word is the burst, moved up by a power of `X`.
  have hsplit : poly w = poly ((w.drop start).take g.natDegree) *
      X ^ ((w.drop start).drop g.natDegree).length := by
    conv_lhs =>
      rw [← List.take_append_drop start w, poly_append, poly_of_zero hbefore,
        ← List.take_append_drop g.natDegree (w.drop start), poly_append, poly_of_zero hafter]
    ring
  have hcoprime : IsCoprime g (X ^ ((w.drop start).drop g.natDegree).length) :=
    (isCoprime_X h0).symm.pow_right
  rw [hsplit] at hdvd
  have hburst := hcoprime.dvd_of_dvd_mul_right hdvd
  have hdegree : (poly ((w.drop start).take g.natDegree)).degree < g.degree := by
    have hg : g ≠ 0 := by
      rintro rfl
      exact h0 (coeff_zero 0)
    rw [degree_eq_natDegree hg]
    refine lt_of_lt_of_le (degree_poly_lt _) ?_
    exact_mod_cast List.length_take_le _ _
  have hzero := eq_zero_of_dvd_of_degree_lt hburst hdegree
  apply eq_zero_of_poly
  rw [hsplit, hzero, zero_mul]

/-- **The digits of a multiple sum to zero** when the generator has the root `1`. -/
theorem eval_one_of_dvd {w : List K} (h1 : g.eval 1 = 0) (hdvd : g ∣ poly w) : w.sum = 0 := by
  rw [← eval_one_poly]
  exact eval_eq_zero_of_dvd_of_eval_eq_zero hdvd h1

/-! ## The register -/

/-- A register that divides by `g`: its states stand for remainders, and it takes a symbol in
    by adding the symbol's digits and moving up by their number. -/
structure Divider (g : K[X]) (R α : Type*) where
  residue : R → AdjoinRoot g
  digits : α → List K
  width : ℕ
  absorb : R → α → R
  length_digits : ∀ a, (digits a).length = width
  residue_absorb : ∀ r a,
    residue (absorb r a) =
      (residue r + AdjoinRoot.mk g (poly (digits a))) * AdjoinRoot.root g ^ width

namespace Divider

variable {R α : Type*} (D : Divider g R α)

/-- The digits of a whole word of symbols. -/
def word (as : List α) : List K := as.flatMap D.digits

theorem length_word (as : List α) : (D.word as).length = D.width * as.length := by
  induction as with
  | nil => rfl
  | cons a as ih =>
    rw [word, List.flatMap_cons, List.length_append, D.length_digits, ← word, ih, List.length_cons]
    ring

/-- The register after a word: the word's polynomial, moved up by one more symbol. -/
theorem residue_foldl (as : List α) (r : R) :
    D.residue (as.foldl D.absorb r) =
      D.residue r * AdjoinRoot.root g ^ (D.width * as.length) +
        AdjoinRoot.mk g (poly (D.word as)) * AdjoinRoot.root g ^ D.width := by
  induction as generalizing r with
  | nil => simp [word]
  | cons a as ih =>
    have hword : D.word (a :: as) = D.digits a ++ D.word as := rfl
    rw [List.foldl_cons, ih, D.residue_absorb, hword, poly_append, map_add, map_mul, map_pow,
      AdjoinRoot.mk_X, length_word, List.length_cons]
    ring

/-- **Two words of one length leave the same remainder** exactly when the generator divides
    their difference. -/
theorem foldl_eq_iff (h0 : g.coeff 0 ≠ 0) {as bs : List α} (hlen : as.length = bs.length) (r : R) :
    D.residue (as.foldl D.absorb r) = D.residue (bs.foldl D.absorb r) ↔
      g ∣ poly (List.zipWith (· - ·) (D.word as) (D.word bs)) := by
  have hword : (D.word as).length = (D.word bs).length := by
    rw [length_word, length_word, hlen]
  rw [D.residue_foldl, D.residue_foldl, hlen, add_right_inj, ← poly_sub hword,
    ← AdjoinRoot.mk_X, ← map_pow, ← map_mul, ← map_mul, AdjoinRoot.mk_eq_mk, ← sub_mul]
  constructor
  · exact (isCoprime_X h0).symm.pow_right.dvd_of_dvd_mul_right
  · exact fun h => h.mul_right _

end Divider

end Cyclic

end BalboaRs485
