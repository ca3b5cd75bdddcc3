import BalboaRs485.Lib.Cyclic
import BalboaRs485.Protocol.Stream
import Mathlib.Algebra.Field.ZMod
import Mathlib.Tactic.ComputeDegree
import Mathlib.Tactic.LinearCombination

/-!
# What the checksum detects

`crc8` divides by `X⁸ + X² + X + 1` over `ℤ₂`. The initial register and the final mask do not
change which errors it sees.

* `crcOctet_residue`: one octet through the nested bit loop is one step of the division.
* `foldl_ne`: errors within eight consecutive bits, or in an odd number of bits, change the
  register.
* `checksum_detects`: so they change `crc8`, and no parser accepts a wire they hit.
-/

namespace BalboaRs485

open Polynomial Cyclic

/-! ## Bits -/

/-- The bits of an octet, most significant first. -/
def octetBits (octet : UInt8) : List Bool := (List.range 8).map octet.toBitVec.getMsbD

/-- The bits of a string, most significant first. -/
def bits (data : Bytes) : List Bool := data.flatMap octetBits

/-- The bits in which two strings differ. -/
def flips (x y : Bytes) : List Bool := List.zipWith Bool.xor (bits x) (bits y)

/-- Two strings of one length that differ within a window of eight consecutive bits, or in an
    odd number of bits. -/
structure Corrupted (x y : Bytes) : Prop where
  length : x.length = y.length
  ne : x ≠ y
  pattern : (∃ start, ∀ i, (flips x y)[i]? = some true → start ≤ i ∧ i < start + 8) ∨
    Odd ((flips x y).count true)

/-- A bit as a digit. -/
def digit (b : Bool) : ZMod 2 := if b then 1 else 0

theorem digit_xor (a b : Bool) : digit (a ^^ b) = digit a + digit b := by
  cases a <;> cases b <;> decide

theorem digit_sub (a b : Bool) : digit a - digit b = digit (a ^^ b) := by
  cases a <;> cases b <;> decide

theorem digit_ne_zero {b : Bool} : digit b ≠ 0 ↔ b = true := by
  cases b <;> decide

theorem octetBits_eq (octet : UInt8) :
    octetBits octet = [octet.toBitVec.getLsbD 7, octet.toBitVec.getLsbD 6, octet.toBitVec.getLsbD 5,
      octet.toBitVec.getLsbD 4, octet.toBitVec.getLsbD 3, octet.toBitVec.getLsbD 2,
      octet.toBitVec.getLsbD 1, octet.toBitVec.getLsbD 0] := by
  simp [octetBits, List.range_succ, BitVec.getMsbD]

theorem octetBits_xor (a b : UInt8) :
    octetBits (a ^^^ b) = List.zipWith Bool.xor (octetBits a) (octetBits b) := by
  simp [octetBits_eq]

theorem octetBits_injective {a b : UInt8} (h : octetBits a = octetBits b) : a = b := by
  apply UInt8.toBitVec_inj.mp
  rw [octetBits_eq, octetBits_eq] at h
  simp only [List.cons.injEq] at h
  obtain ⟨h7, h6, h5, h4, h3, h2, h1, h0, -⟩ := h
  apply BitVec.eq_of_getLsbD_eq
  intro i hi
  interval_cases i <;> assumption

/-- The test on the top bit. -/
theorem and_0x80 (register : UInt8) :
    register &&& 0x80 ≠ 0 ↔ register.toBitVec.getLsbD 7 = true := by
  have htop : (register &&& 0x80).toBitVec = register.toBitVec &&& BitVec.twoPow 8 7 := rfl
  rw [Ne, ← UInt8.toBitVec_inj, htop, BitVec.and_twoPow]
  cases register.toBitVec.getLsbD 7 <;> decide

/-- One shift moves every bit up and folds the top one into the last three. -/
theorem octetBits_crcShift (register : UInt8) :
    octetBits (crcShift register) =
      [register.toBitVec.getLsbD 6, register.toBitVec.getLsbD 5, register.toBitVec.getLsbD 4,
        register.toBitVec.getLsbD 3, register.toBitVec.getLsbD 2,
        register.toBitVec.getLsbD 1 ^^ register.toBitVec.getLsbD 7,
        register.toBitVec.getLsbD 0 ^^ register.toBitVec.getLsbD 7,
        register.toBitVec.getLsbD 7] := by
  have hbits : octetBits (register <<< 1) =
      [register.toBitVec.getLsbD 6, register.toBitVec.getLsbD 5, register.toBitVec.getLsbD 4,
        register.toBitVec.getLsbD 3, register.toBitVec.getLsbD 2, register.toBitVec.getLsbD 1,
        register.toBitVec.getLsbD 0, false] := by
    have hshift : (register <<< 1).toBitVec = register.toBitVec <<< 1 := rfl
    simp [octetBits_eq, hshift]
  rw [crcShift, octetBits_xor, hbits]
  by_cases htop : register &&& 0x80 ≠ 0
  · have hmask : octetBits 0x07 = [false, false, false, false, false, true, true, true] := by decide
    rw [if_pos htop, hmask, (and_0x80 register).mp htop]
    simp
  · have hmask : octetBits 0 = List.replicate 8 false := by decide
    have hlow := mt (and_0x80 register).mpr htop
    rw [Bool.not_eq_true] at hlow
    rw [if_neg htop, hmask, hlow]
    simp [List.replicate]

/-! ## The division -/

/-- `X⁸ + X² + X + 1`. -/
noncomputable def crcPoly : (ZMod 2)[X] := X ^ 8 + X ^ 2 + X + 1

theorem crcPoly_natDegree : crcPoly.natDegree = 8 := by
  unfold crcPoly
  compute_degree!

theorem crcPoly_coeff_zero : crcPoly.coeff 0 ≠ 0 := by
  simp [crcPoly]

/-- The generator has `X + 1` as a factor. -/
theorem crcPoly_eval_one : crcPoly.eval 1 = 0 := by
  simp only [crcPoly, eval_add, eval_pow, eval_X, eval_one]
  decide

/-- The digits of an octet. -/
def octetDigits (octet : UInt8) : List (ZMod 2) := (octetBits octet).map digit

/-- The remainder a register stands for. -/
noncomputable def residue (register : UInt8) : AdjoinRoot crcPoly :=
  AdjoinRoot.mk crcPoly (poly (octetDigits register))

theorem two_eq_zero : (2 : (ZMod 2)[X]) = 0 := by
  have h : (2 : (ZMod 2)[X]) = C 2 := rfl
  rw [h, show (2 : ZMod 2) = 0 from rfl, C_0]

theorem poly_xor (a b : UInt8) :
    poly (octetDigits (a ^^^ b)) = poly (octetDigits a) + poly (octetDigits b) := by
  rw [octetDigits, octetDigits, octetDigits, octetBits_xor, octetBits_eq a, octetBits_eq b]
  simp only [List.zipWith_cons_cons, List.zipWith_nil_left, List.map_cons, List.map_nil, digit_xor,
    poly_cons, poly_nil, List.length_cons, List.length_nil, C_add]
  ring

theorem residue_xor (a b : UInt8) :
    residue (a ^^^ b) = residue a + AdjoinRoot.mk crcPoly (poly (octetDigits b)) := by
  unfold residue
  rw [poly_xor, map_add]

/-- One shift is a multiplication by `X`, less the generator when the top bit falls out. -/
theorem poly_crcShift (register : UInt8) :
    poly (octetDigits (crcShift register)) =
      poly (octetDigits register) * X + crcPoly * C (digit (register.toBitVec.getLsbD 7)) := by
  rw [octetDigits, octetDigits, octetBits_crcShift, octetBits_eq]
  simp only [List.map_cons, List.map_nil, digit_xor, poly_cons, poly_nil, List.length_cons,
    List.length_nil, C_add, crcPoly]
  linear_combination -(C (digit (register.toBitVec.getLsbD 7)) * X ^ 8) * two_eq_zero

/-- **One shift multiplies the remainder by `X`.** -/
theorem residue_crcShift (register : UInt8) :
    residue (crcShift register) = residue register * AdjoinRoot.root crcPoly := by
  rw [residue, residue, poly_crcShift, map_add, map_mul, map_mul, AdjoinRoot.mk_self, zero_mul,
    add_zero, AdjoinRoot.mk_X]

/-- One octet adds its digits and multiplies by `X⁸`. -/
theorem crcOctet_residue (register octet : UInt8) :
    residue (crcOctet register octet) =
      (residue register + AdjoinRoot.mk crcPoly (poly (octetDigits octet))) *
        AdjoinRoot.root crcPoly ^ 8 := by
  rw [← residue_xor, crcOctet]
  generalize register ^^^ octet = start
  have hiterate : ∀ n,
      residue (crcShift^[n] start) = residue start * AdjoinRoot.root crcPoly ^ n := by
    intro n
    induction n with
    | zero => simp
    | succ n ih => rw [Function.iterate_succ_apply', residue_crcShift, ih, pow_succ, mul_assoc]
  exact hiterate 8

theorem length_octetDigits (octet : UInt8) : (octetDigits octet).length = 8 := by
  simp [octetDigits, octetBits]

/-- The loop of `crc8` as a division. -/
noncomputable def crcDivider : Divider crcPoly UInt8 UInt8 where
  residue := residue
  digits := octetDigits
  width := 8
  absorb := crcOctet
  length_digits := length_octetDigits
  residue_absorb := crcOctet_residue

theorem crcDivider_word (x : Bytes) : crcDivider.word x = (bits x).map digit := by
  induction x with
  | nil => rfl
  | cons octet x ih =>
    have hword : crcDivider.word (octet :: x) = octetDigits octet ++ crcDivider.word x := rfl
    have hbits : bits (octet :: x) = octetBits octet ++ bits x := rfl
    rw [hword, hbits, ih, List.map_append, octetDigits]

theorem zipWith_digits (u v : List Bool) :
    List.zipWith (· - ·) (u.map digit) (v.map digit) = (List.zipWith Bool.xor u v).map digit := by
  rw [List.zipWith_map, List.map_zipWith]
  congr 1
  funext a b
  exact digit_sub a b

/-- Equal registers after two strings: the generator divides the bits in which they differ. -/
theorem dvd_flips {x y : Bytes} (hlen : x.length = y.length) {register : UInt8}
    (h : x.foldl crcOctet register = y.foldl crcOctet register) :
    crcPoly ∣ poly ((flips x y).map digit) := by
  have heq : crcDivider.residue (x.foldl crcDivider.absorb register) =
      crcDivider.residue (y.foldl crcDivider.absorb register) := congrArg residue h
  rw [crcDivider.foldl_eq_iff crcPoly_coeff_zero hlen, crcDivider_word, crcDivider_word,
    zipWith_digits] at heq
  exact heq

/-! ## Detected errors -/

theorem length_bits (x : Bytes) : (bits x).length = 8 * x.length := by
  induction x with
  | nil => rfl
  | cons octet x ih =>
    have hcons : bits (octet :: x) = octetBits octet ++ bits x := rfl
    rw [hcons, List.length_append, ih, List.length_cons, octetBits, List.length_map,
      List.length_range]
    omega

theorem bits_injective {x y : Bytes} (h : bits x = bits y) : x = y := by
  induction x generalizing y with
  | nil =>
    have hlen := congrArg List.length h
    rw [length_bits, length_bits] at hlen
    cases y with
    | nil => rfl
    | cons octet y => simp at hlen
  | cons a x ih =>
    cases y with
    | nil =>
      have hlen := congrArg List.length h
      rw [length_bits, length_bits] at hlen
      simp at hlen
    | cons b y =>
      have happ : octetBits a ++ bits x = octetBits b ++ bits y := h
      obtain ⟨hhead, htail⟩ := List.append_inj happ (by simp [octetBits])
      rw [octetBits_injective hhead, ih htail]

/-- Lists of one length without a difference are equal. -/
theorem eq_of_xor {u v : List Bool} (hlen : u.length = v.length)
    (h : ∀ b ∈ List.zipWith Bool.xor u v, b = false) : u = v := by
  induction u generalizing v with
  | nil => exact (List.length_eq_zero_iff.mp hlen.symm).symm
  | cons a u ih =>
    cases v with
    | nil => simp at hlen
    | cons b v =>
      rw [List.zipWith_cons_cons, List.forall_mem_cons] at h
      have hhead : a = b := by simpa using h.1
      rw [hhead, ih (by simpa using hlen) h.2]

theorem sum_digits (bs : List Bool) : (bs.map digit).sum = (bs.count true : ZMod 2) := by
  induction bs with
  | nil => rfl
  | cons b bs ih =>
    rw [List.map_cons, List.sum_cons, ih]
    cases b
    · simp [digit]
    · simp [digit, add_comm]

/-- **A corrupted string leaves another register**, whatever the register was before. -/
theorem foldl_ne {x y : Bytes} (h : Corrupted x y) (register : UInt8) :
    x.foldl crcOctet register ≠ y.foldl crcOctet register := by
  intro heq
  have hdvd := dvd_flips h.length heq
  rcases h.pattern with ⟨start, hburst⟩ | hodd
  · -- Within eight bits: a polynomial below the generator's degree, so no multiple of it.
    have hdigits : ∀ i d, ((flips x y).map digit)[i]? = some d → d ≠ 0 →
        start ≤ i ∧ i < start + crcPoly.natDegree := by
      intro i d hd hne
      rw [List.getElem?_map] at hd
      obtain ⟨b, hb, rfl⟩ := Option.map_eq_some_iff.mp hd
      rw [digit_ne_zero.mp hne] at hb
      rw [crcPoly_natDegree]
      exact hburst i hb
    have hzero : ∀ d ∈ (flips x y).map digit, d = 0 :=
      dvd_burst crcPoly_coeff_zero hdigits hdvd
    have hclear : ∀ b ∈ flips x y, b = false := by
      intro b hb
      by_contra hne
      rw [Bool.not_eq_false] at hne
      exact digit_ne_zero.mpr hne (hzero _ (List.mem_map_of_mem hb))
    have hlen : (bits x).length = (bits y).length := by
      rw [length_bits, length_bits, h.length]
    exact h.ne (bits_injective (eq_of_xor hlen hclear))
  · -- An odd number: the polynomial does not vanish at `1`, where the generator does.
    have hsum := eval_one_of_dvd crcPoly_eval_one hdvd
    rw [sum_digits, ZMod.natCast_eq_zero_iff_even] at hsum
    exact Nat.not_even_iff_odd.mpr hodd hsum

theorem crc8_ne {x y : Bytes} (h : Corrupted x y) : crc8 x ≠ crc8 y := by
  intro heq
  exact foldl_ne h 0x02 (by simpa [crc8] using heq)

/-! ## Wires -/

/-- The bytes of a wire from the address to the checksum. -/
def Frame.covered (frame : Frame) : Bytes :=
  frame.address :: frame.family :: frame.messageType :: (frame.payload ++ [crc8 frame.body])

/-- The wire of a frame with other bytes from the address to the checksum. -/
def Frame.wireWith (frame : Frame) (covered : Bytes) : Bytes :=
  0x7E :: UInt8.ofNat (frame.payload.length + 5) :: (covered ++ [0x7E])

theorem wireWith_covered (frame : Frame) : frame.wireWith frame.covered = encodeFrame frame := by
  simp [Frame.wireWith, Frame.covered, encodeFrame, Frame.body]

/-- A body and its own checksum always leave the same register. -/
theorem foldl_crc8 (body : Bytes) :
    (body ++ [crc8 body]).foldl crcOctet 0x02 = crcOctet 0x02 0 := by
  have hmask : ∀ register : UInt8, register ^^^ (register ^^^ 0x02) = 0x02 ^^^ 0 := by
    intro register
    rw [← UInt8.xor_assoc, UInt8.xor_self, UInt8.zero_xor, UInt8.xor_zero]
  rw [List.foldl_append, List.foldl_cons, List.foldl_nil, crcOctet, crcOctet, crc8, hmask]

theorem crc8_ne_of_covered {a f m c : UInt8} {p : Bytes} {frame : Frame}
    (h : Corrupted frame.covered (a :: f :: m :: (p ++ [c]))) :
    crc8 (UInt8.ofNat (frame.payload.length + 5) :: a :: f :: m :: p) ≠ c := by
  rintro rfl
  have hsent := foldl_crc8 frame.body
  have hseen := foldl_crc8 (UInt8.ofNat (frame.payload.length + 5) :: a :: f :: m :: p)
  simp only [Frame.body, List.cons_append, List.foldl_cons] at hsent hseen
  have hne := foldl_ne h (crcOctet 0x02 (UInt8.ofNat (frame.payload.length + 5)))
  simp only [Frame.covered, Frame.body, List.foldl_cons] at hne
  rw [hsent, hseen] at hne
  exact hne rfl

/-- Four or more bytes have three at the start and one at the end. -/
theorem exists_covered {covered : Bytes} {n : ℕ} (h : covered.length = n + 4) :
    ∃ a f m p c, covered = a :: f :: m :: (p ++ [c]) := by
  obtain ⟨a, t, rfl⟩ := List.exists_cons_of_length_eq_add_one h
  obtain ⟨f, t, rfl⟩ := List.exists_cons_of_length_eq_add_one (Nat.succ.inj h)
  obtain ⟨m, t, rfl⟩ := List.exists_cons_of_length_eq_add_one (Nat.succ.inj (Nat.succ.inj h))
  have hne : t ≠ [] := by
    rintro rfl
    simp at h
  exact ⟨a, f, m, t.dropLast, t.getLast hne, by rw [List.dropLast_append_getLast]⟩

/-- **A corrupted wire is rejected for its checksum**, whatever follows it. -/
theorem window_corrupted {frame : Frame} {covered : Bytes} (h : Corrupted frame.covered covered)
    (rest : Bytes) : FrameParser.window (frame.wireWith covered ++ rest) = .badCrc := by
  have hlen : covered.length = frame.payload.length + 4 := by
    rw [← h.length]
    simp [Frame.covered]
  obtain ⟨a, f, m, p, c, rfl⟩ := exists_covered hlen
  have hp : p.length = frame.payload.length := by simpa using hlen
  have hshort := frame.short
  have hl : (UInt8.ofNat (frame.payload.length + 5)).toNat = p.length + 5 := by
    rw [FrameParser.toNat_length, hp]
  have hwire : frame.wireWith (a :: f :: m :: (p ++ [c])) ++ rest =
      0x7E :: UInt8.ofNat (frame.payload.length + 5) :: a :: f :: m ::
        (p ++ c :: 0x7E :: rest) := by
    simp [Frame.wireWith]
  rw [hwire, FrameParser.window_eq hl (by omega), if_neg (by simp),
    if_pos (crc8_ne_of_covered h)]

namespace FrameParser

/-- Where the checksum is wrong there is no window. -/
theorem not_windowAt_of_badCrc {stream : Bytes} {i : ℕ} (h : window (stream.drop i) = .badCrc)
    (frame : Frame) : ¬ WindowAt stream i frame := by
  intro hwin
  obtain ⟨rest, hdrop⟩ := windowAt_iff.mp hwin
  rw [hdrop, window_encodeFrame] at h
  cases h

end FrameParser

/-- **What the checksum detects**: an error within eight consecutive bits, or in an odd number
    of bits. A wire with such an error between its length and its final delimiter is not
    accepted, wherever it stands in whatever stream. -/
theorem checksum_detects :
    (∀ x y, Corrupted x y → crc8 x ≠ crc8 y) ∧
    ∀ (frame : Frame) (covered : Bytes), Corrupted frame.covered covered →
      (∀ rest, FrameParser.window (frame.wireWith covered ++ rest) = .badCrc) ∧
      ∀ (chunks : List Bytes) (garbage rest : Bytes),
        chunks.flatten = garbage ++ frame.wireWith covered ++ rest →
        ∃ windows j, FrameParser.Leftmost chunks.flatten 0 windows j ∧
          (FrameParser.feedAll {} chunks).1 = windows.map Prod.snd ∧
          ∀ other, (garbage.length, other) ∉ windows := by
  refine ⟨fun x y h => crc8_ne h, fun frame covered h => ⟨window_corrupted h, ?_⟩⟩
  intro chunks garbage rest hstream
  have hall : FrameParser.feedAll {} chunks =
      FrameParser.outcome (FrameParser.frameScanner.run chunks.flatten) {} :=
    FrameParser.feedAll_eq
      (show FrameParser.scanStep ({} : FrameParser).buffer = none from rfl) chunks
  obtain ⟨windows, j, hleft, -, hframes, -⟩ :=
    FrameParser.leftmost_run (Nat.zero_le chunks.flatten.length)
  rw [List.drop_zero] at hframes
  refine ⟨windows, j, hleft, by rw [hall]; exact hframes, ?_⟩
  intro other hmem
  have hdrop : chunks.flatten.drop garbage.length = frame.wireWith covered ++ rest := by
    rw [hstream, List.append_assoc, List.drop_left]
  have hbad := window_corrupted h rest
  rw [← hdrop] at hbad
  exact FrameParser.not_windowAt_of_badCrc hbad other (hleft.windowAt hmem)

/-- A ready query with the last bit of its type flipped. -/
theorem checksum_detects_sample : crc8 [0x05, 0x0A, 0xBF, 0x04] ≠ crc8 [0x05, 0x0A, 0xBF, 0x05] :=
  checksum_detects.1 _ _ ⟨rfl, by decide, Or.inr (by decide)⟩

end BalboaRs485
