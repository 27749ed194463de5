import Librasp.Foundation.Crc

/-!
# `ds_therm.c`: the checksum of a scratchpad

`crc8` goes through a message byte by byte: it looks up the low and the high nibble of its
register in two tables. On the bus bytes are sent with their lowest bit first (`byteBits`), and
the checksum is the remainder for `x^8 + x^5 + x^4 + 1` of the message as it is sent
(`crc8_eq_serial`).

`crcSerial` is the register that is shifted bit by bit. Each shift multiplies by `X`
(`regPoly_crcShift`), so it is linear, and eight of them are what the tables have for the two
nibbles (`crcShift_eight`).

* **The tables.** A register is a polynomial of a degree below 8 (`regPoly`), and a byte a step of
  the word-by-word division of `Crc`. The entries of the tables are checked once, by the 16
  nibbles of each; everything else is about polynomials.
* **Errors.** `Detectable` are the error patterns that a checksum of a scratchpad is to notice: up
  to three bits, an odd number of bits, bits within a window of eight. A frame of 72 bits is
  shorter than the order of `X`, 127, so that none of them is a multiple of the polynomial
  (`not_dvd_of_detectable`).

**Main results.** `crc8_eq_serial` for the messages of any length, and `crc8_eq_iff_dvd`, by which
a disturbed frame is judged.
-/

namespace Librasp

open Polynomial Crc

/-! ### The model -/

/-- `CRC8_16L`. -/
def crc816L : Vector UInt8 16 :=
  #v[0x00, 0x5e, 0xbc, 0xe2, 0x61, 0x3f, 0xdd, 0x83,
    0xc2, 0x9c, 0x7e, 0x20, 0xa3, 0xfd, 0x1f, 0x41]

/-- `CRC8_16H`. -/
def crc816H : Vector UInt8 16 :=
  #v[0x00, 0x9d, 0x23, 0xbe, 0x46, 0xdb, 0x65, 0xf8,
    0x8c, 0x11, 0xaf, 0x32, 0xca, 0x57, 0xe9, 0x74]

theorem toNat_and_lt (x : UInt8) : (x &&& 0x0f).toNat < 16 := by
  rw [UInt8.toNat_and]
  exact Nat.and_lt_two_pow _ (show _ < 2 ^ 4 by decide)

theorem toNat_shiftRight_lt (x : UInt8) : (x >>> 4).toNat < 16 := by
  have h := x.toNat_lt
  rw [UInt8.toNat_shiftRight, Nat.shiftRight_eq_div_pow]
  exact Nat.div_lt_of_lt_mul h

/-- One byte of `crc8`. -/
def crc8Step (crc b : UInt8) : UInt8 :=
  let crc := crc ^^^ b
  crc816L.get ⟨(crc &&& 0x0f).toNat, toNat_and_lt crc⟩ ^^^
    crc816H.get ⟨(crc >>> 4).toNat, toNat_shiftRight_lt crc⟩

/-- `crc8`. -/
def crc8 (bs : List UInt8) : UInt8 := bs.foldl crc8Step 0

/-! ### The bit-serial register -/

/-- The register, shifted by one bit. -/
def crcShift (r : UInt8) : UInt8 := if r &&& 1 = 1 then (r >>> 1) ^^^ 0x8c else r >>> 1

/-- One byte, bit by bit. -/
def crcSerialStep (crc b : UInt8) : UInt8 := crcShift^[8] (crc ^^^ b)

/-- The bit-serial checksum. -/
def crcSerial (bs : List UInt8) : UInt8 := bs.foldl crcSerialStep 0

/-- The bits of a byte, as they are sent. -/
def byteBits (b : UInt8) : List Bool := (List.range 8).map b.toNat.testBit

/-- The bits of a message, as they are sent. -/
def bitsOf (bs : List UInt8) : List Bool := bs.flatMap byteBits

/-- `x^8 + x^5 + x^4 + 1`. -/
noncomputable def dowPoly : (ZMod 2)[X] := X ^ 8 + X ^ 5 + X ^ 4 + 1

/-- The polynomial of a register. -/
noncomputable def regPoly (r : UInt8) : (ZMod 2)[X] := bitPoly (byteBits r)

theorem monic_dowPoly : dowPoly.Monic := by
  rw [dowPoly]
  monicity!

theorem natDegree_dowPoly : dowPoly.natDegree = 8 := by
  rw [dowPoly]
  compute_degree!

/-! ### Bits -/

@[simp]
theorem length_byteBits (b : UInt8) : (byteBits b).length = 8 := by simp [byteBits]

theorem length_bitsOf (bs : List UInt8) : (bitsOf bs).length = 8 * bs.length := by
  rw [bitsOf, List.length_flatMap]
  simp only [length_byteBits, List.map_const', List.sum_replicate, smul_eq_mul]
  exact Nat.mul_comm ..

theorem byteBits_xor (a b : UInt8) :
    byteBits (a ^^^ b) = List.zipWith xor (byteBits a) (byteBits b) := by
  refine List.ext_getElem (by simp) fun i h₁ h₂ => ?_
  simp [byteBits, UInt8.toNat_xor, Nat.testBit_xor]

theorem byteBits_inj {a b : UInt8} (h : byteBits a = byteBits b) : a = b := by
  refine UInt8.toNat_inj.mp (Nat.eq_of_testBit_eq fun i => ?_)
  by_cases hi : i < 8
  · have hget := congrArg (fun l => l[i]?) h
    simpa [byteBits, hi] using hget
  · have hlt : ∀ x : UInt8, x.toNat < 2 ^ i := fun x =>
      x.toNat_lt.trans_le (Nat.pow_le_pow_right (by decide) (not_lt.mp hi))
    rw [Nat.testBit_lt_two_pow (hlt a), Nat.testBit_lt_two_pow (hlt b)]

/-- A shift to the right drops the bit that was sent first. -/
theorem byteBits_shiftRight (r : UInt8) :
    byteBits (r >>> 1) = (byteBits r).tail ++ [false] := by
  refine List.ext_getElem (by simp) fun i h₁ h₂ => ?_
  have hi : i < 8 := by simpa using h₁
  by_cases h7 : i < 7
  · rw [List.getElem_append_left (by simpa using h7), List.getElem_tail]
    simp [byteBits, UInt8.toNat_shiftRight, Nat.testBit_shiftRight, Nat.add_comm]
  · obtain rfl : i = 7 := by omega
    have hlt := r.toNat_lt
    simp [byteBits, UInt8.toNat_shiftRight, Nat.testBit_shiftRight]
    exact Nat.testBit_lt_two_pow hlt

/-- The register is odd when the bit to be sent first is set. -/
theorem byteBits_eq_cons (r : UInt8) :
    byteBits r = decide (r &&& 1 = 1) :: (byteBits r).tail := by
  have hbit : r.toNat.testBit 0 = decide (r &&& 1 = 1) := by
    rw [Nat.testBit_zero]
    refine decide_eq_decide.mpr ?_
    rw [← UInt8.toNat_inj, UInt8.toNat_and]
    simp [Nat.and_one_is_mod]
  rw [← hbit]
  rfl

theorem regPoly_xor (a b : UInt8) : regPoly (a ^^^ b) = regPoly a + regPoly b := by
  rw [regPoly, byteBits_xor, bitPoly_zipWith_xor (by simp)]
  rfl

theorem regPoly_inj {a b : UInt8} (h : regPoly a = regPoly b) : a = b :=
  byteBits_inj (bitPoly_inj (by simp) h)

/-- A register is its own remainder. -/
theorem regPoly_modByMonic (r : UInt8) : regPoly r %ₘ dowPoly = regPoly r := by
  refine (modByMonic_eq_self_iff monic_dowPoly).mpr ?_
  rw [degree_eq_natDegree monic_dowPoly.ne_zero, natDegree_dowPoly]
  exact (degree_bitPoly_lt _).trans_eq (by simp)

/-! ### Shifts -/

/-- The polynomial that a shift adds for the bit that it drops. -/
theorem regPoly_feedback : regPoly 0x8c = dowPoly + X ^ 8 := by
  have hbits : byteBits 0x8c = [false, false, true, true, false, false, false, true] := by decide
  have htwo : (X ^ 8 + X ^ 8 : (ZMod 2)[X]) = 0 := CharTwo.add_self_eq_zero _
  rw [regPoly, hbits, dowPoly]
  simp only [bitPoly_cons, bitPoly_nil, List.length_cons, List.length_nil, if_true,
    Bool.false_eq_true, if_false]
  linear_combination (-1 : (ZMod 2)[X]) * htwo

/-- A shift multiplies by `X`. -/
theorem regPoly_crcShift (r : UInt8) : regPoly (crcShift r) = (regPoly r * X) %ₘ dowPoly := by
  have hshift : regPoly r * X = (if r &&& 1 = 1 then X ^ 8 else 0) + regPoly (r >>> 1) := by
    have hone : bitPoly (byteBits r ++ List.replicate 1 false) = regPoly r * X := by
      rw [bitPoly_append_replicate, pow_one, regPoly]
    rw [← hone, byteBits_eq_cons, List.cons_append, bitPoly_cons, regPoly, byteBits_shiftRight]
    simp
  rw [hshift, crcShift]
  split_ifs with hodd
  · have hsub : X ^ 8 + regPoly (r >>> 1) - regPoly ((r >>> 1) ^^^ 0x8c) = dowPoly * (-1) := by
      rw [regPoly_xor, regPoly_feedback]
      ring
    rw [modByMonic_eq_of_dvd_sub monic_dowPoly ⟨_, hsub⟩, regPoly_modByMonic]
  · rw [zero_add, regPoly_modByMonic]

theorem regPoly_iterate (n : ℕ) (r : UInt8) :
    regPoly (crcShift^[n] r) = (regPoly r * X ^ n) %ₘ dowPoly := by
  induction n with
  | zero => rw [pow_zero, mul_one, regPoly_modByMonic]; rfl
  | succ n ih =>
    rw [Function.iterate_succ_apply', regPoly_crcShift, ih, pow_succ, ← mul_assoc]
    refine modByMonic_eq_of_dvd_sub monic_dowPoly ?_
    rw [← sub_mul]
    refine Dvd.dvd.mul_right ?_ X
    rw [← modByMonic_eq_zero_iff_dvd monic_dowPoly, sub_modByMonic, ← ih, regPoly_modByMonic,
      sub_self]

/-- Shifts are linear. -/
theorem iterate_crcShift_xor (n : ℕ) (a b : UInt8) :
    crcShift^[n] (a ^^^ b) = crcShift^[n] a ^^^ crcShift^[n] b := by
  refine regPoly_inj ?_
  rw [regPoly_xor, regPoly_iterate, regPoly_iterate, regPoly_iterate, regPoly_xor, add_mul,
    add_modByMonic]

/-- A byte is its low and its high nibble. -/
theorem nibbles_eq (x : UInt8) : (x &&& 0x0f : UInt8) ^^^ ((x >>> 4) <<< 4) = x := by
  refine UInt8.toNat_inj.mp (Nat.eq_of_testBit_eq fun i => ?_)
  have hmask : Nat.testBit 15 i = decide (i < 4) := Nat.testBit_two_pow_sub_one 4 i
  have hlow : (x &&& 0x0f : UInt8).toNat.testBit i = (x.toNat.testBit i && decide (i < 4)) := by
    rw [UInt8.toNat_and, Nat.testBit_and]
    exact congrArg _ hmask
  have hhigh : ((x >>> 4) <<< 4 : UInt8).toNat.testBit i =
      (decide (i < 8) && (decide (4 ≤ i) && x.toNat.testBit (4 + (i - 4)))) := by
    rw [UInt8.toNat_shiftLeft, UInt8.toNat_shiftRight, Nat.testBit_mod_two_pow,
      Nat.testBit_shiftLeft, Nat.testBit_shiftRight]
    rfl
  rw [UInt8.toNat_xor, Nat.testBit_xor, hlow, hhigh]
  by_cases h4 : i < 4
  · simp [h4, not_le.mpr h4]
  · rw [Nat.add_sub_cancel' (not_lt.mp h4)]
    by_cases h8 : i < 8
    · simp [h4, not_lt.mp h4, h8]
    · have hlt : x.toNat < 2 ^ i :=
        x.toNat_lt.trans_le (Nat.pow_le_pow_right (by decide) (not_lt.mp h8))
      simp [h4, h8, Nat.testBit_lt_two_pow hlt]

/-! ### The tables -/

/-- The tables have eight shifts of a nibble. -/
theorem crcShift_eight (x : UInt8) :
    crc816L.get ⟨(x &&& 0x0f).toNat, toNat_and_lt x⟩ ^^^
      crc816H.get ⟨(x >>> 4).toNat, toNat_shiftRight_lt x⟩ = crcShift^[8] x := by
  have hlow : ∀ i : Fin 16, crc816L.get i = crcShift^[8] (UInt8.ofNat i) := by decide
  have hhigh : ∀ i : Fin 16, crc816H.get i = crcShift^[8] (UInt8.ofNat i <<< 4) := by decide
  conv_rhs => rw [← nibbles_eq x, iterate_crcShift_xor]
  rw [hlow, hhigh, UInt8.ofNat_toNat, UInt8.ofNat_toNat]

theorem crc8Step_eq (crc b : UInt8) : crc8Step crc b = crcSerialStep crc b := crcShift_eight _

/-- The register after a byte: the byte is added to the register, and what results is shifted
eight times, which the two tables have for its nibbles. -/
theorem regPoly_crc8Step (crc b : UInt8) :
    regPoly (crc8Step crc b) = wordRem dowPoly 8 (regPoly crc) (byteBits b) := by
  rw [crc8Step_eq, crcSerialStep, regPoly_iterate, regPoly_xor]
  rfl

/-- The checksum is the check value of the message as it is sent. -/
theorem regPoly_crc8 (bs : List UInt8) : regPoly (crc8 bs) = checkRem dowPoly 8 (bitsOf bs) := by
  have hzero : regPoly 0 = 0 := bitPoly_eq_zero_iff.mpr (by decide)
  have hfold : ∀ (bs : List UInt8) (crc : UInt8), regPoly (bs.foldl crc8Step crc) =
      (bs.map byteBits).foldl (wordRem dowPoly 8) (regPoly crc) := by
    intro bs
    induction bs with
    | nil => exact fun _ => rfl
    | cons b bs ih =>
      intro crc
      rw [List.foldl_cons, ih, regPoly_crc8Step, List.map_cons, List.foldl_cons]
  have hwords : ∀ w ∈ bs.map byteBits, w.length = 8 := by simp
  rw [crc8, hfold, hzero, foldl_wordRem monic_dowPoly hwords, bitsOf, List.flatMap]

/-- **The tables.** The checksum by nibble tables is that of the bit-serial register, the remainder
of the message as it is sent; so a message followed by its checksum has the checksum 0. -/
theorem crc8_eq_serial (bs : List UInt8) :
    crc8 bs = crcSerial bs ∧ regPoly (crc8 bs) = (bitPoly (bitsOf bs) * X ^ 8) %ₘ dowPoly ∧
      crc8 (bs ++ [crc8 bs]) = 0 := by
  refine ⟨?_, regPoly_crc8 bs, ?_⟩
  · rw [crc8, crcSerial]
    exact congrArg (fun f => bs.foldl f 0) (funext₂ crc8Step_eq)
  · have hself : crc8Step (crc8 bs) (crc8 bs) = crcShift^[8] 0 := by
      rw [crc8Step_eq, crcSerialStep, UInt8.xor_self]
    rw [crc8, List.foldl_append, List.foldl_cons, List.foldl_nil, ← crc8, hself]
    decide

example : crc8 [0x50, 0x05, 0x4b, 0x46, 0x7f, 0xff, 0x0c, 0x10] = 0x1c := by decide

/-! ### Corrupted scratchpads -/

/-- A frame is right when its last byte is the checksum of the others, that is when the bits of
the frame as it is sent are a multiple of the polynomial. -/
theorem crc8_eq_iff_dvd (bs : List UInt8) (crc : UInt8) :
    crc8 bs = crc ↔ dowPoly ∣ bitPoly (bitsOf (bs ++ [crc])) := by
  have hbits : bitsOf (bs ++ [crc]) = bitsOf bs ++ byteBits crc := by
    rw [bitsOf, List.flatMap_append, List.flatMap_singleton]
    rfl
  rw [hbits, dvd_append_iff monic_dowPoly natDegree_dowPoly _ (length_byteBits crc),
    ← regPoly_crc8]
  exact ⟨fun h => congrArg regPoly h.symm, fun h => (regPoly_inj h).symm⟩

/-- `X` has a power of 1 modulo the polynomial as late as that of a register that comes back. -/
theorem dvd_X_pow_add_one_iff (d : ℕ) : dowPoly ∣ X ^ d + 1 ↔ crcShift^[d] 0x80 = 0x80 := by
  have hone : regPoly 0x80 = 1 := by
    have hbits : byteBits 0x80 = List.replicate 7 false ++ [true] := by decide
    rw [regPoly, hbits, bitPoly_replicate_append, bitPoly_cons]
    simp
  have hpow : regPoly (crcShift^[d] 0x80) = X ^ d %ₘ dowPoly := by
    rw [regPoly_iterate, hone, one_mul]
  have hself : (1 : (ZMod 2)[X]) %ₘ dowPoly = 1 := hone ▸ regPoly_modByMonic 0x80
  rw [← modByMonic_eq_zero_iff_dvd monic_dowPoly, add_modByMonic, CharTwo.add_eq_zero, ← hpow,
    hself, ← hone]
  exact ⟨regPoly_inj, congrArg regPoly⟩

/-- No two bits of a scratchpad are as far apart as the order of `X`. -/
theorem not_dvd_X_pow_add_one {d : ℕ} (hpos : 0 < d) (hlt : d < 72) : ¬ dowPoly ∣ X ^ d + 1 := by
  have hne : ∀ d < 72, 0 < d → crcShift^[d] 0x80 ≠ 0x80 := by decide
  rw [dvd_X_pow_add_one_iff]
  exact hne d hlt hpos

theorem X_add_one_dvd_dowPoly : X + 1 ∣ dowPoly := by
  refine ⟨X ^ 7 + X ^ 6 + X ^ 5 + X ^ 3 + X ^ 2 + X + 1, ?_⟩
  have htwo : (2 : (ZMod 2)[X]) = 0 := CharTwo.two_eq_zero
  rw [dowPoly]
  linear_combination (-(X ^ 7 + X ^ 6 + X ^ 3 + X ^ 2 + X : (ZMod 2)[X])) * htwo

theorem isCoprime_dowPoly_X : IsCoprime dowPoly X := by
  refine ⟨1, -(X ^ 7 + X ^ 4 + X ^ 3), ?_⟩
  rw [dowPoly]
  ring

/-- The error patterns that a checksum is to detect: up to three bits, an odd number of bits, or
bits within a window of eight. -/
def Detectable (err : List Bool) : Prop :=
  err.count true ≤ 3 ∨ Odd (err.count true) ∨
    ∃ i w j, err = List.replicate i false ++ w ++ List.replicate j false ∧ w.length ≤ 8

/-- An error pattern that is detectable is no multiple of the polynomial. It has the factor `X +
1` and no factor `X`, and two bits of a scratchpad are not as far apart as the order of `X`;
three bits are an odd number of them. -/
theorem not_dvd_of_detectable {err : List Bool} (hlen : err.length ≤ 72) (hne : true ∈ err)
    (h : Detectable err) : ¬ dowPoly ∣ bitPoly err := by
  have hpos : 0 < err.count true := List.count_pos_iff.mpr hne
  have hodd := fun ho : Odd (err.count true) => not_dvd_of_odd X_add_one_dvd_dowPoly ho
  rcases h with h3 | ho | ⟨i, w, j, rfl, hw⟩
  · obtain h1 | h2 | h3 : err.count true = 1 ∨ err.count true = 2 ∨ err.count true = 3 := by omega
    · exact hodd (h1 ▸ by decide)
    · exact not_dvd_two isCoprime_dowPoly_X
        (fun d hd hlt => not_dvd_X_pow_add_one hd (hlt.trans_le hlen)) h2
    · exact hodd (h3 ▸ by decide)
  · exact hodd ho
  · refine not_dvd_burst isCoprime_dowPoly_X (hw.trans_eq natDegree_dowPoly.symm) ?_ i j
    simpa using hne

end Librasp
