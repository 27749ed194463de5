import Mathlib.Algebra.Polynomial.Div
import Mathlib.Algebra.Polynomial.FieldDivision
import Mathlib.Algebra.CharP.Two
import Mathlib.Data.ZMod.Basic
import Mathlib.Tactic

/-!
# Cyclic redundancy checks

A string of bits is a polynomial over the field of two elements, its first bit the coefficient of
the highest degree (`bitPoly`). The check value of a message for a generator `G` of degree `n` is
the remainder of the message, shifted up by `n`; it may be computed word by word
(`foldl_wordRem`). A message with its check value behind it is a multiple of the generator
(`dvd_append_iff`), so that a receiver needs no more than a division.

An error pattern goes undetected just when `G` divides it. Some are always detected:

* an odd number of bits, when `G` has the factor `X + 1` (`not_dvd_of_odd`): a multiple of `G` is
  0 at 1, and there a string counts its bits;
* bits within a window as wide as the degree of `G` (`not_dvd_burst`): they are a power of `X`
  times a polynomial of a lower degree;
* two bits, as long as the order of `X` modulo `G` exceeds their distance (`not_dvd_two`).

The patterns are of any length, and none of the results enumerates them.
-/

namespace Librasp

namespace Crc

open Polynomial

/-! ### Strings of bits -/

/-- The polynomial of a string of bits. -/
noncomputable def bitPoly : List Bool → (ZMod 2)[X]
  | [] => 0
  | b :: bs => (if b then X ^ bs.length else 0) + bitPoly bs

@[simp]
theorem bitPoly_nil : bitPoly [] = 0 := rfl

theorem bitPoly_cons (b : Bool) (bs : List Bool) :
    bitPoly (b :: bs) = (if b then X ^ bs.length else 0) + bitPoly bs := rfl

theorem bitPoly_append (as bs : List Bool) :
    bitPoly (as ++ bs) = bitPoly as * X ^ bs.length + bitPoly bs := by
  induction as with
  | nil => simp
  | cons a as ih =>
    rw [List.cons_append, bitPoly_cons, bitPoly_cons, ih, List.length_append, add_mul,
      ← add_assoc, ite_mul, zero_mul, pow_add]

@[simp]
theorem bitPoly_replicate_false (n : ℕ) : bitPoly (List.replicate n false) = 0 := by
  induction n with
  | zero => rfl
  | succ n ih => rw [List.replicate_succ, bitPoly_cons, ih, if_neg (by decide), add_zero]

/-- Leading zeros do not count. -/
theorem bitPoly_replicate_append (n : ℕ) (bs : List Bool) :
    bitPoly (List.replicate n false ++ bs) = bitPoly bs := by
  rw [bitPoly_append, bitPoly_replicate_false, zero_mul, zero_add]

/-- Zeros at the end shift a string up. -/
theorem bitPoly_append_replicate (bs : List Bool) (n : ℕ) :
    bitPoly (bs ++ List.replicate n false) = bitPoly bs * X ^ n := by
  rw [bitPoly_append, bitPoly_replicate_false, add_zero, List.length_replicate]

/-- Adding is taking the exclusive or. -/
theorem bitPoly_zipWith_xor {as bs : List Bool} (h : as.length = bs.length) :
    bitPoly (List.zipWith xor as bs) = bitPoly as + bitPoly bs := by
  induction as generalizing bs with
  | nil => rw [List.eq_nil_of_length_eq_zero h.symm, List.zipWith_nil_left, bitPoly_nil, add_zero]
  | cons a as ih =>
    obtain ⟨b, bs, rfl⟩ := List.exists_cons_of_length_eq_add_one h.symm
    have hlen : as.length = bs.length := by simpa using h
    rw [List.zipWith_cons_cons, bitPoly_cons, bitPoly_cons, bitPoly_cons, ih hlen,
      List.length_zipWith, hlen, min_self]
    have hbit : (if (a ^^ b) = true then X ^ bs.length else 0 : (ZMod 2)[X]) =
        (if a = true then X ^ bs.length else 0) + if b = true then X ^ bs.length else 0 := by
      cases a <;> cases b <;> simp [CharTwo.add_self_eq_zero]
    rw [hbit, add_add_add_comm]

/-- The degree is below the number of bits. -/
theorem degree_bitPoly_lt (bs : List Bool) : (bitPoly bs).degree < bs.length := by
  induction bs with
  | nil => simp
  | cons b bs ih =>
    have hlen : ((bs.length : ℕ) : WithBot ℕ) < (b :: bs).length := by
      rw [List.length_cons]
      exact_mod_cast Nat.lt_succ_self _
    rw [bitPoly_cons]
    refine (degree_add_le _ _).trans_lt (max_lt ?_ (ih.trans hlen))
    split_ifs
    · rwa [degree_X_pow]
    · rw [degree_zero]
      exact WithBot.bot_lt_coe _

/-- Only zeros make up the zero polynomial. -/
theorem bitPoly_eq_zero_iff {bs : List Bool} : bitPoly bs = 0 ↔ true ∉ bs := by
  induction bs with
  | nil => simp
  | cons b bs ih =>
    cases b with
    | false => rw [bitPoly_cons, if_neg (by decide), zero_add, ih]; simp
    | true =>
      rw [bitPoly_cons, if_pos rfl]
      refine iff_of_false (fun h => ?_) (not_not.mpr List.mem_cons_self)
      -- the first bit has a degree that no other reaches
      have hdeg := degree_bitPoly_lt bs
      rw [← degree_X_pow (R := ZMod 2) bs.length, eq_neg_of_add_eq_zero_left h, degree_neg] at hdeg
      exact lt_irrefl _ hdeg

/-- Strings of one length with the same polynomial are the same. -/
theorem bitPoly_inj {as bs : List Bool} (hlen : as.length = bs.length)
    (h : bitPoly as = bitPoly bs) : as = bs := by
  have hzero : bitPoly (List.zipWith xor as bs) = 0 := by
    rw [bitPoly_zipWith_xor hlen, h, CharTwo.add_self_eq_zero]
  rw [bitPoly_eq_zero_iff] at hzero
  refine List.ext_getElem hlen fun i ha hb => ?_
  by_contra hne
  refine hzero (List.mem_iff_getElem.mpr ⟨i, by simp [ha, hb], ?_⟩)
  rw [List.getElem_zipWith]
  exact bne_iff_ne.mpr hne

/-- At 1 a string counts its bits. -/
theorem eval_one_bitPoly (bs : List Bool) : (bitPoly bs).eval 1 = (bs.count true : ZMod 2) := by
  induction bs with
  | nil => simp
  | cons b bs ih => cases b <;> simp [bitPoly_cons, ih, add_comm]

/-! ### Check values -/

/-- The check value of a message, for a generator of degree `n`. -/
noncomputable def checkRem (G : (ZMod 2)[X]) (n : ℕ) (bs : List Bool) : (ZMod 2)[X] :=
  (bitPoly bs * X ^ n) %ₘ G

/-- The register after one more word of `n` bits. -/
noncomputable def wordRem (G : (ZMod 2)[X]) (n : ℕ) (r : (ZMod 2)[X]) (w : List Bool) :
    (ZMod 2)[X] :=
  ((r + bitPoly w) * X ^ n) %ₘ G

section CheckRem

variable {G : (ZMod 2)[X]} {n : ℕ}

/-- One more word of a message. -/
theorem checkRem_append (hG : G.Monic) (bs : List Bool) {w : List Bool} (hw : w.length = n) :
    checkRem G n (bs ++ w) = wordRem G n (checkRem G n bs) w := by
  rw [checkRem, wordRem, bitPoly_append, hw]
  refine modByMonic_eq_of_dvd_sub hG ?_
  have hdvd : G ∣ bitPoly bs * X ^ n - checkRem G n bs := by
    rw [checkRem]
    exact (modByMonic_eq_zero_iff_dvd hG).mp (by
      rw [sub_modByMonic, modByMonic_eq_self_iff hG |>.mpr (degree_modByMonic_lt _ hG), sub_self])
  have hsub : (bitPoly bs * X ^ n + bitPoly w) * X ^ n - (checkRem G n bs + bitPoly w) * X ^ n =
      (bitPoly bs * X ^ n - checkRem G n bs) * X ^ n := by ring
  rw [hsub]
  exact hdvd.mul_right _

/-- **Word by word.** A register that starts with zeros ends with the check value. The register is
the remainder of what was taken in so far, at each word. -/
theorem foldl_wordRem (hG : G.Monic) {ws : List (List Bool)} (hws : ∀ w ∈ ws, w.length = n) :
    ws.foldl (wordRem G n) 0 = checkRem G n ws.flatten := by
  have hfold : ∀ (ws : List (List Bool)) (bs : List Bool), (∀ w ∈ ws, w.length = n) →
      ws.foldl (wordRem G n) (checkRem G n bs) = checkRem G n (bs ++ ws.flatten) := by
    intro ws
    induction ws with
    | nil => simp
    | cons w ws ih =>
      intro bs hws
      rw [List.foldl_cons, ← checkRem_append hG _ (hws w List.mem_cons_self),
        ih _ fun w' hw' => hws w' (List.mem_cons_of_mem _ hw'), List.flatten_cons,
        List.append_assoc]
  have hstart := hfold ws [] hws
  rwa [checkRem, bitPoly_nil, zero_mul, zero_modByMonic, List.nil_append] at hstart

/-- A message with its check value is a multiple of the generator, and a message with anything
else is none. -/
theorem dvd_append_iff (hG : G.Monic) (hn : G.natDegree = n) (bs : List Bool) {c : List Bool}
    (hc : c.length = n) : G ∣ bitPoly (bs ++ c) ↔ bitPoly c = checkRem G n bs := by
  have hdeg : (bitPoly c).degree < G.degree := by
    rw [degree_eq_natDegree hG.ne_zero, hn, ← hc]
    exact degree_bitPoly_lt c
  rw [bitPoly_append, hc, ← modByMonic_eq_zero_iff_dvd hG, add_modByMonic,
    modByMonic_eq_self_iff hG |>.mpr hdeg, CharTwo.add_eq_zero, checkRem, eq_comm]

end CheckRem

/-! ### Errors that are detected -/

section Errors

variable {G : (ZMod 2)[X]}

/-- An odd number of bits is no multiple of a generator with the factor `X + 1`, as its value at 1
is not 0. -/
theorem not_dvd_of_odd (hG : X + 1 ∣ G) {bs : List Bool} (hodd : Odd (bs.count true)) :
    ¬ G ∣ bitPoly bs := by
  intro h
  obtain ⟨q, hq⟩ := hG.trans h
  have heval := eval_one_bitPoly bs
  have hzero : (1 + 1 : ZMod 2) = 0 := CharTwo.add_self_eq_zero 1
  rw [hq, eval_mul, eval_add, eval_X, eval_one, hzero, zero_mul,
    ZMod.natCast_eq_one_iff_odd.mpr hodd] at heval
  exact zero_ne_one heval

/-- Bits within a window as wide as the degree of `G`. The window makes a polynomial of a lower
degree, and the power of `X` it is multiplied by has no factor in common with `G`. -/
theorem not_dvd_burst (hG : IsCoprime G X) {w : List Bool} (hw : w.length ≤ G.natDegree)
    (hne : true ∈ w) (i j : ℕ) :
    ¬ G ∣ bitPoly (List.replicate i false ++ w ++ List.replicate j false) := by
  rw [bitPoly_append_replicate, bitPoly_replicate_append]
  intro h
  have hdvd : G ∣ bitPoly w := (hG.pow_right (n := j)).dvd_of_dvd_mul_right h
  have hzero : bitPoly w ≠ 0 := fun h0 => bitPoly_eq_zero_iff.mp h0 hne
  have hle := natDegree_le_of_dvd hdvd hzero
  have hlt := (natDegree_lt_iff_degree_lt hzero).mpr (degree_bitPoly_lt w)
  omega

/-- A string that has a bit. -/
theorem exists_first_bit {bs : List Bool} (h : bs.count true ≠ 0) :
    ∃ i cs, bs = List.replicate i false ++ true :: cs := by
  induction bs with
  | nil => exact absurd rfl h
  | cons b bs ih =>
    cases b with
    | true => exact ⟨0, bs, rfl⟩
    | false =>
      obtain ⟨i, cs, rfl⟩ := ih (by simpa using h)
      exact ⟨i + 1, cs, rfl⟩

/-- A string without bits. -/
theorem eq_replicate_of_count_eq_zero {bs : List Bool} (h : bs.count true = 0) :
    bs = List.replicate bs.length false := by
  refine List.eq_replicate_of_mem fun b hb => ?_
  rw [List.count_eq_zero] at h
  cases b with
  | true => exact absurd hb h
  | false => rfl

/-- Two bits. -/
theorem not_dvd_two (hG : IsCoprime G X) {bs : List Bool}
    (hord : ∀ d, 0 < d → d < bs.length → ¬ G ∣ X ^ d + 1) (htwo : bs.count true = 2) :
    ¬ G ∣ bitPoly bs := by
  obtain ⟨i, cs, rfl⟩ := exists_first_bit (by omega : bs.count true ≠ 0)
  have hcs : cs.count true = 1 := by simpa [List.count_replicate] using htwo
  obtain ⟨k, ds, rfl⟩ := exists_first_bit (by omega : cs.count true ≠ 0)
  have hds : ds.count true = 0 := by simpa [List.count_replicate] using hcs
  have hpoly : bitPoly (List.replicate i false ++ true :: (List.replicate k false ++ true :: ds)) =
      (X ^ (k + 1) + 1) * X ^ ds.length := by
    rw [bitPoly_replicate_append, bitPoly_cons, bitPoly_replicate_append, bitPoly_cons,
      eq_replicate_of_count_eq_zero hds, bitPoly_replicate_false]
    simp only [if_true, List.length_append, List.length_replicate, List.length_cons, add_zero]
    ring
  rw [hpoly]
  intro h
  refine hord (k + 1) (Nat.succ_pos k) ?_ ((hG.pow_right (n := ds.length)).dvd_of_dvd_mul_right h)
  simp only [List.length_append, List.length_replicate, List.length_cons]
  omega

end Errors

end Crc

end Librasp
