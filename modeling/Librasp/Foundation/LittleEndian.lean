import Mathlib.Tactic

/-!
# Little-endian byte strings

`leVal` reads a byte string as a number, least significant byte first; `leBytes k n` writes the
`k` lowest bytes of `n`. On strings of a fixed length the two are inverse to each other, and
truncation to `k` bytes is reduction modulo `256 ^ k`. Nothing here knows what the numbers are
for.

The laws come in the two directions a codec needs: `leVal_leBytes` for a number that is written
and read back, with `leVal_leBytes_of_lt` where it fits, and `leBytes_leVal` for bytes that are
read and written back. `leVal_inj` makes strings of one length equal when their numbers are.
-/

namespace Librasp

/-- The number a little-endian byte string denotes. -/
def leVal : List UInt8 → ℕ
  | [] => 0
  | b :: bs => b.toNat + 256 * leVal bs

/-- The `k` lowest bytes of a number, least significant byte first. -/
def leBytes : ℕ → ℕ → List UInt8
  | 0, _ => []
  | k + 1, n => UInt8.ofNat n :: leBytes k (n / 256)

@[simp]
theorem leVal_nil : leVal [] = 0 := rfl

@[simp]
theorem length_leBytes (k n : ℕ) : (leBytes k n).length = k := by
  induction k generalizing n with
  | zero => rfl
  | succ k ih => simp [leBytes, ih]

/-- Writing then reading truncates to the written width. The induction is on the width, a byte
being a digit to base 256. -/
theorem leVal_leBytes (k n : ℕ) : leVal (leBytes k n) = n % 256 ^ k := by
  induction k generalizing n with
  | zero => simp [leBytes, Nat.mod_one]
  | succ k ih =>
    rw [leBytes, leVal, ih, pow_succ, mul_comm (256 ^ k), Nat.mod_mul]
    simp

theorem leVal_leBytes_of_lt {k n : ℕ} (h : n < 256 ^ k) : leVal (leBytes k n) = n := by
  rw [leVal_leBytes, Nat.mod_eq_of_lt h]

/-- Reading then writing at the string's own width gives the string back. -/
theorem leBytes_leVal (bs : List UInt8) : leBytes bs.length (leVal bs) = bs := by
  induction bs with
  | nil => rfl
  | cons b bs ih =>
    have hb : b.toNat < 256 := b.toNat_lt
    have hdiv : (b.toNat + 256 * leVal bs) / 256 = leVal bs := by omega
    have hmod : UInt8.ofNat (b.toNat + 256 * leVal bs) = b := by
      apply UInt8.toNat_inj.mp
      rw [UInt8.toNat_ofNat']
      omega
    rw [List.length_cons, leVal, leBytes, hdiv, hmod, ih]

/-- Two strings of one length denote the same number only when they are equal. -/
theorem leVal_inj {bs cs : List UInt8} (hlen : bs.length = cs.length)
    (h : leVal bs = leVal cs) : bs = cs := by
  rw [← leBytes_leVal bs, ← leBytes_leVal cs, hlen, h]

/-- Reducing a number modulo the written width does not change what is written. -/
theorem leBytes_mod (k n : ℕ) : leBytes k (n % 256 ^ k) = leBytes k n := by
  refine leVal_inj (by simp) ?_
  rw [leVal_leBytes, leVal_leBytes, Nat.mod_mod]

end Librasp
