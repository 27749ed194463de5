import Mathlib.Tactic

/-!
# Library-wide definitions

The error codes every exported function returns, the build configuration, and the C integer
conversions the sources rely on without saying so.

* `LrErrc` is `lr_errc_t`. The functions of the library return it by value; what else they return
  goes through pointers, and is an `Option` or a field of the state here.
* `WordSize` tells the two data models apart. `size_t` and `long` have 32 bits on one and 64 on
  the other, and several results of the library depend on which.
* `sizeT`, `u8` and `cInt` are the conversions C makes on an assignment or in an expression. The
  signed overflow of `int` is undefined, so `cInt` is partial, and whoever uses it shows that the
  number fits.
-/

namespace Librasp

/-- `lr_errc_t`: the library error codes. -/
inductive LrErrc
  | success
  | invArg
  | nomem
  | notSupp
  | noSpace
  | empty
  | timeout
  | noResp
  | commErr
  | protoErr
  | badMsg
  | msgSize
  | mmapErr
  | platErr
  | devErr
  | noDev
  | dtaCrpt
  | clkErr
  | noinit
  | openErr
  | readErr
  | writeErr
  | ioctlErr
  | pollErr
  | schedErr
  deriving DecidableEq, Repr

/-- The data models the library is built for: 32- and 64-bit Raspberry Pi systems. -/
inductive WordSize
  | ilp32
  | lp64
  deriving DecidableEq, Repr

namespace WordSize

/-- Width of `size_t`, `ssize_t` and `long` in bits. -/
def bits : WordSize → ℕ
  | ilp32 => 32
  | lp64 => 64

/-- Conversion of an integer to `size_t`. -/
def sizeT (w : WordSize) (z : ℤ) : ℕ := (z % 2 ^ w.bits).toNat

theorem two_pow_bits_ge (w : WordSize) : 2 ^ 32 ≤ 2 ^ w.bits := by cases w <;> decide

/-- Conversion to `size_t` keeps every value below `2 ^ 32`. -/
theorem sizeT_natCast (w : WordSize) {n : ℕ} (h : n < 2 ^ 32) : w.sizeT n = n := by
  have hlt : (n : ℤ) < 2 ^ w.bits := by
    exact_mod_cast lt_of_lt_of_le h w.two_pow_bits_ge
  rw [sizeT, Int.emod_eq_of_lt (by omega) hlt, Int.toNat_natCast]

end WordSize

/-- Conversion of an integer to `uint8_t`. -/
def u8 (z : ℤ) : ℤ := z % 256

/-- Conversion of an integer to `int`; `none` on an overflow. -/
def cInt (z : ℤ) : Option ℤ := if -2 ^ 31 ≤ z ∧ z < 2 ^ 31 then some z else none

theorem cInt_eq {z : ℤ} (hlo : -2 ^ 31 ≤ z) (hhi : z < 2 ^ 31) : cInt z = some z :=
  if_pos ⟨hlo, hhi⟩

/-- A signed high byte and a low byte, put together in an `int`. -/
theorem toInt_shl_or (h l : UInt8) :
    (h.toInt8.toInt32 <<< 8 ||| l.toUInt32.toInt32).toInt = h.toInt8.toInt * 256 + l.toNat := by
  have hlo := h.toInt8.le_toInt
  have hhi := h.toInt8.toInt_lt
  have hl := l.toNat_lt
  obtain ⟨a, ha⟩ : ∃ a, a = h.toInt8.toInt32.toBitVec := ⟨_, rfl⟩
  obtain ⟨b, hb⟩ : ∃ b, b = l.toUInt32.toInt32.toBitVec := ⟨_, rfl⟩
  have haInt : a.toInt = h.toInt8.toInt := by
    rw [ha]
    exact h.toInt8.toInt_toInt32
  have hbNat : b.toNat = l.toNat := by
    rw [hb]
    exact UInt8.toNat_toUInt32 l
  have hbInt : b.toInt = l.toNat := by
    rw [BitVec.toInt_eq_toNat_of_lt (by omega), hbNat]
  -- the low byte falls into the bits that the shift has cleared
  have hand : a <<< 8 &&& b = 0#32 := by
    ext i hi
    simp only [BitVec.getElem_and, BitVec.getElem_shiftLeft, BitVec.getElem_zero]
    by_cases h8 : i < 8
    · simp [h8]
    · have hbit : b[i] = false := by
        rw [BitVec.getElem_eq_testBit_toNat, hbNat]
        exact Nat.testBit_lt_two_pow (hl.trans_le (Nat.pow_le_pow_right (by decide) (by omega)))
      rw [hbit, Bool.and_false]
  have hshift : (a <<< 8).toInt = h.toInt8.toInt * 256 := by
    rw [BitVec.shiftLeft_eq_mul_twoPow, BitVec.toInt_mul, haInt]
    have hpow : (BitVec.twoPow 32 8).toInt = 256 := by decide
    rw [hpow]
    exact Int.bmod_eq_of_le (by omega) (by omega)
  have hor : (h.toInt8.toInt32 <<< 8 ||| l.toUInt32.toInt32).toBitVec = a <<< 8 ||| b := by
    rw [ha, hb]
    rfl
  rw [← Int32.toInt_toBitVec, hor, ← BitVec.add_eq_or_of_and_eq_zero _ _ hand, BitVec.toInt_add,
    hshift, hbInt]
  exact Int.bmod_eq_of_le (by omega) (by omega)

/-- The build configuration of `config.h`, and the data model. -/
structure Config where
  /-- `CONFIG_WRITE_PULLUP`. -/
  writePullup : Bool
  word : WordSize
  deriving DecidableEq, Repr

end Librasp
