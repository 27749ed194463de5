import Librasp.Devices.DsTherm

/-!
# `ds_therm.c`: the temperature in a scratchpad

`dsth_get_temp_scratchpad` computes with `int`s, in units of a thousandth of a degree. Every sum
and product that it forms is checked here for an overflow (`cInt`), and there is none
(`dsthGetTempScratchpad_eq`). The divisions round toward zero, so the result is less than 1 away
from the exact temperature (`exactTemp`), on either side of it.

* A reading of 16 bits counts sixteenths of a degree, and of DS18S20 halves, whose rest is told by
  the count of the conversion. With fewer bits the lowest ones are undefined and cleared
  (`cleared`), which rounds down.
* `exactTemp` is a rational number, and `intTemp` the `int` that is computed.

**Main result.** `dsthGetTempScratchpad_spec`, for all scratchpads and families: no overflow, an
error below 1, and a larger reading is no lower temperature.
-/

namespace Librasp

/-! ### The model -/

/-- `dsth_scratchpad_t`. -/
structure DsthScratchpad where
  tempLsb : UInt8
  tempHsb : UInt8
  th : UInt8
  tl : UInt8
  cfgReg : UInt8
  reserved : UInt8
  cntRem : UInt8
  cntPerC : UInt8
  crc : UInt8
  deriving DecidableEq, Repr

/-- `dsth_res_t`. -/
inductive DsthRes
  | bit9
  | bit10
  | bit11
  | bit12
  deriving DecidableEq, Repr

/-- The value of a resolution. -/
def DsthRes.toUInt8 : DsthRes → UInt8
  | .bit9 => 0
  | .bit10 => 1
  | .bit11 => 2
  | .bit12 => 3

/-- The resolution of a value. -/
def DsthRes.ofUInt8 (v : UInt8) : DsthRes :=
  if v = 0 then .bit9 else if v = 1 then .bit10 else if v = 2 then .bit11 else .bit12

/-- The resolution bits of a configuration register. -/
def cfgRes (cfgReg : UInt8) : UInt8 := (cfgReg >>> 5) &&& 3

/-- `dsth_get_temp_scratchpad`; `none` on an overflow. -/
def dsthGetTempScratchpad (therm : UInt64) (scpd : DsthScratchpad) : Option ℤ :=
  let temp := (scpd.tempHsb.toInt8.toInt32 <<< 8 ||| scpd.tempLsb.toUInt32.toInt32).toInt
  if dsthGetFamily therm ≠ ds18s20 then do
    let res := (cfgRes scpd.cfgReg).toNat
    -- zeroed undefined bits
    let temp ← cInt ((temp >>> (3 - res)) * 2 ^ (3 - res))
    let temp ← cInt (temp * 1000)
    cInt (temp.tdiv 16)
  else if scpd.cntPerC ≠ 0 then do
    let cntPerC : ℤ := scpd.cntPerC.toNat
    let temp ← cInt ((1000 : ℤ) * (temp >>> (1 : ℕ)))
    let temp ← cInt (temp - 250)
    let cnt ← cInt (1000 * (cntPerC - scpd.cntRem.toNat))
    cInt (temp + cnt.tdiv cntPerC)
  else do
    let temp ← cInt (temp * 1000)
    cInt (temp.tdiv 2)

/-! ### The exact temperature -/

namespace DsthScratchpad

/-- The signed 16-bit reading. -/
def reading (scpd : DsthScratchpad) : ℤ := scpd.tempHsb.toInt8.toInt * 256 + scpd.tempLsb.toNat

/-- How many of the low bits are undefined. -/
def undefBits (scpd : DsthScratchpad) : ℕ := 3 - (cfgRes scpd.cfgReg).toNat

/-- The reading with the undefined bits cleared. -/
def cleared (scpd : DsthScratchpad) : ℤ := scpd.reading - scpd.reading % 2 ^ scpd.undefBits

/-- The temperature that a scratchpad tells, in degrees. -/
def exactTemp (therm : UInt64) (scpd : DsthScratchpad) : ℚ :=
  if dsthGetFamily therm ≠ ds18s20 then scpd.cleared / 16
  else if scpd.cntPerC ≠ 0 then
    (scpd.reading / 2 : ℤ) - 1 / 4 +
      ((scpd.cntPerC.toNat : ℚ) - scpd.cntRem.toNat) / scpd.cntPerC.toNat
  else scpd.reading / 2

/-- Another reading in the same scratchpad. -/
def withReading (scpd : DsthScratchpad) (lsb hsb : UInt8) : DsthScratchpad :=
  { scpd with tempLsb := lsb, tempHsb := hsb }

variable (scpd : DsthScratchpad)

theorem reading_bounds : -32768 ≤ scpd.reading ∧ scpd.reading < 32768 := by
  have hlo := scpd.tempHsb.toInt8.le_toInt
  have hhi := scpd.tempHsb.toInt8.toInt_lt
  have hlsb := scpd.tempLsb.toNat_lt
  rw [reading]
  omega

/-- The shifts there and back. -/
theorem cleared_eq : scpd.cleared = scpd.reading >>> scpd.undefBits * 2 ^ scpd.undefBits := by
  have hdiv := Int.emod_add_mul_ediv scpd.reading (2 ^ scpd.undefBits)
  rw [cleared, Int.shiftRight_eq_div_pow, mul_comm]
  push_cast
  omega

theorem cleared_bounds : -32776 ≤ scpd.cleared ∧ scpd.cleared < 32768 := by
  have hpow : (2 : ℤ) ^ scpd.undefBits ≤ 2 ^ 3 :=
    pow_le_pow_right₀ (by decide) (Nat.sub_le 3 _)
  have hpos : (0 : ℤ) < 2 ^ scpd.undefBits := by positivity
  have hnonneg := Int.emod_nonneg scpd.reading hpos.ne'
  have hlt := Int.emod_lt_of_pos scpd.reading hpos
  have hbounds := scpd.reading_bounds
  rw [cleared]
  omega

/-- Clearing bits keeps the order. -/
theorem cleared_mono {scpd : DsthScratchpad} {lsb hsb : UInt8}
    (h : scpd.reading ≤ (scpd.withReading lsb hsb).reading) :
    scpd.cleared ≤ (scpd.withReading lsb hsb).cleared := by
  have hbits : (scpd.withReading lsb hsb).undefBits = scpd.undefBits := rfl
  rw [cleared_eq, cleared_eq, hbits, Int.shiftRight_eq_div_pow, Int.shiftRight_eq_div_pow]
  exact mul_le_mul_of_nonneg_right (Int.ediv_le_ediv (by positivity) h) (by positivity)

/-- The temperature as it is computed. -/
def intTemp (therm : UInt64) : ℤ :=
  if dsthGetFamily therm ≠ ds18s20 then (scpd.cleared * 1000).tdiv 16
  else if scpd.cntPerC ≠ 0 then
    1000 * (scpd.reading / 2) - 250 +
      (1000 * ((scpd.cntPerC.toNat : ℤ) - scpd.cntRem.toNat)).tdiv scpd.cntPerC.toNat
  else (scpd.reading * 1000).tdiv 2

end DsthScratchpad

/-! ### The computation -/

/-- A quotient keeps a bound of the dividend. -/
theorem tdiv_bounds {x : ℤ} (d : ℤ) {B : ℤ} (hlo : -B ≤ x) (hhi : x ≤ B) :
    -B ≤ x.tdiv d ∧ x.tdiv d ≤ B := by
  have hnat := Int.natAbs_tdiv_le_natAbs x d
  omega

/-- A division that rounds toward zero is less than 1 away from the quotient. -/
theorem abs_tdiv_sub_lt (x : ℤ) {d : ℤ} (hd : 0 < d) : |(x.tdiv d : ℚ) - x / d| < 1 := by
  have hdq : (0 : ℚ) < d := by exact_mod_cast hd
  have hsplit : (d : ℚ) * x.tdiv d + x.tmod d = x := by exact_mod_cast Int.mul_tdiv_add_tmod x d
  have hlo : -(d : ℚ) < x.tmod d := by exact_mod_cast Int.lt_tmod_of_pos x hd
  have hhi : (x.tmod d : ℚ) < d := by exact_mod_cast Int.tmod_lt_of_pos x hd
  have hdiff : (x.tdiv d : ℚ) - x / d = -(x.tmod d / d) := by
    rw [← hsplit]
    field_simp
    ring
  rw [hdiff, abs_neg, abs_div, abs_of_pos hdq, div_lt_one hdq, abs_lt]
  exact ⟨hlo, hhi⟩

section Compute

variable (therm : UInt64) (scpd : DsthScratchpad)

/-- Nothing overflows. -/
theorem dsthGetTempScratchpad_eq :
    dsthGetTempScratchpad therm scpd = some (scpd.intTemp therm) := by
  obtain ⟨hlo, hhi⟩ := scpd.reading_bounds
  have hreading : (scpd.tempHsb.toInt8.toInt32 <<< 8 |||
      scpd.tempLsb.toUInt32.toInt32).toInt = scpd.reading := toInt_shl_or _ _
  rw [dsthGetTempScratchpad, DsthScratchpad.intTemp, hreading]
  dsimp only
  split_ifs with hfam hcnt
  · obtain ⟨hclo, hchi⟩ := scpd.cleared_bounds
    have hq := tdiv_bounds (x := scpd.cleared * 1000) 16 (B := 32776000) (by omega) (by omega)
    have hcleared := scpd.cleared_eq
    rw [DsthScratchpad.undefBits] at hcleared
    rw [← hcleared, cInt_eq (by omega) (by omega), Option.bind_eq_bind, Option.bind_some,
      cInt_eq (by omega) (by omega), Option.bind_some, cInt_eq (by omega) (by omega)]
  · have hper := scpd.cntPerC.toNat_lt
    have hrem := scpd.cntRem.toNat_lt
    have hq := tdiv_bounds (x := 1000 * ((scpd.cntPerC.toNat : ℤ) - scpd.cntRem.toNat))
      scpd.cntPerC.toNat (B := 255000) (by omega) (by omega)
    have hhalf : scpd.reading >>> (1 : ℕ) = scpd.reading / 2 := Int.shiftRight_eq_div_pow _ _
    rw [hhalf, cInt_eq (by omega) (by omega), Option.bind_eq_bind, Option.bind_some,
      cInt_eq (by omega) (by omega), Option.bind_some, cInt_eq (by omega) (by omega),
      Option.bind_some, cInt_eq (by omega) (by omega)]
  · have hq := tdiv_bounds (x := scpd.reading * 1000) 2 (B := 32768000) (by omega) (by omega)
    rw [cInt_eq (by omega) (by omega), Option.bind_eq_bind, Option.bind_some,
      cInt_eq (by omega) (by omega)]

/-- What is computed is less than 1 away from the exact temperature. -/
theorem abs_intTemp_sub_lt :
    |(scpd.intTemp therm : ℚ) - 1000 * scpd.exactTemp therm| < 1 := by
  rw [DsthScratchpad.intTemp, DsthScratchpad.exactTemp]
  split_ifs with hfam hcnt
  · have h := abs_tdiv_sub_lt (scpd.cleared * 1000) (d := 16) (by decide)
    push_cast at h
    rwa [mul_comm (1000 : ℚ), div_mul_eq_mul_div]
  · have hpos : 0 < scpd.cntPerC.toNat := Nat.pos_of_ne_zero fun h => hcnt (UInt8.toNat_inj.mp h)
    have h := abs_tdiv_sub_lt (1000 * ((scpd.cntPerC.toNat : ℤ) - scpd.cntRem.toNat))
      (d := scpd.cntPerC.toNat) (by omega)
    refine lt_of_eq_of_lt (congrArg abs ?_) h
    push_cast
    ring
  · have h := abs_tdiv_sub_lt (scpd.reading * 1000) (d := 2) (by decide)
    push_cast at h
    rwa [mul_comm (1000 : ℚ), div_mul_eq_mul_div]

/-- A larger reading in the same scratchpad is no lower temperature. Clearing bits keeps the
order, and so does a division that rounds toward zero. -/
theorem intTemp_mono {lsb hsb : UInt8}
    (h : scpd.reading ≤ (scpd.withReading lsb hsb).reading) :
    scpd.intTemp therm ≤ (scpd.withReading lsb hsb).intTemp therm := by
  have hper : (scpd.withReading lsb hsb).cntPerC = scpd.cntPerC := rfl
  have hrem : (scpd.withReading lsb hsb).cntRem = scpd.cntRem := rfl
  have hcleared := DsthScratchpad.cleared_mono h
  rw [DsthScratchpad.intTemp, DsthScratchpad.intTemp, hper, hrem]
  split_ifs
  · exact Int.tdiv_le_tdiv (by decide) (by omega)
  · omega
  · exact Int.tdiv_le_tdiv (by decide) (by omega)

/-- **The temperature.** Without an overflow, the result is less than 1 away from a thousand times
the exact temperature; and it grows with the reading. -/
theorem dsthGetTempScratchpad_spec :
    ∃ t, dsthGetTempScratchpad therm scpd = some t ∧
      |(t : ℚ) - 1000 * scpd.exactTemp therm| < 1 ∧
      ∀ lsb hsb, scpd.reading ≤ (scpd.withReading lsb hsb).reading →
        ∃ t', dsthGetTempScratchpad therm (scpd.withReading lsb hsb) = some t' ∧ t ≤ t' :=
  ⟨_, dsthGetTempScratchpad_eq therm scpd, abs_intTemp_sub_lt therm scpd, fun _ _ h =>
    ⟨_, dsthGetTempScratchpad_eq therm _, intTemp_mono therm scpd h⟩⟩

-- the lowest temperature that a DS18B20 measures
example : dsthGetTempScratchpad 0x28 ⟨0x90, 0xfc, 0, 0, 0x7f, 0, 0, 0, 0⟩ = some (-55000) := by
  decide

end Compute

end Librasp
