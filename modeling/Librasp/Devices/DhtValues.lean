import Librasp.Devices.DhtFrame

/-!
# `dht.c`: the values of a frame

A DHT11 sends the integral and the decimal part of each value. A DHT22 sends its values in tenths,
in two bytes each; the temperature has a sign bit, and 15 bits of magnitude (`signMag`). The last
byte is the sum of the others (`DhtMeasurement.bytes`).

The code reads the two bytes of the temperature as a number in two's complement. Below zero that
is another one (`bmod_signMag_eq_iff`), so a DHT22 is decoded right just where it is not freezing
(`DhtMeasurement.decoded_iff`).

* `DhtMeasurement` has the measurements of the two sensors in their ranges, so that there is none
  which cannot be sent.
* `readTemp` is the number that is read for the temperature: where the sign bit of a DHT22 is set,
  it is `2 ^ 15` below the magnitude.

**Main results.** `decoded_iff`, for every measurement, and `dhtDecode_of_measurement`, which has
what is decoded in any case.
-/

namespace Librasp

/-! ### Two bytes -/

/-- Two bytes, put together in an `unsigned int`. -/
theorem toNat_shl_or (h l : UInt8) :
    (h.toUInt32 <<< 8 ||| l.toUInt32).toNat = h.toNat * 256 + l.toNat := by
  have hh := h.toNat_lt
  have hl := l.toNat_lt
  have hshift : (h.toUInt32 <<< 8).toNat = h.toNat <<< 8 := by
    rw [UInt32.toNat_shiftLeft, UInt8.toNat_toUInt32, show (8 : UInt32).toNat % 32 = 8 from rfl,
      Nat.shiftLeft_eq]
    omega
  rw [UInt32.toNat_or, hshift, UInt8.toNat_toUInt32, ← Nat.shiftLeft_add_eq_or_of_lt hl,
    Nat.shiftLeft_eq]

/-- A byte as a signed number. -/
theorem toInt_toInt8 (b : UInt8) : b.toInt8.toInt = Int.bmod b.toNat 256 :=
  BitVec.toInt_eq_toNat_bmod b.toInt8.toBitVec

theorem toInt_toInt8_of_lt {b : UInt8} (hb : b < 128) : b.toInt8.toInt = b.toNat := by
  have hlt : b.toNat < 128 := hb
  rw [toInt_toInt8]
  exact Int.bmod_eq_of_le (by omega) (by omega)

/-- A number of two bytes, read in two's complement from the signed high byte and the low byte. -/
theorem toInt_bytes {n : ℕ} (hn : n < 2 ^ 16) :
    (UInt8.ofNat (n / 256)).toInt8.toInt * 256 + (UInt8.ofNat (n % 256)).toNat =
      Int.bmod n (2 ^ 16) := by
  have hhi : (UInt8.ofNat (n / 256)).toNat = n / 256 := by
    rw [UInt8.toNat_ofNat']
    omega
  have hlo : (UInt8.ofNat (n % 256)).toNat = n % 256 := by
    rw [UInt8.toNat_ofNat']
    omega
  rw [toInt_toInt8, hhi, hlo, Int.bmod_def, Int.bmod_def]
  split_ifs <;> omega

/-! ### Sign and magnitude -/

section SignMag

variable {w : ℕ} {x : ℤ}

/-- A sign bit, and `w` bits of magnitude. -/
def signMag (w : ℕ) (x : ℤ) : ℕ := if x < 0 then 2 ^ w + x.natAbs else x.natAbs

theorem signMag_lt (hx : x.natAbs < 2 ^ w) : signMag w x < 2 ^ (w + 1) := by
  rw [signMag, Nat.pow_succ]
  split_ifs <;> omega

/-- What is read in two's complement. -/
theorem bmod_signMag (hx : x.natAbs < 2 ^ w) :
    Int.bmod (signMag w x) (2 ^ (w + 1)) = if x < 0 then -2 ^ w - x else x := by
  have hpow : (2 : ℕ) ^ (w + 1) = 2 * 2 ^ w := by rw [Nat.pow_succ, Nat.mul_comm]
  have hcast : ((2 ^ w : ℕ) : ℤ) = 2 ^ w := by push_cast; rfl
  rw [hpow, signMag, ← hcast]
  split_ifs with hneg
  · have hval : ((2 ^ w + x.natAbs : ℕ) : ℤ) = (-(2 ^ w : ℕ) - x) + (2 * 2 ^ w : ℕ) := by
      omega
    rw [hval, Int.add_bmod_right]
    exact Int.bmod_eq_of_le (by omega) (by omega)
  · have hval : (x.natAbs : ℤ) = x := by omega
    rw [hval]
    exact Int.bmod_eq_of_le (by omega) (by omega)

/-- Both readings agree on the numbers that are not negative, and on one more: the magnitude `2 ^
(w - 1)` is read as its own negative. -/
theorem bmod_signMag_eq_iff (hx : x.natAbs < 2 ^ w) :
    Int.bmod (signMag w x) (2 ^ (w + 1)) = x ↔ 0 ≤ x ∨ 2 * x = -2 ^ w := by
  rw [bmod_signMag hx]
  split_ifs with hneg <;> omega

end SignMag

/-! ### Measurements -/

/-- What a sensor measures, in its range. A DHT11 does not measure below zero. -/
inductive DhtMeasurement
  | dht11 (rhInt rhDec tInt tDec : UInt8) (htInt : tInt < 128) (htDec : tDec < 128)
  | dht22 (rh : ℕ) (temp : ℤ) (hrh : rh ≤ 1000) (hlo : -400 ≤ temp) (hhi : temp ≤ 800)

/-- Four bytes and their sum. -/
def dhtFrame (b0 b1 b2 b3 : UInt8) : ℕ → UInt8
  | 0 => b0
  | 1 => b1
  | 2 => b2
  | 3 => b3
  | 4 => b0 + b1 + b2 + b3
  | _ => 0

namespace DhtMeasurement

def model : DhtMeasurement → DhtModel
  | dht11 .. => .dht11
  | dht22 .. => .dht22

/-- The humidity, in tenths. -/
def rh : DhtMeasurement → ℕ
  | dht11 rhInt rhDec _ _ _ _ => 10 * rhInt.toNat + rhDec.toNat
  | dht22 rh _ _ _ _ => rh

/-- The temperature, in tenths. -/
def temp : DhtMeasurement → ℤ
  | dht11 _ _ tInt tDec _ _ => 10 * tInt.toNat + tDec.toNat
  | dht22 _ temp _ _ _ => temp

/-- The frame, as the sensor sends it. -/
def bytes : DhtMeasurement → ℕ → UInt8
  | dht11 rhInt rhDec tInt tDec _ _ => dhtFrame rhInt rhDec tInt tDec
  | dht22 rh temp _ _ _ =>
    dhtFrame (UInt8.ofNat (rh / 256)) (UInt8.ofNat (rh % 256))
      (UInt8.ofNat (signMag 15 temp / 256)) (UInt8.ofNat (signMag 15 temp % 256))

/-- The checksum is accepted, and the values are those that were measured. -/
def Decoded (m : DhtMeasurement) : Prop :=
  dhtCrc m.bytes = m.bytes 4 ∧ (dhtValues m.bytes m.model).1.toNat = m.rh ∧
    (dhtValues m.bytes m.model).2.toInt = m.temp

/-- The temperature that is read. -/
def readTemp (m : DhtMeasurement) : ℤ :=
  if m.model = .dht22 ∧ m.temp < 0 then -2 ^ 15 - m.temp else m.temp

theorem readTemp_dht11 {rhInt rhDec tInt tDec : UInt8} (htInt : tInt < 128)
    (htDec : tDec < 128) : (dht11 rhInt rhDec tInt tDec htInt htDec).readTemp =
      10 * tInt.toNat + tDec.toNat := by
  refine if_neg ?_
  rintro ⟨hmodel, -⟩
  cases hmodel

/-- A DHT22 sends a sign bit, and it is read in two's complement. -/
theorem readTemp_dht22 {rh : ℕ} {temp : ℤ} (hrh : rh ≤ 1000) (hlo : -400 ≤ temp)
    (hhi : temp ≤ 800) :
    (dht22 rh temp hrh hlo hhi).readTemp = Int.bmod (signMag 15 temp) (2 ^ 16) := by
  rw [bmod_signMag (by omega)]
  simp [readTemp, model, DhtMeasurement.temp]

variable (m : DhtMeasurement)

theorem dhtCrc_bytes : dhtCrc m.bytes = m.bytes 4 := by
  cases m <;> rfl

theorem toNat_rh : (dhtValues m.bytes m.model).1.toNat = m.rh := by
  cases m with
  | dht11 rhInt rhDec tInt tDec htInt htDec =>
    have hint := rhInt.toNat_lt
    have hdec := rhDec.toNat_lt
    change (10 * rhInt.toUInt32 + rhDec.toUInt32).toNat = 10 * rhInt.toNat + rhDec.toNat
    rw [UInt32.toNat_add, UInt32.toNat_mul, UInt8.toNat_toUInt32, UInt8.toNat_toUInt32]
    change (10 * rhInt.toNat % 2 ^ 32 + rhDec.toNat) % 2 ^ 32 = _
    omega
  | dht22 rh temp hrh hlo hhi =>
    change ((UInt8.ofNat (rh / 256)).toUInt32 <<< 8 |||
      (UInt8.ofNat (rh % 256)).toUInt32).toNat = rh
    rw [toNat_shl_or, UInt8.toNat_ofNat', UInt8.toNat_ofNat']
    omega

/-- The number that is read for the temperature. -/
theorem toInt_temp : (dhtValues m.bytes m.model).2.toInt = m.readTemp := by
  cases m with
  | dht11 rhInt rhDec tInt tDec htInt htDec =>
    have hint : tInt.toNat < 128 := htInt
    have hdec : tDec.toNat < 128 := htDec
    have hten : Int32.toInt 10 = 10 := rfl
    change (10 * tInt.toInt8.toInt32 + tDec.toInt8.toInt32).toInt = _
    rw [Int32.toInt_add, Int32.toInt_mul, Int8.toInt_toInt32, Int8.toInt_toInt32,
      toInt_toInt8_of_lt htInt, toInt_toInt8_of_lt htDec, hten, readTemp_dht11, Int.bmod_add_bmod]
    exact Int.bmod_eq_of_le (by omega) (by omega)
  | dht22 rh temp hrh hlo hhi =>
    have habs : temp.natAbs < 2 ^ 15 := by omega
    change ((UInt8.ofNat (signMag 15 temp / 256)).toInt8.toInt32 <<< 8 |||
      (UInt8.ofNat (signMag 15 temp % 256)).toUInt32.toInt32).toInt = _
    rw [toInt_shl_or, toInt_bytes (signMag_lt habs), readTemp_dht22]

/-- The temperature is read right just where it is not one of a DHT22 below zero. -/
theorem readTemp_eq_iff : m.readTemp = m.temp ↔ m.model = .dht11 ∨ 0 ≤ m.temp := by
  cases m with
  | dht11 rhInt rhDec tInt tDec htInt htDec =>
    exact iff_of_true (readTemp_dht11 htInt htDec) (Or.inl rfl)
  | dht22 rh temp hrh hlo hhi =>
    rw [readTemp_dht22]
    refine (bmod_signMag_eq_iff (by omega)).trans ⟨fun h => Or.inr (h.resolve_right ?_), ?_⟩
    · omega
    · rintro (hmodel | hpos)
      · cases hmodel
      · exact Or.inl hpos

/-- **Values.** A measurement is decoded just where it is not of a DHT22 below zero. The checksum
is accepted in any case. -/
theorem decoded_iff : m.Decoded ↔ m.model = .dht11 ∨ 0 ≤ m.temp := by
  rw [Decoded, toInt_temp, readTemp_eq_iff]
  exact ⟨fun h => h.2.2, fun h => ⟨m.dhtCrc_bytes, m.toNat_rh, h⟩⟩

end DhtMeasurement

/-- At -10.1 degrees a DHT22 is read as -3266.7 degrees. -/
theorem not_decoded_belowZero : ∃ m : DhtMeasurement, m.rh = 652 ∧ m.temp = -101 ∧
    dhtValues m.bytes m.model = (652, -32667) ∧ ¬ m.Decoded := by
  refine ⟨.dht22 652 (-101) (by decide) (by decide) (by decide), rfl, rfl, by decide, ?_⟩
  rintro ⟨-, -, htemp⟩
  revert htemp
  decide

/-- **A measurement is sent.** The probe reports it, but for a temperature of a DHT22 that is below
zero. -/
theorem dhtDecode_of_measurement (m : DhtMeasurement) {start : UInt32} {stack : ℕ → UInt32}
    {xs : List DhtSample} (h : DhtSends start m.bytes xs) :
    ∃ t rh temp, dhtRun (dhtStart start stack) xs = .inr t ∧
      dhtDecode m.model t.i t.siglens = (.success, some (rh, temp)) ∧ rh.toNat = m.rh ∧
      temp.toInt = m.readTemp := by
  have hsum := (dhtCrc_eq_iff _).mp m.dhtCrc_bytes
  obtain ⟨t, hrun, hdecode⟩ : ∃ t, dhtRun (dhtStart start stack) xs = .inr t ∧ _ :=
    dhtDecode_of_sends h hsum m.model
  exact ⟨t, _, _, hrun, hdecode, m.toNat_rh, m.toInt_temp⟩

end Librasp
