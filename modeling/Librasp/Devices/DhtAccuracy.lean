import Librasp.Devices.DhtProbe
import Librasp.Devices.DhtTiming
import Librasp.Devices.HcsrLoop

/-!
# `dht.c`: reading a sensor

A sensor sends the bytes of a measurement as changes of its line (`DhtWave`), and the response
loop looks at the line in rounds (`DhtPaced`). What it samples then is the frame that was sent,
with or without the pulse before it, and `dht_probe` decodes it.

The results of the other modules on this sensor meet here: the timing of the samples is that of
`DhtTiming`, the frame is decoded by `DhtFrame`, the program runs as in `DhtProbe`, and the values
are those of `DhtValues`.

**Main result.** `dhtProbe_measures`: a probe whose calls are granted reports the measurement of a
sensor that sends it in time, and leaves the line released. What becomes of the process is up to
the system (`SchedLeaves`).

`dhtEdge` and `dhtSensorEnv` are a sensor and a clock as they are asked for, with the pulses of
the data sheet; `dhtProbe_measures_summer` is a probe of it.
-/

namespace Librasp

/-! ### A measurement -/

section Program

open Prog

variable {e : ProbeEnv} {g : ℕ} {start : UInt32} {x : ℕ → DhtSample}

/-- A measurement that a sensor sends in time is reported: that of a DHT22 below zero as the number
its bits are in two's complement, any other as it is. The probe leaves the line released, and the
process out of the real-time section exactly if the system takes its nice value for the priority it
had, or has not let it in. -/
theorem dhtProbe_measures {q a t₀ : ℕ} {edge look ask : ℕ → ℕ} {gpio : GpioSt}
    (m : DhtMeasurement) (htells : DhtTells e g start x) (hwave : DhtWave q a edge m.bytes)
    (hpaced : DhtPaced q a edge t₀ look ask start x) (hinv : PinInv gpio) (hg : gpio.Ready g)
    (proc : Process) (stack : SchedRt) :
    ∃ fuel₀, ∀ fuel ≥ fuel₀, ∃ s' rh temp,
      dhtProbe e g m.model fuel (ProbeSt.start gpio proc stack ⟨false, none⟩) =
        (.val .success, s') ∧ s'.vars = ⟨false, some (rh, temp)⟩ ∧ rh.toNat = m.rh ∧
      temp.toInt = (if m.model = .dht22 ∧ m.temp < 0 then -2 ^ 15 - m.temp else m.temp) ∧
      s'.gpio.drives g = none ∧
      (proc.HasLeft s'.proc ↔ SchedLeaves e.raise (e.restore 0) proc) := by
  choose n hn using fun j => Sampling.exists_first (hpaced.paced.reaches Nat.one_pos) (edge j)
  have hsends := hpaced.sends_of_first hwave hn
  obtain ⟨t, rh, temp, hrun, hdecode, hrh, htemp⟩ := dhtDecode_of_measurement m hsends
  refine ⟨n 83 + 1, fun fuel hfuel => ?_⟩
  obtain ⟨s', k, hprobe, hs'⟩ := ensures_dhtProbe_tells htells m.model
    (dhtAt_start hinv hg proc stack ⟨false, none⟩) hrun hfuel
  rw [hdecode] at hprobe hs'
  refine ⟨s', rh, temp, hprobe, hs'.vars, hrh, htemp, hs'.drives, ?_⟩
  rw [show s'.proc = (SchedSt.done e ⟨proc, stack, 0⟩).proc from congrArg SchedSt.proc hs'.sched]
  exact SchedSt.hasLeft_iff e ⟨proc, stack, 0⟩

end Program

/-! ### A sensor -/

section Sensor

/-- The changes of a line on which some bytes are sent: low and high for 80 microseconds, and then
low for 50 microseconds and high for 26 or 70 for each bit. -/
def dhtEdge (data : ℕ → UInt8) : ℕ → ℕ
  | 0 => 40
  | 1 => 120
  | 2 => 200
  | n + 3 => dhtEdge data (n + 2) +
    if n % 2 = 0 then 50
    else if (data (n / 2 / 8)).toNat.testBit (7 - n / 2 % 8) then 70 else 26

/-- The level of a line, which is high at first, by the last of some changes. -/
def levelAfter (edge : ℕ → ℕ) (t : ℕ) : ℕ → Bool
  | 0 => true
  | n + 1 => if edge n ≤ t then decide (n % 2 = 1) else levelAfter edge t n

theorem levelAfter_before {edge : ℕ → ℕ} (hedge : Monotone edge) {t : ℕ} (ht : t < edge 0)
    (n : ℕ) : levelAfter edge t n = true := by
  induction n with
  | zero => rfl
  | succ n ih =>
    have hle := hedge (Nat.zero_le n)
    rw [levelAfter, if_neg (by omega), ih]

theorem levelAfter_between {edge : ℕ → ℕ} (hedge : Monotone edge) {t j n : ℕ} (hj : edge j ≤ t)
    (hj' : t < edge (j + 1)) (hn : j < n) : levelAfter edge t n = decide (j % 2 = 1) := by
  induction n with
  | zero => exact absurd hn (Nat.not_lt_zero j)
  | succ n ih =>
    rw [levelAfter]
    rcases Nat.lt_succ_iff_lt_or_eq.mp hn with hlt | rfl
    · have hle : edge (j + 1) ≤ edge n := hedge (Nat.succ_le_of_lt hlt)
      rw [if_neg (by omega), ih hlt]
    · rw [if_pos hj]

theorem dhtEdge_step (data : ℕ → UInt8) (j : ℕ) :
    dhtEdge data j + 26 ≤ dhtEdge data (j + 1) ∧ dhtEdge data (j + 1) ≤ dhtEdge data j + 80 := by
  rcases j with _ | _ | j
  · show 40 + 26 ≤ 120 ∧ 120 ≤ 40 + 80
    decide
  · show 120 + 26 ≤ 200 ∧ 200 ≤ 120 + 80
    decide
  · show dhtEdge data (j + 2) + 26 ≤ dhtEdge data (j + 3) ∧
      dhtEdge data (j + 3) ≤ dhtEdge data (j + 2) + 80
    rw [dhtEdge]
    split_ifs <;> omega

theorem dhtEdge_monotone (data : ℕ → UInt8) : Monotone (dhtEdge data) :=
  monotone_nat_of_le_succ fun j => (Nat.le_add_right _ 26).trans (dhtEdge_step data j).1

/-- The pulse of a bit. -/
theorem dhtEdge_bit (data : ℕ → UInt8) {b c : ℕ} (hc : c < 8) :
    dhtEdge data (2 * (8 * b + c) + 4) = dhtEdge data (2 * (8 * b + c) + 3) +
      if (data b).toNat.testBit (7 - c) then 70 else 26 := by
  have hstep : dhtEdge data (2 * (8 * b + c) + 4) = dhtEdge data (2 * (8 * b + c) + 3) +
      if (2 * (8 * b + c) + 1) % 2 = 0 then 50
      else if (data ((2 * (8 * b + c) + 1) / 2 / 8)).toNat.testBit
        (7 - (2 * (8 * b + c) + 1) / 2 % 8) then 70 else 26 := rfl
  rw [hstep, if_neg (by omega), show (2 * (8 * b + c) + 1) / 2 / 8 = b by omega,
    show (2 * (8 * b + c) + 1) / 2 % 8 = c by omega]

theorem dhtWave_edge (data : ℕ → UInt8) : DhtWave 4 2 (dhtEdge data) data where
  seen j _ := (Nat.add_le_add_left (by decide) _).trans (dhtEdge_step data j).1
  short j _ := by
    have hstep := (dhtEdge_step data j).2
    omega
  one b _ c hc hbit := by
    rw [dhtEdge_bit data hc, if_pos hbit]
    omega
  zero b _ c hc hbit := by
    rw [dhtEdge_bit data hc, if_neg (by rw [hbit]; decide)]
    omega

/-- All calls are granted, and take 2 microseconds each, while a sensor sends some bytes. -/
def dhtSensorEnv (data : ℕ → UInt8) : ProbeEnv where
  sysDriver := false
  clk := ⟨some .io, true⟩
  call n := ⟨.granted, true, true, ⟨fun _ => UInt64.ofNat (2 * n), none⟩, true, 0⟩
  line hist _ := levelAfter (dhtEdge data) (2 * hist.length) 83
  raise := ⟨true, true, true⟩
  restore _ := true
  stack _ := 0

/-- The samples that are told. -/
def dhtSensorSamples (data : ℕ → UInt8) (k : ℕ) : DhtSample :=
  ((levelAfter (dhtEdge data) (2 * (2 * k + 5)) 83).toNat,
    stClo (UInt64.ofNat (2 * (2 * k + 6))))

theorem dhtTells_sensor (data : ℕ → UInt8) (g : ℕ) :
    DhtTells (dhtSensorEnv data) g 8 (dhtSensorSamples data) where
  dir _ := rfl
  rd _ := rfl
  usleep _ := rfl
  start := rfl
  tick _ := rfl
  level k hist hlen := by
    rw [dhtSensorEnv, dhtSensorSamples]
    dsimp only
    rw [hlen]

theorem dhtPaced_sensor (data : ℕ → UInt8) : DhtPaced 4 2 (dhtEdge data) 8
    (fun k => 2 * (2 * k + 5)) (fun k => 2 * (2 * k + 6)) 8 (dhtSensorSamples data) where
  start := rfl
  tick _ := rfl
  high k hk := by
    rw [dhtSensorSamples, levelAfter_before (dhtEdge_monotone data) hk]
    rfl
  level j hj k hk hk' := by
    rw [dhtSensorSamples, levelAfter_between (dhtEdge_monotone data) hk hk' hj]
    rcases Nat.mod_two_eq_zero_or_one j with h0 | h1
    · rw [h0]
      rfl
    · rw [h1]
      rfl
  first := by decide
  soon := by
    show 10 < 120
    decide
  idle := by
    show 40 + 2 ≤ 8 + 500
    decide
  asked k := by omega
  delay k := by omega
  before k := by omega
  round k := by omega

/-- A DHT22 at 65.2 % and 35.1 degrees. -/
theorem dhtProbe_measures_summer :
    ∃ fuel₀, ∀ fuel ≥ fuel₀, ∃ s' rh temp,
      dhtProbe (dhtSensorEnv (DhtMeasurement.dht22 652 351 (by decide) (by decide)
          (by decide)).bytes) 27 .dht22 fuel (ProbeSt.start hcsrGpioOf
            ⟨0, 0, 0, le_rfl, validPriority_other⟩ ⟨-1, 0⟩ ⟨false, none⟩) = (.val .success, s') ∧
      s'.vars = ⟨false, some (rh, temp)⟩ ∧ rh.toNat = 652 ∧ temp.toInt = 351 ∧
      s'.gpio.drives 27 = none ∧ ¬ s'.proc.Raised := by
  have hleaves : SchedLeaves ⟨true, true, true⟩ true ⟨0, 0, 0, le_rfl, validPriority_other⟩ := by
    decide
  have hat := hcsrAt_gpioOf ⟨0, 0, 0, le_rfl, validPriority_other⟩ ⟨-1, 0⟩
  obtain ⟨fuel₀, hprobe⟩ := dhtProbe_measures (.dht22 652 351 (by decide) (by decide) (by decide))
    (dhtTells_sensor _ 27) (dhtWave_edge _) (dhtPaced_sensor _) hat.inv hat.readyEcho
    ⟨0, 0, 0, le_rfl, validPriority_other⟩ ⟨-1, 0⟩
  refine ⟨fuel₀, fun fuel hfuel => ?_⟩
  obtain ⟨s', rh, temp, hret, hvars, hrh, htemp, hd, hleft⟩ := hprobe fuel hfuel
  refine ⟨s', rh, temp, hret, hvars, hrh, htemp, hd, fun hraised => ?_⟩
  exact absurd (hleft.mpr hleaves hraised) (by decide)

end Sensor

end Librasp
