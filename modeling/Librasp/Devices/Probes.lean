import Librasp.Devices.Dht
import Librasp.Devices.Hcsr04
import Librasp.Devices.ShrPiso

/-!
# When one call fails

The three probes, together: what is documented of their pins before and after a call, and the call
that must not fail in each (`ProbeCall.Exposed`).

Each of the three has one call whose failure is not made up for, and they are three different
slips:

* `dht_probe` sets the flag of its cleanup behind the call that drives the line, which with sysfs
  may fail when it has done so;
* `hcsr_probe` asks the clock before it fills the handle that its cleanup restores;
* `shr_piso_read` has a flag for CLK, and none for SH/~LD.

**Main result.** `probe_failSafe_iff`: a probe is as asked exactly if it is not this call that
fails, over all handles, environments and failing calls. `probe_failSafe_fails` has one of each.
-/

namespace Librasp

/-- A call of one of the probes. -/
inductive ProbeCall
  | dht (gpio : ℕ) (model : DhtModel)
  | hcsr (trigGpio echoGpio : ℕ)
  | shrPiso (shLdGpio clkGpio dataGpio nDtaBits : ℕ) (dta : ℕ → UInt8)

namespace ProbeCall

/-- What is documented of the state before a call: the clock has a driver, TRIG is low, SH/~LD and
CLK are high. -/
def Ready (e : ProbeEnv) (gpio : GpioSt) : ProbeCall → Prop
  | dht _ _ => e.clk.Usable e.sysDriver ∧ e.clk.drv.isSome = true
  | hcsr trigGpio _ =>
    (e.clk.Usable e.sysDriver ∧ e.clk.drv.isSome = true) ∧ HcsrPost trigGpio gpio.drives
  | shrPiso shLdGpio clkGpio _ _ _ => ShrPost shLdGpio clkGpio gpio.drives

/-- A call is as asked when one of its GPIO or clock calls fails. -/
def FailSafe (e : ProbeEnv) (gpio : GpioSt) (proc : Process) (stack : SchedRt) : ProbeCall → Prop
  | dht g model => ProbeFailSafe (DhtPost g) fun fuel =>
    dhtProbe e g model fuel (ProbeSt.start gpio proc stack ⟨false, none⟩)
  | hcsr trig echo => ProbeFailSafe (HcsrPost trig) fun fuel =>
    hcsrProbe e trig echo fuel (ProbeSt.start gpio proc stack ⟨false, none⟩)
  | shrPiso shLd clk data n dta => ProbeFailSafe (ShrPost shLd clk) fun _ =>
    shrPisoRead e shLd clk data n (ProbeSt.startPlain gpio proc ⟨false, dta⟩)

/-- The call that fails is one whose failure is not made up for. -/
def Exposed (e : ProbeEnv) (gpio : GpioSt) : ProbeCall → Prop
  | dht g _ => DhtExposed e gpio g
  | hcsr _ _ => HcsrExposed e
  | shrPiso shLd _ _ n _ => ShrExposed e gpio shLd n

end ProbeCall

/-- When one of its GPIO or clock calls fails, a probe returns the error, with the pins as
documented and no handle restored that was not filled, except where the call is an exposed one:
`gpio_direction_output` for the DHT, that leaves the line driven; the first `clock_get_ticks32` for
the HC-SR04; and setting SH/~LD high again for the shift register. -/
theorem probe_failSafe_iff (c : ProbeCall) (e : ProbeEnv) {gpio : GpioSt} (hinv : PinInv gpio)
    (hready : c.Ready e gpio) (proc : Process) (stack : SchedRt) :
    c.FailSafe e gpio proc stack ↔ ¬ c.Exposed e gpio := by
  cases c with
  | dht g model => exact dhtProbe_failSafe_iff hready hinv model proc stack
  | hcsr trig echo => exact hcsrProbe_failSafe_iff hready.1 hinv hready.2 proc stack
  | shrPiso shLd clk data n dta => exact shrPisoRead_failSafe_iff hinv hready n dta proc

namespace ProbeExample

/-- A process of the default policy. -/
def proc : Process := ⟨0, 0, 0, le_rfl, validPriority_other⟩

/-- Every call is granted, except the value `write` of one call, and the value `read` of another. -/
def env (sys : Bool) (clk : ClockHndl) (wr rd : ℕ) : ProbeEnv where
  sysDriver := sys
  clk := clk
  call n := ⟨⟨true, true, true, n ≠ wr⟩, n ≠ wr, n ≠ rd, ⟨fun _ => 0, none⟩, true, 0⟩
  line _ _ := true
  raise := ⟨true, true, true⟩
  restore _ := true
  stack _ := 0

/-- A handle of the SYSFS driver, every GPIO set; the outputs up to `n` are at `level`. -/
def gpio (n : ℕ) (level : Bool) : GpioSt where
  hndl := ⟨some .sysfs, false, fun g => some ⟨g, 1⟩⟩
  bcm := ⟨fun _ => 0, [], false⟩
  sysfs := ⟨fun _ => true, fun _ => 1, fun g => g < n, fun _ => level⟩

theorem pinInv (n : ℕ) (level : Bool) : PinInv (gpio n level) := by
  have hm : ¬ (⟨some .sysfs, false, fun g => some ⟨g, 1⟩⟩ : GpioHndl).Mapped := by decide
  refine ⟨fun h => absurd h hm, fun g fd hfd => ?_⟩
  rw [← Option.some.inj hfd]

end ProbeExample

open ProbeExample in
/-- The value of the line cannot be set when the pin is an output already; the clock of the SYS
driver fails; SH/~LD cannot be set high again. -/
theorem probe_failSafe_fails :
    let clkIo : ClockHndl := ⟨some .io, true⟩
    let dht := ProbeCall.dht 4 .dht22
    let hcsr := ProbeCall.hcsr 4 9
    let shrPiso := ProbeCall.shrPiso 4 5 9 8 fun _ => 0
    let sys := env true ⟨some .sys, false⟩ 9 9
    (dht.Ready (env false clkIo 0 9) (gpio 0 false) ∧
      ¬ dht.FailSafe (env false clkIo 0 9) (gpio 0 false) proc ⟨0, 0⟩) ∧
    (hcsr.Ready sys (gpio 8 false) ∧ ¬ hcsr.FailSafe sys (gpio 8 false) proc ⟨0, 0⟩) ∧
    (shrPiso.Ready (env false clkIo 1 9) (gpio 8 true) ∧
      ¬ shrPiso.FailSafe (env false clkIo 1 9) (gpio 8 true) proc ⟨0, 0⟩) := by
  have hio : ClockHndl.Usable false ⟨some .io, true⟩ :=
    ⟨fun _ => rfl, fun h => absurd h (by decide)⟩
  have hsys : ClockHndl.Usable true ⟨some .sys, false⟩ :=
    ⟨fun h => absurd h (by decide), fun _ => rfl⟩
  refine ⟨⟨⟨hio, rfl⟩, fun h => ?_⟩, ⟨⟨⟨hsys, rfl⟩, rfl⟩, fun h => ?_⟩, ⟨⟨rfl, rfl⟩, fun h => ?_⟩⟩
  · refine (dhtProbe_failSafe_iff ⟨hio, rfl⟩ (pinInv 0 false) .dht22 proc ⟨0, 0⟩).mp h ?_
    exact ⟨by decide, Or.inl (by decide)⟩
  · refine (hcsrProbe_failSafe_iff ⟨hsys, rfl⟩ (pinInv 8 false) rfl proc ⟨0, 0⟩).mp h ?_
    exact ⟨rfl, by decide, rfl⟩
  · refine (shrPisoRead_failSafe_iff (pinInv 8 true) ⟨rfl, rfl⟩ 8 (fun _ => 0) proc).mp h ?_
    exact ⟨by decide, by decide, by decide, by decide⟩

open ProbeExample in
/-- A shift register whose second bit cannot be read. -/
theorem probe_failSafe_read :
    ProbeCall.FailSafe (env false ⟨some .io, true⟩ 99 6) (gpio 8 true) proc ⟨0, 0⟩
      (.shrPiso 4 5 9 8 fun _ => 0) := by
  refine (probe_failSafe_iff (.shrPiso 4 5 9 8 fun _ => 0) _ (pinInv 8 true) ⟨rfl, rfl⟩ proc
    ⟨0, 0⟩).mpr ?_
  rintro ⟨-, -, -, hwr⟩
  exact absurd hwr (by decide)

end Librasp
