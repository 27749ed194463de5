import Librasp.Foundation.Fields
import Librasp.Gpio.Events

/-!
# `gpio.c`: the pull resistors

The resistor of a pad is set through a control register and a clock: the control is set up, it is
clocked into the pads whose bits of the clock registers are set, and both are removed. Before and
after the clock is set the control has to stay as it is for 150 cycles, or what the pad takes is
anything.

`gpio_bcm_set_pull_config` waits for them, so that a pad has the resistor it was last set to, and
the others are left (`pad_runPulls`).

* `PullCtl` is the hardware: the pads, the control, the clocks, and for how many cycles each has
  stayed. A pad whose clock rises or falls too early has no known resistor (`none`).
* `PullCall` is a call, with the cycles by which its waits are longer than asked for.
* At rest (`AtRest`) neither the control nor a clock is set; the state between calls is a subtype
  that has this, so that no call can leave a clock on.

**Main result.** `pad_runPulls`, over any sequence of calls for any pads of the two clock words.
-/

namespace Librasp

/-- `GPPUDCLK0`. -/
def gppudclk0 : ℕ := 0x98

/-- `GPIO_NUM` pads, their control and their clocks. -/
structure PullCtl where
  /-- `GPPUD`. -/
  gppud : UInt32
  /-- `GPPUDCLK0` and `GPPUDCLK1`, by their offsets. -/
  gppudclk : ℕ → UInt32
  /-- The cycles since `GPPUD` was written. -/
  pudAge : ℕ
  /-- The cycles since a clock was written. -/
  clkAge : ℕ
  /-- The control a pad took last, `none` if that is anything. -/
  pad : ℕ → Option UInt32

namespace PullCtl

/-- The cycles for which the control has to stay. -/
def hold : ℕ := 150

/-- The clock of a pad. -/
def clk (c : PullCtl) (gpio : ℕ) : Bool :=
  (c.gppudclk (gppudclk0 + 4 * (gpio / 32))).toBitVec.getLsbD (gpio % 32)

/-- Cycles go by. -/
def wait (c : PullCtl) (n : ℕ) : PullCtl :=
  { c with pudAge := c.pudAge + n, clkAge := c.clkAge + n }

/-- `GPPUD` is written; a pad that is just being clocked takes anything. -/
def writePud (c : PullCtl) (v : UInt32) : PullCtl :=
  { c with
    gppud := v
    pudAge := 0
    pad := fun gpio => if c.clk gpio ∧ c.clkAge < hold then none else c.pad gpio }

/-- A clock is written: a pad takes the control as its clock rises, and holds it when the clock
falls. -/
def writeClk (c : PullCtl) (off : ℕ) (v : UInt32) : PullCtl :=
  let c' := { c with gppudclk := Function.update c.gppudclk off v, clkAge := 0 }
  { c' with pad := fun gpio =>
    if !c.clk gpio && c'.clk gpio then if hold ≤ c.pudAge then some c.gppud else none
    else if c.clk gpio && !c'.clk gpio then if hold ≤ c.clkAge then c.pad gpio else none
    else c.pad gpio }

/-- Neither the control nor a clock is set. -/
structure AtRest (c : PullCtl) : Prop where
  gppud : c.gppud = 0
  gppudclk : ∀ off, c.gppudclk off = 0

end PullCtl

/-- A call of `gpio_bcm_set_pull_config`, with the cycles by which its waits are longer than asked
for. -/
structure PullCall where
  gpio : ℕ
  pull : UInt32
  late₁ : ℕ
  late₂ : ℕ

/-- `gpio_bcm_set_pull_config`. -/
def gpioBcmSetPullConfig (h : GpioHndl) (call : PullCall) (c : PullCtl) : LrErrc × PullCtl :=
  if gpioNum ≤ call.gpio then (.invArg, c)
  else if h.gpioIo then
    let off := gppudclk0 + 4 * (call.gpio / 32)
    let gpioBit : UInt32 := 1 <<< UInt32.ofNat (call.gpio % 32)
    let c := (c.writePud (call.pull % 3)).wait (150 + call.late₁)
    let c := (c.writeClk off gpioBit).wait (150 + call.late₂)
    (.success, (c.writePud 0).writeClk off 0)
  else (.noinit, c)

/-- What a call sets the pull of a pad to. -/
def PullCall.value (h : GpioHndl) (call : PullCall) (gpio : ℕ) : Option UInt32 :=
  if gpio = call.gpio ∧ call.gpio < gpioNum ∧ h.gpioIo then some (call.pull % 3) else none

/-! ### A call -/

namespace PullCtl

variable {c : PullCtl}

theorem mod_lt (gpio : ℕ) : gpio % 32 < 32 := Nat.mod_lt _ (by decide)

/-- At rest no clock is set. -/
theorem AtRest.clk (h : c.AtRest) (gpio : ℕ) : c.clk gpio = false := by
  rw [PullCtl.clk, h.gppudclk, show (0 : UInt32).toBitVec = 0#32 from rfl, BitVec.getLsbD_zero]

/-- The clock of one pad is set in registers that are 0. -/
theorem clk_of_bit {gpio : ℕ} (h : ∀ off, c.gppudclk off =
      if off = gppudclk0 + 4 * (gpio / 32) then 1 <<< UInt32.ofNat (gpio % 32) else 0) (gpio' : ℕ) :
    c.clk gpio' = decide (gpio' = gpio) := by
  rw [clk, h]
  by_cases hreg : gppudclk0 + 4 * (gpio' / 32) = gppudclk0 + 4 * (gpio / 32)
  · rw [if_pos hreg, getLsbD_one_shl (mod_lt gpio)]
    refine decide_eq_decide.mpr ⟨fun hmod => ?_, fun heq => congrArg (· % 32) heq⟩
    omega
  · rw [if_neg hreg, show (0 : UInt32).toBitVec = 0#32 from rfl, BitVec.getLsbD_zero,
      decide_eq_false fun heq => hreg (by rw [heq])]

/-- The control is written when no clock is, or has been set for long enough: then no pad takes
anything from it. -/
theorem pad_writePud (h : ∀ gpio, c.clk gpio = true → hold ≤ c.clkAge) (v : UInt32) :
    (c.writePud v).pad = c.pad := by
  funext gpio
  exact if_neg fun hbad => absurd (h gpio hbad.1) (Nat.not_le.mpr hbad.2)

/-- Clocks rise, under a control that has stayed for long enough. -/
theorem pad_rise (hclk : ∀ gpio, c.clk gpio = false) (hage : hold ≤ c.pudAge) (off : ℕ)
    (v : UInt32) (gpio : ℕ) : (c.writeClk off v).pad gpio =
      if (c.writeClk off v).clk gpio then some c.gppud else c.pad gpio := by
  rw [writeClk]
  dsimp only
  rw [hclk gpio, if_pos hage, Bool.not_false, Bool.true_and, Bool.false_and,
    if_neg Bool.false_ne_true]
  rfl

/-- Clocks fall that have been set for long enough. -/
theorem pad_fall {off : ℕ} {v : UInt32} (hage : hold ≤ c.clkAge)
    (hclk : ∀ gpio, (c.writeClk off v).clk gpio = false) : (c.writeClk off v).pad = c.pad := by
  funext gpio
  have hnew : clk { c with gppudclk := Function.update c.gppudclk off v, clkAge := 0 } gpio =
      false :=
    hclk gpio
  rw [writeClk]
  dsimp only
  rw [hnew, if_pos hage, Bool.and_false, if_neg Bool.false_ne_true, ite_self]

end PullCtl

section Call

variable {h : GpioHndl} {c : PullCtl} {call : PullCall}

/-- A call that sets a pull: its pad has the resistor, the others keep theirs, and neither control
nor clock is left on. The steps are those of the source, one lemma for each write. -/
theorem setPull_works (hio : h.gpioIo = true) (hgpio : call.gpio < gpioNum) (hrest : c.AtRest) :
    let r := gpioBcmSetPullConfig h call c
    r.1 = .success ∧ r.2.AtRest ∧
      r.2.pad = Function.update c.pad call.gpio (some (call.pull % 3)) := by
  obtain ⟨off, hoff⟩ : ∃ off, off = gppudclk0 + 4 * (call.gpio / 32) := ⟨_, rfl⟩
  obtain ⟨bit, hbit⟩ : ∃ bit : UInt32, bit = 1 <<< UInt32.ofNat (call.gpio % 32) := ⟨_, rfl⟩
  -- the control is set up
  obtain ⟨c₁, hc₁⟩ : ∃ c₁, c₁ = (c.writePud (call.pull % 3)).wait (150 + call.late₁) := ⟨_, rfl⟩
  have hclk₁ : ∀ gpio, c₁.clk gpio = false := fun gpio => by
    rw [hc₁]
    exact hrest.clk gpio
  have hpad₁ : c₁.pad = c.pad := by
    rw [hc₁]
    exact PullCtl.pad_writePud (fun gpio hg => by rw [hrest.clk] at hg; cases hg) (call.pull % 3)
  have hage₁ : PullCtl.hold ≤ c₁.pudAge := by
    rw [hc₁]
    show 150 ≤ 0 + (150 + call.late₁)
    omega
  -- it is clocked into the pad
  obtain ⟨c₂, hc₂⟩ : ∃ c₂, c₂ = (c₁.writeClk off bit).wait (150 + call.late₂) := ⟨_, rfl⟩
  have hclk₂ : ∀ gpio, c₂.clk gpio = decide (gpio = call.gpio) := by
    refine PullCtl.clk_of_bit fun off' => ?_
    rw [hc₂, hc₁, ← hoff, ← hbit]
    show Function.update c.gppudclk off bit off' = _
    rw [Function.update_apply, hrest.gppudclk]
  have hpad₂ : c₂.pad = Function.update c.pad call.gpio (some (call.pull % 3)) := by
    funext gpio
    have hrise := PullCtl.pad_rise hclk₁ hage₁ off bit gpio
    have hclk : (c₁.writeClk off bit).clk gpio = decide (gpio = call.gpio) := by
      rw [← hclk₂, hc₂]
      rfl
    rw [hclk, hpad₁, show c₁.gppud = call.pull % 3 by rw [hc₁]; rfl] at hrise
    rw [hc₂]
    refine hrise.trans ?_
    rw [Function.update_apply]
    by_cases hg : gpio = call.gpio
    · rw [if_pos hg, if_pos (decide_eq_true hg)]
    · rw [if_neg hg, if_neg (by rw [decide_eq_false hg]; decide)]
  have hage₂ : PullCtl.hold ≤ c₂.clkAge := by
    rw [hc₂]
    show 150 ≤ 0 + (150 + call.late₂)
    omega
  -- both are removed
  have hgppudclk : ∀ off', ((c₂.writePud 0).writeClk off 0).gppudclk off' = 0 := fun off' => by
    rw [hc₂, hc₁]
    show Function.update (Function.update c.gppudclk off bit) off 0 off' = 0
    rw [Function.update_idem, Function.update_apply, hrest.gppudclk, ite_self]
  have hend : ((c₂.writePud 0).writeClk off 0).AtRest := ⟨rfl, hgppudclk⟩
  have hr : gpioBcmSetPullConfig h call c = (.success, (c₂.writePud 0).writeClk off 0) := by
    rw [gpioBcmSetPullConfig, if_neg (Nat.not_le.mpr hgpio), if_pos hio, hc₂, hc₁, hbit, hoff]
  rw [hr]
  refine ⟨rfl, hend, ?_⟩
  have hfall : ((c₂.writePud 0).writeClk off 0).pad = (c₂.writePud 0).pad :=
    PullCtl.pad_fall hage₂ hend.clk
  exact hfall.trans ((PullCtl.pad_writePud (fun _ _ => hage₂) 0).trans hpad₂)

/-- A call that sets no pull. -/
theorem setPull_fails (hno : ¬ (call.gpio < gpioNum ∧ h.gpioIo = true)) :
    (gpioBcmSetPullConfig h call c).1 ≠ .success ∧ (gpioBcmSetPullConfig h call c).2 = c := by
  rw [gpioBcmSetPullConfig]
  by_cases hg : gpioNum ≤ call.gpio
  · rw [if_pos hg]
    exact ⟨LrErrc.noConfusion, rfl⟩
  · have hio : ¬ h.gpioIo = true := fun hio => hno ⟨Nat.not_le.mp hg, hio⟩
    rw [if_neg hg, if_neg hio]
    exact ⟨LrErrc.noConfusion, rfl⟩

theorem atRest_setPull (h : GpioHndl) (call : PullCall) (hrest : c.AtRest) :
    (gpioBcmSetPullConfig h call c).2.AtRest := by
  by_cases hok : call.gpio < gpioNum ∧ h.gpioIo = true
  · exact (setPull_works hok.2 hok.1 hrest).2.1
  · rw [(setPull_fails hok).2]
    exact hrest

end Call

/-! ### Runs -/

/-- The pull control between the calls. -/
abbrev PullSt := { c : PullCtl // c.AtRest }

/-- A call. -/
def PullCall.apply (h : GpioHndl) (call : PullCall) (c : PullSt) : PullSt :=
  ⟨(gpioBcmSetPullConfig h call c.1).2, atRest_setPull h call c.2⟩

/-- What the calls set the pull of a pad to last, if any of them does. -/
def lastPull (h : GpioHndl) (c : PullSt) (calls : List PullCall) (gpio : ℕ) : Option UInt32 :=
  Fields.lastSet (PullCall.apply h) (fun call _ => call.value h) c calls gpio

/-- **Pulls.** After any calls a pad has the pull it was last set to, or the one it had at first,
and neither the control nor a clock is left on. -/
theorem pad_runPulls (h : GpioHndl) (c : PullSt) (calls : List PullCall) :
    (Fields.run (PullCall.apply h) c calls).1.AtRest ∧ ∀ gpio,
      (Fields.run (PullCall.apply h) c calls).1.pad gpio =
        ((lastPull h c calls gpio).map some).getD (c.1.pad gpio) := by
  refine ⟨(Fields.run _ c calls).2, fun gpio => ?_⟩
  have hset : ∀ (call : PullCall) (c : PullSt) (v : UInt32), True → call.value h gpio = some v →
      (call.apply h c).1.pad gpio = some v := by
    intro call c v _ hv
    rw [PullCall.value] at hv
    split_ifs at hv with hcall
    obtain ⟨rfl, hgpio, hio⟩ := hcall
    show (gpioBcmSetPullConfig h call c.1).2.pad call.gpio = some v
    rw [(setPull_works hio hgpio c.2).2.2, Function.update_self, hv]
  have hframe : ∀ (call : PullCall) (c : PullSt), True → call.value h gpio = none →
      (call.apply h c).1.pad gpio = c.1.pad gpio := by
    intro call c _ hv
    show (gpioBcmSetPullConfig h call c.1).2.pad gpio = c.1.pad gpio
    by_cases hok : call.gpio < gpioNum ∧ h.gpioIo = true
    · have hg : gpio ≠ call.gpio := by
        rintro rfl
        rw [PullCall.value, if_pos ⟨rfl, hok⟩] at hv
        exact Option.some_ne_none _ hv
      rw [(setPull_works hok.2 hok.1 c.2).2.2, Function.update_of_ne hg]
    · rw [(setPull_fails hok).2]
  exact Fields.get_run (fun c : PullSt => c.1.pad gpio) some hset hframe c fun _ _ => trivial

end Librasp
