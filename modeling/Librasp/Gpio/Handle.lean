import Librasp.Foundation.Run
import Librasp.Gpio.Driver

/-!
# The life of a GPIO handle

A handle carries the resources of two drivers, of which at most one is active; -1 stands for none,
and is taken for the SYSFS driver by the calls that work on GPIOs. `gpio_free` gives up what the
handle holds, but only if a driver is active: a descriptor that was opened while none was stays
open (`gpio_run_iff`).

* A run is a list of `GpioCall`s on a handle, each with the outcomes of its system calls, from
  `gpio_init` on, whatever the handle was before and whatever came of its initialization.
* `GpioInv` is the invariant: a driver that works through the mapping has one, without an active
  driver there is none, and no register was accessed without (`no_fault`).
* `GpioFrame` is what the calls on GPIOs have in common: they leave driver and mapping alone.

**Main results.** `gpioInv_exec` keeps the invariant over every call. `gpio_run_iff` says that
every call of a run is as it should be (`GpioGood`) exactly if no handle without an active driver
is freed while it has a value file open.
-/

namespace Librasp

/-! ### Runs -/

/-- A call on a handle, with the outcome of its system calls. -/
inductive GpioCall
  | init (e : MapEnv) (drv : Option GpioDriver)
  | setDriver (e : MapEnv) (drv : Option GpioDriver)
  | directionInput (e : DirEnv) (gpio : ℕ)
  | directionOutput (e : DirEnv) (gpio val : ℕ)
  | getValue (rd : Bool) (gpio : ℕ)
  | setValue (wr : Bool) (gpio val : ℕ)
  | free
  /-- Not a call: other processes export GPIOs, unexport them, or set them. -/
  | others (k : Sysfs)

/-- What a call does. -/
def GpioCall.exec (s : GpioSt) : GpioCall → LrErrc × GpioSt
  | init e drv => ((gpioInit e drv).1, { s with hndl := (gpioInit e drv).2 })
  | setDriver e drv =>
    ((gpioSetDriver e s.hndl drv).1, { s with hndl := (gpioSetDriver e s.hndl drv).2 })
  | directionInput e gpio => gpioDirectionInput e s gpio
  | directionOutput e gpio val => gpioDirectionOutput e s gpio val
  | getValue rd gpio => ((gpioGetValue rd s gpio).1.1, (gpioGetValue rd s gpio).2)
  | setValue wr gpio val => gpioSetValue wr s gpio val
  | free => (.success, { s with hndl := gpioFree s.hndl })
  | others k => (.success, { s with sysfs := k })

/-- The calls as a transition system. -/
def gpioStep (s : GpioSt) (c : GpioCall) : Option GpioSt := some (c.exec s).2

/-- No value file is open. -/
def GpioHndl.NoValfd (h : GpioHndl) : Prop := ∀ g < gpioNum, h.valfds g = none

/-- A call is as it should be: a driver that works through the mapping has one and no register is
accessed without, a driver that cannot be activated leaves the handle alone, and a handle that was
freed holds nothing. -/
structure GpioGood (s : GpioSt) (c : GpioCall) (s' : GpioSt) : Prop where
  mapped : s'.hndl.Mapped → s'.hndl.gpioIo = true
  no_fault : s'.bcm.fault = false
  unchanged : ∀ e drv, c = .setDriver e drv → (c.exec s).1 ≠ .success → s'.hndl = s.hndl
  released : c = .free → s'.hndl.gpioIo = false ∧ s'.hndl.NoValfd

/-- When a call is as it should be: a handle without an active driver has no value file open when
it is freed. -/
def GpioOk (s : GpioSt) : GpioCall → Prop
  | .free => s.hndl.drv = none → s.hndl.NoValfd
  | _ => True

/-- What holds of a handle from `gpio_init` on. -/
structure GpioInv (s : GpioSt) : Prop where
  mapped : s.hndl.Mapped → s.hndl.gpioIo = true
  closed : s.hndl.drv = none → s.hndl.gpioIo = false
  no_fault : s.bcm.fault = false

/-! ### One call -/

/-- A call that leaves driver and mapping alone, and accesses no register without the mapping. -/
structure GpioFrame (s s' : GpioSt) : Prop where
  drv : s'.hndl.drv = s.hndl.drv
  gpioIo : s'.hndl.gpioIo = s.hndl.gpioIo
  fault : GpioInv s → s'.bcm.fault = false

section Step

variable {s s' s'' : GpioSt}

theorem GpioFrame.trans (h : GpioFrame s s') (h' : GpioFrame s' s'')
    (hinv : GpioInv s → GpioInv s') : GpioFrame s s'' :=
  ⟨h'.drv.trans h.drv, h'.gpioIo.trans h.gpioIo, fun hs => h'.fault (hinv hs)⟩

theorem GpioFrame.mapped_iff (h : GpioFrame s s') : s'.hndl.Mapped ↔ s.hndl.Mapped := by
  rw [GpioHndl.Mapped, GpioHndl.Mapped, h.drv]

theorem GpioFrame.inv (h : GpioFrame s s') (hs : GpioInv s) : GpioInv s' := by
  refine ⟨fun hm => ?_, fun hdrv => ?_, h.fault hs⟩
  · rw [h.gpioIo]
    exact hs.mapped (h.mapped_iff.mp hm)
  · rw [h.gpioIo]
    exact hs.closed (h.drv ▸ hdrv)

theorem GpioFrame.refl (s : GpioSt) : GpioFrame s s := ⟨rfl, rfl, GpioInv.no_fault⟩

/-- A register is written through a mapping that is there. -/
theorem gpioFrame_ioWrite (off : ℕ) (v : UInt32) (h : GpioInv s → s.hndl.gpioIo = true) :
    GpioFrame s (s.ioWrite off v) := by
  refine ⟨by rw [GpioSt.hndl_ioWrite], by rw [GpioSt.hndl_ioWrite], fun hs => ?_⟩
  rw [GpioSt.ioWrite, if_pos (h hs)]
  exact hs.no_fault

theorem gpioFrame_ioRead (off : ℕ) (h : GpioInv s → s.hndl.gpioIo = true) :
    GpioFrame s (s.ioRead off).2 := by
  refine ⟨by rw [GpioSt.hndl_ioRead], by rw [GpioSt.hndl_ioRead], fun hs => ?_⟩
  rw [GpioSt.ioRead, if_pos (h hs)]
  exact hs.no_fault

theorem gpioFrame_setFunc (g : ℕ) (func : GpioBcmFunc) :
    GpioFrame s (gpioBcmSetFunc s g func).2 := by
  rw [gpioBcmSetFunc]
  split_ifs with hg hio
  · exact GpioFrame.refl s
  · exact gpioFrame_ioWrite _ _ fun _ => hio
  · exact GpioFrame.refl s

/-- Setting a value touches neither the driver nor what is mapped, and under the invariant it
accesses no register without the mapping. -/
theorem gpioFrame_setValue (wr : Bool) (g val : ℕ) : GpioFrame s (gpioSetValue wr s g val).2 := by
  rw [gpioSetValue]
  by_cases hg : gpioNum ≤ g
  · rw [if_pos hg]
    exact GpioFrame.refl s
  rw [if_neg hg]
  by_cases hm : s.hndl.Mapped
  · rw [if_pos hm]
    exact gpioFrame_ioWrite _ _ fun hs => hs.mapped hm
  rw [if_neg hm]
  rcases s.hndl.valfds g with _ | fd
  · exact GpioFrame.refl s
  · dsimp only
    split_ifs <;> exact ⟨rfl, rfl, GpioInv.no_fault⟩

theorem gpioFrame_getValue (rd : Bool) (g : ℕ) : GpioFrame s (gpioGetValue rd s g).2 := by
  rw [gpioGetValue]
  by_cases hg : gpioNum ≤ g
  · rw [if_pos hg]
    exact GpioFrame.refl s
  rw [if_neg hg]
  by_cases hm : s.hndl.Mapped
  · rw [if_pos hm]
    exact gpioFrame_ioRead _ fun hs => hs.mapped hm
  rw [if_neg hm]
  rcases s.hndl.valfds g with _ | fd
  · exact GpioFrame.refl s
  · dsimp only
    split_ifs <;> exact GpioFrame.refl s

theorem gpioFrame_sysfsWriteDirection (e : DirEnv) (g : ℕ) (asOut : Bool) :
    GpioFrame s (sysfsWriteDirection e s g asOut).2 := by
  rw [sysfsWriteDirection]
  split_ifs <;> exact ⟨rfl, rfl, GpioInv.no_fault⟩

theorem gpioFrame_sysfsSetDirection (e : DirEnv) (g : ℕ) (asOut : Bool) :
    GpioFrame s (sysfsSetDirection e s g asOut).2 := by
  rw [sysfsSetDirection]
  split_ifs
  · exact GpioFrame.refl s
  · exact gpioFrame_sysfsWriteDirection e g asOut
  · exact GpioFrame.refl s
  · have hopen : GpioFrame s (s.openValue g) := ⟨rfl, rfl, GpioInv.no_fault⟩
    exact hopen.trans (gpioFrame_sysfsWriteDirection e g asOut) hopen.inv

theorem gpioFrame_directionInput (e : DirEnv) (g : ℕ) :
    GpioFrame s (gpioDirectionInput e s g).2 := by
  rw [gpioDirectionInput]
  split_ifs
  · exact gpioFrame_setFunc g .in
  · exact gpioFrame_sysfsSetDirection e g false

/-- `gpio_direction_output` sets the value and the function through the registers, or the
direction and the value through sysfs, each of which keeps the frame. -/
theorem gpioFrame_directionOutput (e : DirEnv) (g val : ℕ) :
    GpioFrame s (gpioDirectionOutput e s g val).2 := by
  have hval : GpioFrame s (gpioSetValue e.writeVal s g val).2 := gpioFrame_setValue ..
  have hdir : GpioFrame s (sysfsSetDirection e s g true).2 := gpioFrame_sysfsSetDirection ..
  rw [gpioDirectionOutput]
  by_cases hm : s.hndl.Mapped
  · rw [if_pos hm]
    dsimp only
    split_ifs
    · exact hval.trans (gpioFrame_setFunc g .out) hval.inv
    · exact hval
  · rw [if_neg hm]
    dsimp only
    split_ifs
    · exact hdir.trans (gpioFrame_setValue ..) hdir.inv
    · exact hdir

/-- Activating a driver: what it needs is there, or the handle is left alone. Where the mapping
cannot be made, the driver that was active before stays so. -/
theorem gpioSetDriver_cases (e : MapEnv) (h : GpioHndl) (drv : Option GpioDriver) :
    ((gpioSetDriver e h drv).1 ≠ .success ∧ (gpioSetDriver e h drv).2 = h) ∨
      ((gpioSetDriver e h drv).1 = .success ∧ (gpioSetDriver e h drv).2.drv ≠ none ∧
        ((gpioSetDriver e h drv).2.Mapped → (gpioSetDriver e h drv).2.gpioIo = true)) := by
  rw [gpioSetDriver]
  split_ifs with hsysfs hio hplat hmap
  · refine Or.inr ⟨rfl, nofun, fun hm => ?_⟩
    rw [hsysfs] at hm
    exact absurd hm (by simp [GpioHndl.Mapped])
  · exact Or.inr ⟨rfl, nofun, fun _ => hio⟩
  · exact Or.inl ⟨nofun, rfl⟩
  · exact Or.inl ⟨nofun, rfl⟩
  · exact Or.inr ⟨rfl, nofun, fun _ => rfl⟩

/-- An activation keeps the invariant, whatever comes of it. -/
theorem gpioInv_setDriver {h : GpioHndl} {bcm : Bcm} {k : Sysfs} (hs : GpioInv ⟨h, bcm, k⟩)
    (e : MapEnv) (drv : Option GpioDriver) :
    GpioInv ⟨(gpioSetDriver e h drv).2, bcm, k⟩ := by
  rcases gpioSetDriver_cases e h drv with ⟨-, hsame⟩ | ⟨-, hdrv, hmap⟩
  · rw [hsame]
    exact hs
  · exact ⟨hmap, fun hnone => absurd hnone hdrv, hs.no_fault⟩

/-- `gpio_init` establishes the invariant, whatever the handle was before. -/
theorem gpioInv_init {bcm : Bcm} (hfault : bcm.fault = false) (k : Sysfs) (e : MapEnv)
    (drv : Option GpioDriver) : GpioInv ⟨(gpioInit e drv).2, bcm, k⟩ :=
  gpioInv_setDriver ⟨fun hm => absurd hm (by simp [GpioHndl.Mapped]), fun _ => rfl, hfault⟩ e drv

theorem gpioInv_free (hs : GpioInv s) : GpioInv { s with hndl := gpioFree s.hndl } := by
  refine ⟨fun hm => ?_, fun hdrv => ?_, hs.no_fault⟩
  · dsimp only [gpioFree] at hm ⊢
    split_ifs at hm ⊢ with hdrv
    · exact absurd hm (by simp [GpioHndl.Mapped])
    · exact hs.mapped hm
  · dsimp only [gpioFree] at hdrv ⊢
    split_ifs at hdrv ⊢
    · rfl
    · exact hs.closed hdrv

/-- Every call keeps the invariant. The calls on GPIOs do by their frame, and the others change
driver and mapping together. -/
theorem gpioInv_exec (hs : GpioInv s) (c : GpioCall) : GpioInv (c.exec s).2 := by
  rcases c with ⟨e, drv⟩ | ⟨e, drv⟩ | ⟨e, g⟩ | ⟨e, g, val⟩ | ⟨rd, g⟩ | ⟨wr, g, val⟩ | _ | k
  · exact gpioInv_init hs.no_fault s.sysfs e drv
  · exact gpioInv_setDriver hs e drv
  · exact (gpioFrame_directionInput e g).inv hs
  · exact (gpioFrame_directionOutput e g val).inv hs
  · exact (gpioFrame_getValue rd g).inv hs
  · exact (gpioFrame_setValue wr g val).inv hs
  · exact gpioInv_free hs
  · exact ⟨hs.mapped, hs.closed, hs.no_fault⟩

/-- A handle that was freed holds nothing, unless it had no active driver: then `gpio_free` does
nothing, and the value files stay open. -/
theorem gpioFree_released_iff (hs : GpioInv s) :
    ((gpioFree s.hndl).gpioIo = false ∧ (gpioFree s.hndl).NoValfd) ↔
      (s.hndl.drv = none → s.hndl.NoValfd) := by
  rcases hdrv : s.hndl.drv with _ | drv
  · have hfree : gpioFree s.hndl = s.hndl := if_neg (by rw [hdrv]; decide)
    rw [hfree]
    exact ⟨fun h _ => h.2, fun h => ⟨hs.closed hdrv, h rfl⟩⟩
  · have hfree : gpioFree s.hndl =
        ⟨none, false, fun g => if g < gpioNum then none else s.hndl.valfds g⟩ :=
      if_pos (by rw [hdrv]; rfl)
    rw [hfree]
    exact iff_of_true ⟨rfl, fun g hg => if_pos hg⟩ nofun

/-- **One call** is as it should be exactly if it meets the condition. It is `gpio_free` alone
that may fail it, for the invariant holds after every call. -/
theorem gpioGood_iff (hs : GpioInv s) (c : GpioCall) :
    GpioGood s c (c.exec s).2 ↔ GpioOk s c := by
  have hinv := gpioInv_exec hs c
  constructor
  · intro h
    rcases c with _ | _ | _ | _ | _ | _ | _ | _
    case free => exact (gpioFree_released_iff hs).mp (h.released rfl)
    all_goals trivial
  · intro hok
    refine ⟨hinv.mapped, hinv.no_fault, ?_, ?_⟩
    · rintro e drv rfl hret
      rcases gpioSetDriver_cases e s.hndl drv with ⟨-, hsame⟩ | ⟨hsucc, -⟩
      · exact hsame
      · exact absurd hsucc hret
    · rintro rfl
      exact (gpioFree_released_iff hs).mpr hok

end Step

/-! ### Runs of calls -/

/-- From `gpio_init` on, of whatever handle, every call is as it should be exactly if no handle is
freed while it has no active driver but a value file open. -/
theorem gpio_run_iff (h : GpioHndl) (regs : ℕ → UInt32) (k : Sysfs) (e : MapEnv)
    (drv : Option GpioDriver) (cs : List GpioCall) :
    Run.Each gpioStep GpioGood ⟨h, ⟨regs, [], false⟩, k⟩ (.init e drv :: cs) ↔
      Run.Meets gpioStep GpioOk ⟨h, ⟨regs, [], false⟩, k⟩ (.init e drv :: cs) := by
  have hinv : GpioInv ⟨(gpioInit e drv).2, ⟨regs, [], false⟩, k⟩ := gpioInv_init rfl k e drv
  have hcs : Run.Each gpioStep GpioGood ⟨(gpioInit e drv).2, ⟨regs, [], false⟩, k⟩ cs ↔
      Run.Meets gpioStep GpioOk ⟨(gpioInit e drv).2, ⟨regs, [], false⟩, k⟩ cs := by
    refine Run.each_iff_meets (I := GpioInv) ?_ ?_ hinv cs
    · intro s c hs
      refine ⟨fun hok s' hstep => ?_, fun hgood => (gpioGood_iff hs c).mp (hgood _ rfl)⟩
      rw [← Option.some.inj hstep]
      exact (gpioGood_iff hs c).mpr hok
    · intro s c s' hs _ hstep
      rw [← Option.some.inj hstep]
      exact gpioInv_exec hs c
  constructor
  · intro heach
    refine ⟨trivial, fun s' hstep => ?_⟩
    rw [← Option.some.inj hstep]
    exact hcs.mp (heach _ rfl).2
  · rintro ⟨-, hmeets⟩ s' hstep
    rw [← Option.some.inj hstep]
    exact ⟨⟨hinv.mapped, rfl, fun _ _ => nofun, nofun⟩, hcs.mpr (hmeets _ rfl)⟩

/-- A handle whose initialization fails, a direction call on an exported GPIO, and the handle is
freed: its value file is still open. -/
theorem gpio_run_free_fails :
    ¬ Run.Each gpioStep GpioGood
      ⟨⟨none, false, fun _ => none⟩, ⟨fun _ => 0, [], false⟩,
        ⟨fun _ => true, fun _ => 0, fun _ => false, fun _ => false⟩⟩
      [.init ⟨false, false⟩ (some .io), .directionInput ⟨true, true, true, true⟩ 4, .free] := by
  intro h
  have hgood := (((h _ rfl).2 _ rfl).2 _ rfl).1
  exact absurd ((hgood.released rfl).2 4 (by decide)) nofun

end Librasp
