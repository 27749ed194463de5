import Librasp.Common

/-!
# `gpio.c`: the two GPIO drivers

A handle holds the resources of both drivers: the mapping of the BCM registers, and a descriptor
for the value file of each GPIO of the sysfs interface. Any driver but the two that use the
mapping, -1 included, works through the descriptors.

* `Bcm` are the registers by their offsets, with a journal of the writes; a write without a
  mapping is recorded as a fault.
* `Sysfs` is the kernel's side: which GPIOs are exported, and their directions and levels. A
  descriptor belongs to the export of the GPIO it was opened in (its `era`): it does not work
  after the GPIO is unexported, also not when it is exported again.
* The outcomes of the system calls are arguments of the calls (`DirEnv`, `ExportEnv`, `MapEnv`),
  so that every theorem is about all of them.

The functions here are those of the source, for both drivers: activation, function, direction,
value and export. What they amount to is said elsewhere: what the pins do in `Pins`, what becomes
of the descriptors in `Export`, and of the handle in `Handle`.
-/

namespace Librasp

/-! ### Registers -/

/-- `GPIO_NUM`. -/
def gpioNum : ℕ := 54

/-- `GPFSEL0`. -/
def gpfsel0 : ℕ := 0x00

/-- `GPSET0`. -/
def gpset0 : ℕ := 0x1c

/-- `GPCLR0`. -/
def gpclr0 : ℕ := 0x28

/-- `GPLEV0`. -/
def gplev0 : ℕ := 0x34

/-- `gpio_bcm_func_t`. -/
inductive GpioBcmFunc
  | in
  | out
  | alt5
  | alt4
  | alt0
  | alt1
  | alt2
  | alt3
  deriving DecidableEq, Repr

/-- The value of a function in its three bits. -/
def GpioBcmFunc.code : GpioBcmFunc → UInt32
  | .in => 0
  | .out => 1
  | .alt5 => 2
  | .alt4 => 3
  | .alt0 => 4
  | .alt1 => 5
  | .alt2 => 6
  | .alt3 => 7

/-- `SET_BITFLD`. -/
def setBitfld (v b m : UInt32) : UInt32 := (v &&& ~~~m) ||| b

/-- The registers of the BCM, by their offsets. -/
structure Bcm where
  regs : ℕ → UInt32
  /-- The register writes so far. -/
  writes : List (ℕ × UInt32)
  /-- A register was accessed through a missing mapping. -/
  fault : Bool

/-! ### The sysfs interface -/

/-- A descriptor of a value file. -/
structure ValFd where
  gpio : ℕ
  era : ℕ
  deriving DecidableEq, Repr

/-- The sysfs interface of the kernel. -/
structure Sysfs where
  exported : ℕ → Bool
  /-- How often a GPIO has been exported. -/
  era : ℕ → ℕ
  /-- Whether the direction is `out`. -/
  out : ℕ → Bool
  /-- Whether the value is 1. -/
  level : ℕ → Bool

namespace Sysfs

/-- The descriptor works: it is one of the current export. -/
def Live (k : Sysfs) (fd : ValFd) : Prop := k.exported fd.gpio = true ∧ fd.era = k.era fd.gpio

instance (k : Sysfs) (fd : ValFd) : Decidable (k.Live fd) := inferInstanceAs (Decidable (_ ∧ _))

/-- The GPIO is exported. -/
def doExport (k : Sysfs) (g : ℕ) : Sysfs :=
  { k with
    exported := Function.update k.exported g true
    era := Function.update k.era g (k.era g + 1) }

/-- The GPIO is unexported. -/
def doUnexport (k : Sysfs) (g : ℕ) : Sysfs :=
  { k with exported := Function.update k.exported g false }

/-- The direction is written; an output starts low. -/
def setDirection (k : Sysfs) (g : ℕ) (asOut : Bool) : Sysfs :=
  { k with
    out := Function.update k.out g asOut
    level := if asOut then Function.update k.level g false else k.level }

end Sysfs

/-! ### The handle -/

/-- `gpio_driver_t`. -/
inductive GpioDriver
  | io
  | gpio
  | sysfs
  deriving DecidableEq, Repr

/-- `gpio_hndl_t`. -/
structure GpioHndl where
  /-- The active driver, `none` for -1. -/
  drv : Option GpioDriver
  /-- Whether `io.p_gpio_io` is a mapping. -/
  gpioIo : Bool
  /-- `sysfs.valfds`, `none` for -1. -/
  valfds : ℕ → Option ValFd

/-- A handle with the registers and the kernel it works on. -/
structure GpioSt where
  hndl : GpioHndl
  bcm : Bcm
  sysfs : Sysfs

/-- The active driver works through the mapping. -/
def GpioHndl.Mapped (h : GpioHndl) : Prop := h.drv = some .io ∨ h.drv = some .gpio

instance (h : GpioHndl) : Decidable h.Mapped := inferInstanceAs (Decidable (_ ∨ _))

/-- A register is written through the mapping. -/
def GpioSt.ioWrite (s : GpioSt) (off : ℕ) (v : UInt32) : GpioSt :=
  if s.hndl.gpioIo then
    { s with bcm := { s.bcm with
      regs := Function.update s.bcm.regs off v
      writes := s.bcm.writes ++ [(off, v)] } }
  else { s with bcm := { s.bcm with fault := true } }

/-- A register is read through the mapping. -/
def GpioSt.ioRead (s : GpioSt) (off : ℕ) : UInt32 × GpioSt :=
  if s.hndl.gpioIo then (s.bcm.regs off, s)
  else (0, { s with bcm := { s.bcm with fault := true } })

@[simp]
theorem GpioSt.hndl_ioWrite (s : GpioSt) (off : ℕ) (v : UInt32) :
    (s.ioWrite off v).hndl = s.hndl := by
  rw [ioWrite]
  split_ifs <;> rfl

@[simp]
theorem GpioSt.sysfs_ioWrite (s : GpioSt) (off : ℕ) (v : UInt32) :
    (s.ioWrite off v).sysfs = s.sysfs := by
  rw [ioWrite]
  split_ifs <;> rfl

@[simp]
theorem GpioSt.hndl_ioRead (s : GpioSt) (off : ℕ) : (s.ioRead off).2.hndl = s.hndl := by
  rw [ioRead]
  split_ifs <;> rfl

/-- What `gpio_set_driver` meets: the platform, and whether the GPIO registers can be mapped. -/
structure MapEnv where
  platform : Bool
  mmap : Bool
  deriving DecidableEq, Repr

/-- `gpio_set_driver`; a driver that is none of the three (`none`) stands for the first. -/
def gpioSetDriver (e : MapEnv) (h : GpioHndl) (drv : Option GpioDriver) : LrErrc × GpioHndl :=
  let drv := drv.getD .io
  if drv = .sysfs then (.success, { h with drv := some drv })
  else if h.gpioIo then (.success, { h with drv := some drv })
  else if !e.platform then (.platErr, h)
  else if !e.mmap then (.mmapErr, h)
  else (.success, { h with drv := some drv, gpioIo := true })

/-- `gpio_init`. -/
def gpioInit (e : MapEnv) (drv : Option GpioDriver) : LrErrc × GpioHndl :=
  gpioSetDriver e ⟨none, false, fun _ => none⟩ drv

/-- `gpio_free`. -/
def gpioFree (h : GpioHndl) : GpioHndl :=
  if h.drv.isSome then ⟨none, false, fun g => if g < gpioNum then none else h.valfds g⟩ else h

/-! ### Directions and values -/

/-- `gpio_bcm_set_func`. -/
def gpioBcmSetFunc (s : GpioSt) (gpio : ℕ) (func : GpioBcmFunc) : LrErrc × GpioSt :=
  if gpioNum ≤ gpio then (.invArg, s)
  else if s.hndl.gpioIo then
    let shl := UInt32.ofNat (3 * (gpio % 10))
    let off := gpfsel0 + 4 * (gpio / 10)
    (.success, s.ioWrite off (setBitfld (s.bcm.regs off) ((func.code &&& 7) <<< shl) (7 <<< shl)))
  else (.noinit, s)

/-- The outcomes of the system calls of a direction call: `open` of the value file, `open` of the
direction file and `write` to it, and `write` to the value file. -/
structure DirEnv where
  openVal : Bool
  openDir : Bool
  writeDir : Bool
  writeVal : Bool
  deriving DecidableEq, Repr

/-- The part of `sysfs_set_direction` that writes the direction. -/
def sysfsWriteDirection (e : DirEnv) (s : GpioSt) (gpio : ℕ) (asOut : Bool) : LrErrc × GpioSt :=
  if !(e.openDir && s.sysfs.exported gpio) then (.openErr, s)
  else if !e.writeDir then (.writeErr, s)
  else (.success, { s with sysfs := s.sysfs.setDirection gpio asOut })

/-- The value file is opened, and its descriptor kept. -/
def GpioSt.openValue (s : GpioSt) (gpio : ℕ) : GpioSt :=
  { s with hndl := { s.hndl with
    valfds := Function.update s.hndl.valfds gpio (some ⟨gpio, s.sysfs.era gpio⟩) } }

/-- `sysfs_set_direction`. -/
def sysfsSetDirection (e : DirEnv) (s : GpioSt) (gpio : ℕ) (asOut : Bool) : LrErrc × GpioSt :=
  if gpioNum ≤ gpio then (.invArg, s)
  else if (s.hndl.valfds gpio).isSome then sysfsWriteDirection e s gpio asOut
  else if !(e.openVal && s.sysfs.exported gpio) then (.openErr, s)
  else sysfsWriteDirection e (s.openValue gpio) gpio asOut

/-- `gpio_set_value`; `wr` is the outcome of its `write`, which needs a descriptor that works. -/
def gpioSetValue (wr : Bool) (s : GpioSt) (gpio val : ℕ) : LrErrc × GpioSt :=
  if gpioNum ≤ gpio then (.invArg, s)
  else if s.hndl.Mapped then
    (.success, s.ioWrite ((if val ≠ 0 then gpset0 else gpclr0) + 4 * (gpio / 32))
      (1 <<< UInt32.ofNat (gpio % 32)))
  else match s.hndl.valfds gpio with
    | none => (.noinit, s)
    | some fd =>
      if wr ∧ s.sysfs.Live fd then
        (.success, { s with sysfs := { s.sysfs with
          level := Function.update s.sysfs.level fd.gpio (decide (val ≠ 0)) } })
      else (.writeErr, s)

/-- `gpio_get_value`, with the value written to `*p_val`, if any; `rd` is the outcome of its
`lseek` and `read`, which need a descriptor that works. -/
def gpioGetValue (rd : Bool) (s : GpioSt) (gpio : ℕ) : (LrErrc × Option ℕ) × GpioSt :=
  if gpioNum ≤ gpio then ((.invArg, none), s)
  else if s.hndl.Mapped then
    let r := s.ioRead (gplev0 + 4 * (gpio / 32))
    ((.success, some ((r.1 >>> UInt32.ofNat (gpio % 32)) &&& 1).toNat), r.2)
  else match s.hndl.valfds gpio with
    | none => ((.noinit, none), s)
    | some fd =>
      if rd ∧ s.sysfs.Live fd then ((.success, some (s.sysfs.level fd.gpio).toNat), s)
      else ((.readErr, none), s)

/-- Writing a value changes no descriptor and no export. -/
theorem gpioSetValue_frame (wr : Bool) (s : GpioSt) (g val : ℕ) :
    (gpioSetValue wr s g val).2.hndl = s.hndl ∧
      (gpioSetValue wr s g val).2.sysfs.exported = s.sysfs.exported ∧
      (gpioSetValue wr s g val).2.sysfs.era = s.sysfs.era := by
  rw [gpioSetValue]
  by_cases hg : gpioNum ≤ g
  · rw [if_pos hg]
    exact ⟨rfl, rfl, rfl⟩
  rw [if_neg hg]
  by_cases hm : s.hndl.Mapped
  · rw [if_pos hm, GpioSt.hndl_ioWrite, GpioSt.sysfs_ioWrite]
    exact ⟨rfl, rfl, rfl⟩
  rw [if_neg hm]
  rcases s.hndl.valfds g with _ | fd
  · exact ⟨rfl, rfl, rfl⟩
  · dsimp only
    split_ifs <;> exact ⟨rfl, rfl, rfl⟩

/-- `gpio_direction_input`. -/
def gpioDirectionInput (e : DirEnv) (s : GpioSt) (gpio : ℕ) : LrErrc × GpioSt :=
  if s.hndl.Mapped then gpioBcmSetFunc s gpio .in else sysfsSetDirection e s gpio false

/-- `gpio_direction_output`: the value first for the mapped registers, last for sysfs. -/
def gpioDirectionOutput (e : DirEnv) (s : GpioSt) (gpio val : ℕ) : LrErrc × GpioSt :=
  if s.hndl.Mapped then
    let r := gpioSetValue e.writeVal s gpio val
    if r.1 = .success then gpioBcmSetFunc r.2 gpio .out else r
  else
    let r := sysfsSetDirection e s gpio true
    if r.1 = .success then gpioSetValue e.writeVal r.2 gpio val else r

/-! ### Exporting -/

/-- How the `write` to `export` or `unexport` ends: it is done, it fails with the error that says
that there is nothing to do (`EBUSY`, `EINVAL`), or it fails otherwise. -/
inductive ExportWrite
  | done
  | already
  | failed
  deriving DecidableEq, Repr

/-- The outcomes of the system calls of `sysfs_set_export`. -/
structure ExportEnv where
  openExp : Bool
  write : ExportWrite
  deriving DecidableEq, Repr

/-- `sysfs_set_export`. The kernel has nothing to do for a GPIO that is exported (or not) already,
whatever the outcome would have been. -/
def sysfsSetExport (e : ExportEnv) (s : GpioSt) (gpio : ℕ) (exp : Bool) : LrErrc × GpioSt :=
  if gpioNum ≤ gpio then (.invArg, s)
  else if !e.openExp then (.openErr, s)
  else match e.write with
    | .done =>
      if s.sysfs.exported gpio = exp then (.success, s)
      else (.success,
        { s with sysfs := if exp then s.sysfs.doExport gpio else s.sysfs.doUnexport gpio })
    | .already => (.success, s)
    | .failed => (.writeErr, s)

/-- `gpio_sysfs_export`. -/
def gpioSysfsExport (e : ExportEnv) (s : GpioSt) (gpio : ℕ) : LrErrc × GpioSt :=
  sysfsSetExport e s gpio true

/-- `gpio_sysfs_unexport`. -/
def gpioSysfsUnexport (e : ExportEnv) (s : GpioSt) (gpio : ℕ) : LrErrc × GpioSt :=
  sysfsSetExport e s gpio false

end Librasp
