import Librasp.Common
import Librasp.Foundation.Run

/-!
# `spi.c`: SPI handles

The mode and the bit order of a device are set by an `ioctl` that writes the setting and one that
reads it back; the handle keeps a copy of both. The device has a single byte for the two: its bit 3
(`SPI_LSB_FIRST`) is the bit order, which `SPI_IOC_WR_LSB_FIRST` changes alone, and which
`SPI_IOC_WR_MODE` overwrites with the rest of the byte.

Three things part handle and device:

* The copy is made **before** the device is asked, so that it stays after a write that fails; and
  after a read-back that fails an error is reported for what the device has done.
* The copy is made from an argument that is wider than the byte the device gets.
* `spi_set_mode` sets the bit order of the device with the mode, and the handle keeps its own.

**Main results.** `spiGood_iff` has for each call the exact condition (`SpiOk`) under which handle
and device agree after it and an error has changed nothing, `inSync_spiInit_iff` that of
`spi_init`, and `each_spiGood_iff` is the same for every call of a run. The invariant is `SpiInv`:
the two agree, and the bit order of the handle is not lost in the byte it is sent in.
-/

namespace Librasp

/-! ### The model -/

/-- `SPI_USE_DEF`. -/
def spiUseDef : ℤ := -1

/-- `SPI_LSB_FIRST`, the bit of the mode byte for the bit order. -/
def spiLsbFirst : UInt8 := 0x08

/-- `spi_hndl_t`. -/
structure SpiHndl where
  fd : ℤ
  mode : ℤ
  lsbFirst : ℤ
  bitsPerWord : ℤ
  speedHz : UInt32
  delayUs : UInt32
  csChange : ℤ
  deriving DecidableEq, Repr

/-- The settings of the device itself, as its driver keeps them for an open file: one byte, of the
mode and the bit order. -/
structure Spidev where
  mode : UInt8
  deriving DecidableEq, Repr

/-- The bit order a mode byte tells: whether words go least significant bit first. -/
def lsbBit (mode : UInt8) : Bool := mode &&& spiLsbFirst ≠ 0

/-- `SPI_IOC_WR_MODE`: the whole byte. -/
def Spidev.wrMode (_ : Spidev) (mode : UInt8) : Spidev := ⟨mode⟩

/-- `SPI_IOC_WR_LSB_FIRST`: the one bit. -/
def Spidev.wrLsbFirst (d : Spidev) (on : Bool) : Spidev :=
  ⟨if on then d.mode ||| spiLsbFirst else d.mode &&& ~~~spiLsbFirst⟩

/-- A handle and the device it is opened for. -/
structure SpiSt where
  hndl : SpiHndl
  dev : Spidev
  deriving DecidableEq, Repr

/-- The outcome of the `ioctl` that writes a setting and of the one that reads it back. -/
structure SpiIoctl where
  wr : Bool
  rd : Bool
  deriving DecidableEq, Repr

/-- Both are granted. The read is not tried after a write that fails. -/
def SpiIoctl.ok (e : SpiIoctl) : Bool := e.wr && e.rd

/-- The result of a call, by the outcome of its `ioctl`s. -/
def SpiIoctl.ret (e : SpiIoctl) : LrErrc := if e.ok then .success else .ioctlErr

/-- `spi_set_mode`. -/
def spiSetMode (e : SpiIoctl) (s : SpiSt) (mode : ℤ) : LrErrc × SpiSt :=
  (e.ret, { hndl := { s.hndl with mode := mode }
            dev := if e.wr then s.dev.wrMode (UInt8.ofInt mode) else s.dev })

/-- `spi_set_lsb`. -/
def spiSetLsb (e : SpiIoctl) (s : SpiSt) (lsbFirst : ℤ) : LrErrc × SpiSt :=
  (e.ret, { hndl := { s.hndl with lsbFirst := lsbFirst }
            dev := if e.wr then s.dev.wrLsbFirst (u8 lsbFirst ≠ 0) else s.dev })

/-- `spi_set_bits_per_word`. -/
def spiSetBitsPerWord (e : SpiIoctl) (s : SpiSt) (bitsPerWord : ℤ) (withIoctl : Bool) :
    LrErrc × SpiSt :=
  (if withIoctl then e.ret else .success,
    { s with hndl := { s.hndl with bitsPerWord := bitsPerWord } })

/-- `spi_set_speed`. -/
def spiSetSpeed (e : SpiIoctl) (s : SpiSt) (speedHz : UInt32) (withIoctl : Bool) :
    LrErrc × SpiSt :=
  (if withIoctl then e.ret else .success, { s with hndl := { s.hndl with speedHz := speedHz } })

/-- `spi_free`. -/
def spiFree (s : SpiSt) : SpiSt := { s with hndl := { s.hndl with fd := -1 } }

/-- The arguments of `spi_init`, less the numbers of the device and of its chip select. -/
structure SpiArgs where
  mode : ℤ
  lsbFirst : ℤ
  bitsPerWord : ℤ
  speedHz : UInt32
  delayUs : UInt32
  csChange : ℤ

/-- An argument, or its default for `SPI_USE_DEF`. -/
def spiDef (z dflt : ℤ) : ℤ := if z = spiUseDef then dflt else z

/-- `spiDef` for unsigned arguments: -1 converts to the largest. -/
def spiDefU (u dflt : UInt32) : UInt32 := if u = 0xffffffff then dflt else u

/-- What `spi_init` meets: the descriptor `open` returns, if it does not fail, and the outcome of
the `ioctl`s of the four settings. -/
structure SpiInitEnv where
  fd : Option ℕ
  mode : SpiIoctl
  lsb : SpiIoctl
  bits : SpiIoctl
  speed : SpiIoctl

/-- `EXEC_RG` of `spi_init`: on with a call that succeeded, else to `finish`. -/
def spiExecRg (r : LrErrc × SpiSt) (next : SpiSt → LrErrc × SpiSt) : LrErrc × SpiSt :=
  if r.1 = .success then next r.2 else (r.1, spiFree r.2)

/-- `spi_init`, for a device with the settings `dev`. -/
def spiInit (e : SpiInitEnv) (dev : Spidev) (a : SpiArgs) : LrErrc × SpiSt :=
  match e.fd with
  | none => (.openErr, ⟨⟨-1, 0, 0, 0, 0, 0, 0⟩, dev⟩)
  | some fd =>
    spiExecRg (spiSetMode e.mode ⟨⟨fd, 0, 0, 0, 0, 0, 0⟩, dev⟩ (spiDef a.mode 0)) fun s =>
    spiExecRg (spiSetLsb e.lsb s (spiDef a.lsbFirst 0)) fun s =>
    spiExecRg (spiSetBitsPerWord e.bits s (spiDef a.bitsPerWord 8) true) fun s =>
    spiExecRg (spiSetSpeed e.speed s (spiDefU a.speedHz 1000000) true) fun s =>
    (.success, { s with hndl := { s.hndl with
      delayUs := spiDefU a.delayUs 0, csChange := spiDef a.csChange 0 } })

/-! ### Runs -/

/-- A call on an open handle, with the outcome of its `ioctl`s. -/
inductive SpiCall
  | setMode (e : SpiIoctl) (mode : ℤ)
  | setLsb (e : SpiIoctl) (lsbFirst : ℤ)
  deriving DecidableEq, Repr

/-- What a call does. -/
def SpiCall.exec (s : SpiSt) : SpiCall → LrErrc × SpiSt
  | setMode e mode => spiSetMode e s mode
  | setLsb e lsbFirst => spiSetLsb e s lsbFirst

/-- The calls as a transition system. -/
def spiStep (s : SpiSt) (c : SpiCall) : Option SpiSt := some (c.exec s).2

/-- The handle tells the settings of the device. Its mode is the mode byte, with or without the bit
order in it, which the handle has in a field of its own. -/
structure SpiSt.InSync (s : SpiSt) : Prop where
  mode : s.hndl.mode = s.dev.mode.toNat ∨ s.hndl.mode = (s.dev.mode &&& ~~~spiLsbFirst).toNat
  lsbFirst : s.hndl.lsbFirst ≠ 0 ↔ lsbBit s.dev.mode = true

/-- A call is as it should be: handle and device agree after it, and a call that reports an error
has changed nothing. -/
def SpiGood (s : SpiSt) (c : SpiCall) (s' : SpiSt) : Prop :=
  s'.InSync ∧ ((c.exec s).1 = .ioctlErr → s' = s)

/-- The argument is one the device can be set to. -/
def FitsMode (mode : ℤ) : Prop := u8 mode = mode

instance (mode : ℤ) : Decidable (FitsMode mode) := inferInstanceAs (Decidable (u8 mode = mode))

/-- The argument keeps its truth value as a byte. -/
def FitsLsb (lsbFirst : ℤ) : Prop := lsbFirst ≠ 0 → u8 lsbFirst ≠ 0

instance (lsbFirst : ℤ) : Decidable (FitsLsb lsbFirst) :=
  inferInstanceAs (Decidable (lsbFirst ≠ 0 → u8 lsbFirst ≠ 0))

/-- The bit order a mode argument brings with it. -/
def modeLsb (mode : ℤ) : Bool := lsbBit (UInt8.ofInt mode)

/-- When a call is as it should be. If its write is granted, the argument fits, the mode and the
bit order do not contradict each other, and the read-back is granted too or nothing was to change;
if the write is not granted, nothing was to change. -/
def SpiOk (s : SpiSt) : SpiCall → Prop
  | .setMode e mode =>
    if e.wr then (e.rd = true ∨ mode = s.hndl.mode) ∧ FitsMode mode ∧
      (s.hndl.lsbFirst ≠ 0 ↔ modeLsb mode = true)
    else mode = s.hndl.mode
  | .setLsb e lsbFirst =>
    if e.wr then (e.rd = true ∨ lsbFirst = s.hndl.lsbFirst) ∧ FitsLsb lsbFirst ∧
      (modeLsb s.hndl.mode = true → lsbFirst ≠ 0)
    else lsbFirst = s.hndl.lsbFirst

/-- When the settings of `spi_init` are what handle and device both have after it. -/
def SpiArgs.Fits (a : SpiArgs) : Prop :=
  FitsMode (spiDef a.mode 0) ∧ FitsLsb (spiDef a.lsbFirst 0) ∧
    (modeLsb (spiDef a.mode 0) = true → spiDef a.lsbFirst 0 ≠ 0)

/-- Handle and device agree, and the bit order of the handle is not lost in a byte. -/
structure SpiInv (s : SpiSt) : Prop where
  inSync : s.InSync
  fitsLsb : FitsLsb s.hndl.lsbFirst

/-! ### The mode byte -/

theorem lsbBit_or : ∀ v : UInt8, lsbBit (v ||| spiLsbFirst) = true := by
  rintro ⟨⟨v⟩⟩
  revert v
  decide +kernel

theorem lsbBit_and : ∀ v : UInt8, lsbBit (v &&& ~~~spiLsbFirst) = false := by
  rintro ⟨⟨v⟩⟩
  revert v
  decide +kernel

theorem or_of_lsbBit : ∀ v : UInt8, lsbBit v = true → v ||| spiLsbFirst = v := by
  rintro ⟨⟨v⟩⟩
  revert v
  decide +kernel

theorem and_of_lsbBit : ∀ v : UInt8, lsbBit v = false → v &&& ~~~spiLsbFirst = v := by
  rintro ⟨⟨v⟩⟩
  revert v
  decide +kernel

theorem or_and_spiLsbFirst : ∀ v : UInt8,
    (v ||| spiLsbFirst) &&& ~~~spiLsbFirst = v &&& ~~~spiLsbFirst := by
  rintro ⟨⟨v⟩⟩
  revert v
  decide +kernel

theorem u8_zero : u8 0 = 0 := rfl

theorem toNat_ofInt (z : ℤ) : ((UInt8.ofInt z).toNat : ℤ) = u8 z := by
  rw [UInt8.ofInt, u8, UInt8.toNat_ofNat']
  omega

theorem ofInt_toNat (v : UInt8) : UInt8.ofInt (v.toNat : ℤ) = v := by
  apply UInt8.toNat_inj.mp
  have hv := v.toNat_lt
  have h := toNat_ofInt v.toNat
  rw [u8] at h
  omega

theorem fitsMode_toNat (v : UInt8) : FitsMode (v.toNat : ℤ) := by
  rw [FitsMode, ← toNat_ofInt, ofInt_toNat]

theorem FitsMode.toNat_eq {mode : ℤ} (h : FitsMode mode) :
    mode = (UInt8.ofInt mode).toNat := by
  rw [toNat_ofInt, h]

/-- A truth value that fits is kept by the byte it is sent in. -/
theorem FitsLsb.iff {lsbFirst : ℤ} (h : FitsLsb lsbFirst) : u8 lsbFirst ≠ 0 ↔ lsbFirst ≠ 0 := by
  refine ⟨fun hu h0 => hu ?_, h⟩
  rw [h0, u8_zero]

namespace Spidev

variable (d : Spidev)

theorem lsbBit_wrLsbFirst (on : Bool) : lsbBit (d.wrLsbFirst on).mode = on := by
  cases on
  · exact lsbBit_and d.mode
  · exact lsbBit_or d.mode

/-- Setting the bit order leaves the rest of the byte. -/
theorem wrLsbFirst_and (on : Bool) :
    (d.wrLsbFirst on).mode &&& ~~~spiLsbFirst = d.mode &&& ~~~spiLsbFirst := by
  cases on
  · exact and_of_lsbBit _ (lsbBit_and d.mode)
  · exact or_and_spiLsbFirst d.mode

/-- The bit order the device has already changes nothing. -/
theorem wrLsbFirst_self {on : Bool} (h : lsbBit d.mode = on) : d.wrLsbFirst on = d := by
  subst h
  rcases hd : lsbBit d.mode with _ | _
  · exact congrArg mk (and_of_lsbBit _ hd)
  · exact congrArg mk (or_of_lsbBit _ hd)

end Spidev

section Proofs

variable {s : SpiSt}

/-! ### One call -/

theorem SpiIoctl.ret_eq_success (e : SpiIoctl) : e.ret = .success ↔ e.ok = true := by
  rw [SpiIoctl.ret]
  split_ifs with h <;> simp [h]

theorem SpiIoctl.wr_of_ok {e : SpiIoctl} (h : e.ok = true) : e.wr = true :=
  (Bool.and_eq_true_iff.mp h).1

/-- The mode of a handle that agrees with its device is that of the device, unless it leaves out
the bit order. -/
theorem SpiSt.InSync.ofInt_mode (hs : s.InSync) :
    UInt8.ofInt s.hndl.mode = s.dev.mode ∨
      UInt8.ofInt s.hndl.mode = s.dev.mode &&& ~~~spiLsbFirst := by
  rcases hs.mode with h | h
  · exact Or.inl (by rw [h, ofInt_toNat])
  · exact Or.inr (by rw [h, ofInt_toNat])

/-- What agrees with a byte fits one. -/
theorem SpiSt.InSync.fitsMode (hs : s.InSync) : FitsMode s.hndl.mode := by
  rcases hs.mode with h | h
  · rw [h]
    exact fitsMode_toNat _
  · rw [h]
    exact fitsMode_toNat _

/-- Where the mode of the handle tells the same bit order as the handle does, it is the byte of the
device. -/
theorem SpiSt.InSync.ofInt_mode_eq (hs : s.InSync)
    (hlsb : s.hndl.lsbFirst ≠ 0 ↔ modeLsb s.hndl.mode = true) :
    UInt8.ofInt s.hndl.mode = s.dev.mode := by
  rcases hs.ofInt_mode with h | h
  · exact h
  · have hclear : modeLsb s.hndl.mode = false := by rw [modeLsb, h, lsbBit_and]
    have hdev : lsbBit s.dev.mode = false := by
      rw [← Bool.not_eq_true, ← hs.lsbFirst, hlsb, hclear]
      decide
    rw [h, and_of_lsbBit _ hdev]

/-- A handle set to `mode` on a device that got it agrees with the device if and only if the mode
fits and brings the bit order of the handle with it. -/
theorem inSync_wrMode_iff (mode : ℤ) :
    SpiSt.InSync ⟨{ s.hndl with mode := mode }, s.dev.wrMode (UInt8.ofInt mode)⟩ ↔
      FitsMode mode ∧ (s.hndl.lsbFirst ≠ 0 ↔ modeLsb mode = true) := by
  constructor
  · intro h
    exact ⟨h.fitsMode, h.lsbFirst⟩
  · rintro ⟨hfit, hlsb⟩
    exact ⟨Or.inl hfit.toNat_eq, hlsb⟩

/-- A handle whose device got the bit order with what is left of the argument in a byte. -/
theorem inSync_wrLsbFirst_iff {hndl : SpiHndl} {dev : Spidev}
    (hmode : hndl.mode = dev.mode.toNat ∨ hndl.mode = (dev.mode &&& ~~~spiLsbFirst).toNat)
    (lsbFirst : ℤ) :
    SpiSt.InSync ⟨{ hndl with lsbFirst := lsbFirst }, dev.wrLsbFirst (u8 lsbFirst ≠ 0)⟩ ↔
      FitsLsb lsbFirst ∧ (modeLsb hndl.mode = true → lsbFirst ≠ 0) := by
  have hbit : lsbBit (dev.wrLsbFirst (u8 lsbFirst ≠ 0)).mode = true ↔ u8 lsbFirst ≠ 0 := by
    rw [Spidev.lsbBit_wrLsbFirst, decide_eq_true_iff]
  constructor
  · rintro ⟨hm, hlsb⟩
    refine ⟨fun h => hbit.mp (hlsb.mp h), fun hl => hlsb.mpr ?_⟩
    -- A mode with the bit order in it is the whole byte.
    rcases hm with h | h
    · rwa [modeLsb, show hndl.mode = _ from h, ofInt_toNat] at hl
    · rw [modeLsb, show hndl.mode = _ from h, ofInt_toNat, lsbBit_and] at hl
      exact absurd hl (by decide)
  · rintro ⟨hfit, hl⟩
    refine ⟨?_, hfit.iff.symm.trans hbit.symm⟩
    rcases hmode with h | h
    · -- The mode of the handle was the whole byte before.
      rcases hdev : lsbBit dev.mode with _ | _
      · refine Or.inr ?_
        rw [Spidev.wrLsbFirst_and, and_of_lsbBit _ hdev]
        exact h
      · have hon : u8 lsbFirst ≠ 0 := by
          refine hfit.iff.mpr (hl ?_)
          rw [modeLsb, h, ofInt_toNat, hdev]
        refine Or.inl ?_
        rw [Spidev.wrLsbFirst_self]
        · exact h
        · rw [hdev, decide_eq_true hon]
    · exact Or.inr (by rw [Spidev.wrLsbFirst_and]; exact h)

/-- A mode the handle has already changes nothing, if it tells the bit order too or the device does
not get it. -/
theorem spiSetMode_self (hs : s.InSync) {e : SpiIoctl}
    (h : e.wr = true → (s.hndl.lsbFirst ≠ 0 ↔ modeLsb s.hndl.mode = true)) :
    (spiSetMode e s s.hndl.mode).2 = s := by
  have hdev : (if e.wr then s.dev.wrMode (UInt8.ofInt s.hndl.mode) else s.dev) = s.dev := by
    split_ifs with hwr
    · exact congrArg Spidev.mk (hs.ofInt_mode_eq (h hwr))
    · rfl
  rw [spiSetMode, hdev]

/-- A bit order the handle has already changes nothing, whatever becomes of the call. -/
theorem spiSetLsb_self (hs : SpiInv s) (e : SpiIoctl) :
    (spiSetLsb e s s.hndl.lsbFirst).2 = s := by
  have hbool : lsbBit s.dev.mode = decide (u8 s.hndl.lsbFirst ≠ 0) := by
    rw [Bool.eq_iff_iff, decide_eq_true_iff, ← hs.inSync.lsbFirst, hs.fitsLsb.iff]
  have hdev : (if e.wr then s.dev.wrLsbFirst (u8 s.hndl.lsbFirst ≠ 0) else s.dev) = s.dev := by
    rw [Spidev.wrLsbFirst_self _ hbool, ite_self]
  rw [spiSetLsb, hdev]

/-- Setting the mode is as it should be exactly under its condition. -/
theorem spiGood_setMode_iff (hs : SpiInv s) (e : SpiIoctl) (mode : ℤ) :
    SpiGood s (.setMode e mode) (spiSetMode e s mode).2 ↔ SpiOk s (.setMode e mode) := by
  rcases e with ⟨wr, rd⟩
  cases wr with
  | false =>
    -- The device is not reached: nothing may change, and so the handle has the mode already.
    rw [SpiOk, if_neg Bool.false_ne_true]
    constructor
    · rintro ⟨-, herr⟩
      exact congrArg (fun s => s.hndl.mode) (herr rfl)
    · rintro rfl
      rw [spiSetMode_self hs.inSync fun h => absurd h Bool.false_ne_true]
      exact ⟨hs.inSync, fun _ => rfl⟩
  | true =>
    rw [SpiOk, if_pos rfl]
    have hsync : (spiSetMode ⟨true, rd⟩ s mode).2.InSync ↔ _ := inSync_wrMode_iff (s := s) mode
    rw [SpiGood, hsync]
    constructor
    · rintro ⟨hfit, herr⟩
      refine ⟨?_, hfit⟩
      cases rd
      · exact Or.inr (congrArg (fun s => s.hndl.mode) (herr rfl))
      · exact Or.inl rfl
    · rintro ⟨hrd, hfit⟩
      refine ⟨hfit, fun herr => ?_⟩
      rcases hrd with rfl | rfl
      · exact absurd herr LrErrc.noConfusion
      · exact spiSetMode_self hs.inSync fun _ => hfit.2

/-- Setting the bit order is as it should be exactly under its condition. -/
theorem spiGood_setLsb_iff (hs : SpiInv s) (e : SpiIoctl) (lsbFirst : ℤ) :
    SpiGood s (.setLsb e lsbFirst) (spiSetLsb e s lsbFirst).2 ↔ SpiOk s (.setLsb e lsbFirst) := by
  rcases e with ⟨wr, rd⟩
  cases wr with
  | false =>
    rw [SpiOk, if_neg Bool.false_ne_true]
    constructor
    · rintro ⟨-, herr⟩
      exact congrArg (fun s => s.hndl.lsbFirst) (herr rfl)
    · rintro rfl
      rw [spiSetLsb_self hs]
      exact ⟨hs.inSync, fun _ => rfl⟩
  | true =>
    rw [SpiOk, if_pos rfl]
    have hsync : (spiSetLsb ⟨true, rd⟩ s lsbFirst).2.InSync ↔ _ :=
      inSync_wrLsbFirst_iff hs.inSync.mode lsbFirst
    rw [SpiGood, hsync]
    constructor
    · rintro ⟨hfit, herr⟩
      refine ⟨?_, hfit⟩
      cases rd
      · exact Or.inr (congrArg (fun s => s.hndl.lsbFirst) (herr rfl))
      · exact Or.inl rfl
    · rintro ⟨hrd, hfit⟩
      refine ⟨hfit, fun herr => ?_⟩
      rcases hrd with rfl | rfl
      · exact absurd herr LrErrc.noConfusion
      · exact spiSetLsb_self hs _

/-- A call is as it should be exactly under its condition. -/
theorem spiGood_iff (hs : SpiInv s) (c : SpiCall) : SpiGood s c (c.exec s).2 ↔ SpiOk s c := by
  rcases c with ⟨e, mode⟩ | ⟨e, lsbFirst⟩
  · exact spiGood_setMode_iff hs e mode
  · exact spiGood_setLsb_iff hs e lsbFirst

/-- The invariant is kept by the calls that meet the condition. -/
theorem spiInv_step (hs : SpiInv s) {c : SpiCall} (hok : SpiOk s c) : SpiInv (c.exec s).2 := by
  refine ⟨((spiGood_iff hs c).mpr hok).1, ?_⟩
  rcases c with ⟨e, mode⟩ | ⟨e, lsbFirst⟩
  · exact hs.fitsLsb
  · rw [SpiOk] at hok
    split_ifs at hok
    · exact hok.2.1
    · exact hok ▸ hs.fitsLsb

/-! ### `spi_init` and runs -/

theorem spiExecRg_success {r : LrErrc × SpiSt} {next : SpiSt → LrErrc × SpiSt} {s : SpiSt}
    (h : spiExecRg r next = (.success, s)) : r.1 = .success ∧ next r.2 = (.success, s) := by
  rw [spiExecRg] at h
  split_ifs at h with hr
  · exact ⟨hr, h⟩
  · exact absurd (congrArg Prod.fst h) hr

/-- After a successful `spi_init` the handle has the mode and the bit order asked for, and the
device what is left of them in a byte. -/
theorem spiInit_success {e : SpiInitEnv} {dev : Spidev} {a : SpiArgs} {s : SpiSt}
    (h : spiInit e dev a = (.success, s)) :
    s.hndl.mode = spiDef a.mode 0 ∧ s.hndl.lsbFirst = spiDef a.lsbFirst 0 ∧
      s.dev = (dev.wrMode (UInt8.ofInt (spiDef a.mode 0))).wrLsbFirst
        (u8 (spiDef a.lsbFirst 0) ≠ 0) := by
  rcases e with ⟨_ | fd, emode, elsb, ebits, espeed⟩
  · exact absurd (congrArg Prod.fst h) LrErrc.noConfusion
  dsimp only [spiInit] at h
  obtain ⟨hmode, h⟩ := spiExecRg_success h
  obtain ⟨hlsb, h⟩ := spiExecRg_success h
  obtain ⟨-, h⟩ := spiExecRg_success h
  obtain ⟨-, h⟩ := spiExecRg_success h
  have hm : emode.wr = true := SpiIoctl.wr_of_ok (emode.ret_eq_success.mp hmode)
  have hl : elsb.wr = true := SpiIoctl.wr_of_ok (elsb.ret_eq_success.mp hlsb)
  rw [← (Prod.mk.inj h).2]
  simp only [spiSetSpeed, spiSetBitsPerWord, spiSetLsb, spiSetMode, hm, hl, if_true, and_self]

/-- After a successful `spi_init` handle and device agree exactly if its arguments fit. -/
theorem inSync_spiInit_iff {e : SpiInitEnv} {dev : Spidev} {a : SpiArgs} {s : SpiSt}
    (h : spiInit e dev a = (.success, s)) : s.InSync ↔ a.Fits := by
  obtain ⟨hmode, hlsb, hdev⟩ := spiInit_success h
  have hs : (⟨{ s.hndl with lsbFirst := spiDef a.lsbFirst 0 },
      (dev.wrMode (UInt8.ofInt (spiDef a.mode 0))).wrLsbFirst (u8 (spiDef a.lsbFirst 0) ≠ 0)⟩ :
      SpiSt) = s := by
    rw [← hdev, ← hlsb]
  have hsync (hfit : FitsMode (spiDef a.mode 0)) : s.InSync ↔ FitsLsb (spiDef a.lsbFirst 0) ∧
      (modeLsb (spiDef a.mode 0) = true → spiDef a.lsbFirst 0 ≠ 0) := by
    have hiff := inSync_wrLsbFirst_iff (Or.inl (hmode.trans hfit.toNat_eq) :
      s.hndl.mode = (dev.wrMode (UInt8.ofInt (spiDef a.mode 0))).mode.toNat ∨ _)
      (spiDef a.lsbFirst 0)
    rwa [hs, hmode] at hiff
  constructor
  · intro h
    have hfit := hmode ▸ h.fitsMode
    exact ⟨hfit, (hsync hfit).mp h⟩
  · intro h
    exact (hsync h.1).mpr h.2

theorem spiInv_spiInit {e : SpiInitEnv} {dev : Spidev} {a : SpiArgs} {s : SpiSt}
    (h : spiInit e dev a = (.success, s)) (ha : a.Fits) : SpiInv s := by
  refine ⟨(inSync_spiInit_iff h).mpr ha, ?_⟩
  rw [(spiInit_success h).2.1]
  exact ha.2.1

/-- In a run from a handle that agrees with its device, every call is as it should be exactly if
every call meets its condition. -/
theorem each_spiGood_iff (hs : SpiInv s) (cs : List SpiCall) :
    Run.Each spiStep SpiGood s cs ↔ Run.Meets spiStep SpiOk s cs := by
  refine Run.each_iff_meets (I := SpiInv) ?_ ?_ hs cs
  · intro s c hs
    refine ⟨fun hok s' h => ?_, fun h => (spiGood_iff hs c).mp (h _ rfl)⟩
    rw [← Option.some.inj h]
    exact (spiGood_iff hs c).mpr hok
  · intro s c s' hs hok h
    rw [← Option.some.inj h]
    exact spiInv_step hs hok

end Proofs

end Librasp
