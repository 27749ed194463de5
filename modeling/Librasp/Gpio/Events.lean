import Librasp.Foundation.Fields
import Librasp.Gpio.Pins

/-!
# `gpio.c`: functions and events in shared registers

Ten pins share a word of the function registers, and 32 pins a word of each of the six registers
that enable events. Both are changed by reading, modifying and writing a word.

`Owns` shares the bits of the registers out to the functions and event enables of the pins. No bit
has two owners (`Owns.unique`), and a call changes the bits of what it sets only (`bit_result`).

* A call is a `GpioRegCall`, with its arguments as they come: the GPIO may be one there is not,
  and the mask of events is any number.
* `GpioRegCall.value` is what a call sets a field to. The SYSFS driver sets events in the edge
  file and leaves the registers.
* `GpioField.get` is what the registers tell of a field, which rests on its bits alone
  (`get_congr`).

**Main result.** `gpioCalls_spec`, over any sequence of calls, by the rules of `Fields`: a field
tells what it was set to last, or what it told at first; all bits else stay; and a call writes to
none but the registers of its pin.
-/

namespace Librasp

/-! ### The model -/

/-- The events of `GPIO_EVENT_XXX`. -/
inductive GpioEvent
  | raising
  | falling
  | bcmHigh
  | bcmLow
  | bcmARaising
  | bcmAFalling
  deriving DecidableEq, Repr

namespace GpioEvent

/-- Its bit in a mask of events. -/
def flag : GpioEvent → ℕ
  | raising => 0x0001
  | falling => 0x0002
  | bcmHigh => 0x0004
  | bcmLow => 0x0008
  | bcmARaising => 0x0010
  | bcmAFalling => 0x0020

/-- The first of the two registers that enable it: `GPREN0`, `GPFEN0`, `GPHEN0`, `GPLEN0`,
`GPAREN0`, `GPAFEN0`. -/
def reg0 : GpioEvent → ℕ
  | raising => 0x004c
  | falling => 0x0058
  | bcmHigh => 0x0064
  | bcmLow => 0x0070
  | bcmARaising => 0x007c
  | bcmAFalling => 0x0088

/-- The other one: `GPREN1`, `GPFEN1`, `GPHEN1`, `GPLEN1`, `GPAREN1`, `GPAFEN1`. -/
def reg1 : GpioEvent → ℕ
  | raising => 0x0050
  | falling => 0x005c
  | bcmHigh => 0x0068
  | bcmLow => 0x0074
  | bcmARaising => 0x0080
  | bcmAFalling => 0x008c

/-- The events, in the order in which they are set. -/
def all : List GpioEvent := [raising, falling, bcmHigh, bcmLow, bcmARaising, bcmAFalling]

end GpioEvent

/-- `GPFSEL0` to `GPFSEL5`. -/
def gpfselRegs : List ℕ := [0x0000, 0x0004, 0x0008, 0x000c, 0x0010, 0x0014]

/-- `gpio_bcm_get_func`, with the number of the function written to `*p_func`, if any. -/
def gpioBcmGetFunc (s : GpioSt) (gpio : ℕ) : LrErrc × Option UInt32 :=
  if gpioNum ≤ gpio then (.invArg, none)
  else if s.hndl.gpioIo then
    (.success, some ((s.bcm.regs (gpfsel0 + 4 * (gpio / 10)) >>>
      UInt32.ofNat (3 * (gpio % 10))) &&& 7))
  else (.noinit, none)

/-- `__SET_P_REG` of `gpio_set_event`. -/
def setPReg (gpio event : ℕ) (s : GpioSt) (k : GpioEvent) : GpioSt :=
  let gpioBit : UInt32 := 1 <<< UInt32.ofNat (gpio % 32)
  let off := k.reg0 + 4 * (gpio / 32)
  let r := s.ioRead off
  if event &&& k.flag ≠ 0 then r.2.ioWrite off (r.1 ||| gpioBit)
  else r.2.ioWrite off (r.1 &&& ~~~gpioBit)

/-- The outcomes of `open` of the edge file, and of `write` to it. -/
structure EdgeEnv where
  openEdge : Bool
  writeEdge : Bool
  deriving DecidableEq, Repr

/-- What `sysfs_set_event` writes to the edge file for some events. -/
def sysfsEdge (event : ℕ) : Option String :=
  if event = 0 then some "none"
  else if event &&& GpioEvent.raising.flag ≠ 0 ∧ event &&& GpioEvent.falling.flag ≠ 0 then
    some "both"
  else if event &&& GpioEvent.raising.flag ≠ 0 then some "rising"
  else if event &&& GpioEvent.falling.flag ≠ 0 then some "falling"
  else none

/-- `sysfs_set_event`, with what is written to the edge file, if anything. -/
def sysfsSetEvent (e : EdgeEnv) (s : GpioSt) (gpio event : ℕ) : LrErrc × Option String :=
  if gpioNum ≤ gpio then (.invArg, none)
  else if !(e.openEdge && s.sysfs.exported gpio) then (.openErr, none)
  else
    match sysfsEdge event with
    | none => (.invArg, none)
    | some edge => if e.writeEdge then (.success, some edge) else (.writeErr, none)

/-- `gpio_set_event`; `bcmEvents` is `CONFIG_BCM_GPIO_EVENTS`. The edge file is the kernel's. -/
def gpioSetEvent (bcmEvents : Bool) (e : EdgeEnv) (s : GpioSt) (gpio event : ℕ) :
    LrErrc × GpioSt :=
  if gpioNum ≤ gpio then (.invArg, s)
  else if s.hndl.Mapped then
    if bcmEvents then (.success, GpioEvent.all.foldl (setPReg gpio event) s) else (.notSupp, s)
  else ((sysfsSetEvent e s gpio event).1, s)

/-! ### Who owns a bit -/

/-- What the calls set: the function of a pin, or the enable of an event for it. -/
inductive GpioField
  | func (gpio : ℕ)
  | event (gpio : ℕ) (k : GpioEvent)
  deriving DecidableEq, Repr

/-- The bits of a field: three in a word of the function registers, or one in a word of its event's
registers. -/
def GpioField.Owns : GpioField → ℕ → ℕ → Prop
  | func g, off, i =>
    g < gpioNum ∧ off = gpfsel0 + 4 * (g / 10) ∧ 3 * (g % 10) ≤ i ∧ i < 3 * (g % 10) + 3
  | event g k, off, i => g < gpioNum ∧ off = k.reg0 + 4 * (g / 32) ∧ i = g % 32

/-- The registers of the events are twelve bytes apart. -/
theorem GpioEvent.exists_reg0 (k : GpioEvent) : ∃ n, k.reg0 = 0x4c + 12 * n := by
  rcases k
  · exact ⟨0, rfl⟩
  · exact ⟨1, rfl⟩
  · exact ⟨2, rfl⟩
  · exact ⟨3, rfl⟩
  · exact ⟨4, rfl⟩
  · exact ⟨5, rfl⟩

theorem GpioEvent.reg0_inj {k k' : GpioEvent} (h : k.reg0 = k'.reg0) : k = k' := by
  rcases k <;> rcases k' <;> first | rfl | exact absurd h (by decide)

/-- The registers of two events do not meet. -/
theorem GpioEvent.reg0_add_inj {k k' : GpioEvent} {b b' : ℕ} (hb : b < 2) (hb' : b' < 2)
    (h : k.reg0 + 4 * b = k'.reg0 + 4 * b') : k = k' ∧ b = b' := by
  obtain ⟨n, hn⟩ := k.exists_reg0
  obtain ⟨n', hn'⟩ := k'.exists_reg0
  exact ⟨GpioEvent.reg0_inj (by omega), by omega⟩

/-- The registers of the events lie behind those of the functions. -/
theorem GpioEvent.le_reg0 (k : GpioEvent) : 0x4c ≤ k.reg0 := by rcases k <;> decide

theorem div_lt_two {g : ℕ} (hg : g < gpioNum) : g / 32 < 2 := by
  have h54 : gpioNum = 54 := rfl
  omega

/-- No bit has two owners. The registers of the functions lie before those of the events, those of
two events are apart, and within a word the pins have their own bits. -/
theorem GpioField.Owns.unique {f f' : GpioField} {off i : ℕ} (h : f.Owns off i)
    (h' : f'.Owns off i) : f = f' := by
  have h54 : gpioNum = 54 := rfl
  have hsel : gpfsel0 = 0 := rfl
  rcases f with g | ⟨g, k⟩ <;> rcases f' with g' | ⟨g', k'⟩
  · obtain ⟨hg, hoff, hlo, hhi⟩ := h
    obtain ⟨hg', hoff', hlo', hhi'⟩ := h'
    have heq : g = g' := by omega
    rw [heq]
  · obtain ⟨hg, hoff, -, -⟩ := h
    obtain ⟨hg', hoff', -⟩ := h'
    have hle := k'.le_reg0
    omega
  · obtain ⟨hg, hoff, -⟩ := h
    obtain ⟨hg', hoff', -, -⟩ := h'
    have hle := k.le_reg0
    omega
  · obtain ⟨hg, hoff, hi⟩ := h
    obtain ⟨hg', hoff', hi'⟩ := h'
    obtain ⟨rfl, hdiv⟩ := GpioEvent.reg0_add_inj (div_lt_two hg) (div_lt_two hg')
      (hoff.symm.trans hoff')
    have heq : g = g' := by omega
    rw [heq]

/-! ### The calls -/

/-- A call, with its arguments as they come. -/
inductive GpioRegCall
  | setFunc (gpio : ℕ) (func : GpioBcmFunc)
  | setEvent (gpio event : ℕ)
  deriving DecidableEq, Repr

namespace GpioRegCall

/-- The GPIO of a call. -/
def gpio : GpioRegCall → ℕ
  | setFunc g _ => g
  | setEvent g _ => g

/-- What a call returns, with `CONFIG_BCM_GPIO_EVENTS`, and the state after it. -/
def result (e : EdgeEnv) (s : GpioSt) : GpioRegCall → LrErrc × GpioSt
  | setFunc g func => gpioBcmSetFunc s g func
  | setEvent g event => gpioSetEvent true e s g event

/-- What a call sets a field of the registers to. The sysfs driver sets events in the edge file. -/
def value (c : GpioRegCall) (s : GpioSt) (f : GpioField) : Option UInt32 :=
  match c, f with
  | setFunc g func, .func g' => if g = g' ∧ g < gpioNum then some func.code else none
  | setEvent g event, .event g' k =>
    if g = g' ∧ g < gpioNum ∧ s.hndl.Mapped then some (if event &&& k.flag ≠ 0 then 1 else 0)
    else none
  | _, _ => none

/-- The registers that belong to the GPIO of a call: its function register, or for each event the
register of its bank. -/
def registers : GpioRegCall → List ℕ
  | setFunc g _ => [gpfselRegs.getD (g / 10) 0]
  | setEvent g _ => GpioEvent.all.map fun k => if g < 32 then k.reg0 else k.reg1

end GpioRegCall

/-- A handle with its mapping; the active driver may be the sysfs driver all the same. -/
structure IoSt where
  st : GpioSt
  io : st.hndl.gpioIo = true

/-- A bit of a register. -/
def Bcm.bit (b : Bcm) (off i : ℕ) : Bool := (b.regs off).toBitVec.getLsbD i

/-- What the registers tell of a field. -/
def GpioField.get : GpioField → GpioSt → UInt32
  | func g, s => s.bcm.func g
  | event g k, s => (s.bcm.regs (k.reg0 + 4 * (g / 32)) >>> UInt32.ofNat (g % 32)) &&& 1

section Words

theorem getLsbD_one_shl {n : ℕ} (hn : n < 32) (i : ℕ) :
    (1 <<< UInt32.ofNat n : UInt32).toBitVec.getLsbD i = decide (i = n) := by
  rw [getLsbD_shl _ hn, getLsbD_one]
  rcases lt_trichotomy i n with hlt | rfl | hlt
  · simp [hlt, hlt.ne]
  · simp [hn]
  · simp [hlt.ne', show i - n ≠ 0 by omega]

/-- A field of three bits is set: the bits of the word. -/
theorem getLsbD_setBitfld (v c : UInt32) {k : ℕ} (hk : k < 10) {i : ℕ}
    (hi : i < 3 * k ∨ 3 * k + 3 ≤ i) :
    (setBitfld v ((c &&& 7) <<< UInt32.ofNat (3 * k)) (7 <<< UInt32.ofNat (3 * k))).toBitVec.getLsbD
      i = v.toBitVec.getLsbD i := by
  rcases lt_or_ge i 32 with h32 | h32
  · have hout : i < 3 * k ∨ ¬ i - 3 * k < 3 := by omega
    rw [setBitfld, UInt32.toBitVec_or, BitVec.getLsbD_or, UInt32.toBitVec_and, BitVec.getLsbD_and,
      UInt32.toBitVec_not, BitVec.getLsbD_not, getLsbD_shl _ (by omega), getLsbD_shl _ (by omega),
      UInt32.toBitVec_and, BitVec.getLsbD_and, getLsbD_seven]
    rcases hout with hout | hout
    · simp [h32, hout]
    · simp [h32, hout]
  · rw [BitVec.getLsbD_of_ge _ _ h32, BitVec.getLsbD_of_ge _ _ h32]

/-- A bit is set or cleared in a word: the bits of the word. -/
theorem getLsbD_setBit (v : UInt32) {n : ℕ} (hn : n < 32) (i : ℕ) :
    (v ||| 1 <<< UInt32.ofNat n).toBitVec.getLsbD i =
      if i = n then true else v.toBitVec.getLsbD i := by
  rw [UInt32.toBitVec_or, BitVec.getLsbD_or, getLsbD_one_shl hn]
  split_ifs with h
  · simp [h]
  · simp [h]

theorem getLsbD_clearBit (v : UInt32) {n : ℕ} (hn : n < 32) (i : ℕ) :
    (v &&& ~~~(1 <<< UInt32.ofNat n)).toBitVec.getLsbD i =
      if i = n then false else v.toBitVec.getLsbD i := by
  rw [UInt32.toBitVec_and, BitVec.getLsbD_and, UInt32.toBitVec_not, BitVec.getLsbD_not,
    getLsbD_one_shl hn]
  rcases lt_or_ge i 32 with h32 | h32
  · split_ifs with h
    · simp [h]
    · simp [h, h32]
  · have hne : i ≠ n := by omega
    rw [BitVec.getLsbD_of_ge _ _ h32, if_neg hne, Bool.false_and]

/-- Fields that have the same bits are the same. -/
theorem field_congr {v w : UInt32} {k : ℕ} (hk : k < 10)
    (h : ∀ i, 3 * k ≤ i → i < 3 * k + 3 → v.toBitVec.getLsbD i = w.toBitVec.getLsbD i) :
    (v >>> UInt32.ofNat (3 * k)) &&& 7 = (w >>> UInt32.ofNat (3 * k)) &&& 7 := by
  refine UInt32.toBitVec_inj.mp (BitVec.eq_of_getLsbD_eq fun i _ => ?_)
  rw [UInt32.toBitVec_and, UInt32.toBitVec_and, BitVec.getLsbD_and, BitVec.getLsbD_and,
    getLsbD_shr _ (by omega), getLsbD_shr _ (by omega), getLsbD_seven]
  by_cases hi : i < 3
  · rw [h (3 * k + i) (by omega) (by omega)]
  · rw [decide_eq_false hi, Bool.and_false, Bool.and_false]

/-- A single bit, as a number. -/
theorem shr_and_one (v : UInt32) {n : ℕ} (hn : n < 32) :
    (v >>> UInt32.ofNat n) &&& 1 = if v.toBitVec.getLsbD n then 1 else 0 := by
  apply UInt32.toNat_inj.mp
  rw [toNat_and_one, getLsbD_shr _ hn, Nat.add_zero]
  rcases v.toBitVec.getLsbD n <;> rfl

end Words

section Calls

variable {s : GpioSt} {g event : ℕ}

theorem bit_ioWrite (hio : s.hndl.gpioIo = true) (off : ℕ) (v : UInt32) (off' i : ℕ) :
    (s.ioWrite off v).bcm.bit off' i =
      if off' = off then v.toBitVec.getLsbD i else s.bcm.bit off' i := by
  rw [ioWrite_of_mapping hio, Bcm.bit, Bcm.bit]
  dsimp only
  rw [Function.update_apply]
  split_ifs <;> rfl

/-- `__SET_P_REG` as a register write. -/
theorem setPReg_eq (hio : s.hndl.gpioIo = true) (g event : ℕ) (k : GpioEvent) :
    setPReg g event s k = s.ioWrite (k.reg0 + 4 * (g / 32))
      (if event &&& k.flag ≠ 0 then
        s.bcm.regs (k.reg0 + 4 * (g / 32)) ||| 1 <<< UInt32.ofNat (g % 32)
      else s.bcm.regs (k.reg0 + 4 * (g / 32)) &&& ~~~(1 <<< UInt32.ofNat (g % 32))) := by
  rw [setPReg]
  simp only [GpioSt.ioRead, if_pos hio]
  split_ifs <;> rfl

theorem hndl_setPReg (s : GpioSt) (g event : ℕ) (k : GpioEvent) :
    (setPReg g event s k).hndl = s.hndl := by
  rw [setPReg]
  split_ifs <;> rw [GpioSt.hndl_ioWrite, GpioSt.hndl_ioRead]

theorem writes_setPReg (hio : s.hndl.gpioIo = true) (g event : ℕ) (k : GpioEvent) :
    ∃ v, (setPReg g event s k).bcm.writes = s.bcm.writes ++ [(k.reg0 + 4 * (g / 32), v)] := by
  rw [setPReg_eq hio, ioWrite_of_mapping hio]
  exact ⟨_, rfl⟩

/-- One register of the event registers: the bit of the GPIO becomes the flag of the event, and no
other bit of any register changes. -/
theorem bit_setPReg (hio : s.hndl.gpioIo = true) (g event : ℕ) (k : GpioEvent) (off i : ℕ) :
    (setPReg g event s k).bcm.bit off i =
      if off = k.reg0 + 4 * (g / 32) ∧ i = g % 32 then decide (event &&& k.flag ≠ 0)
      else s.bcm.bit off i := by
  have hmod : g % 32 < 32 := Nat.mod_lt g (by decide)
  rw [setPReg_eq hio, bit_ioWrite hio]
  by_cases hoff : off = k.reg0 + 4 * (g / 32)
  · rw [if_pos hoff, hoff]
    by_cases hflag : event &&& k.flag ≠ 0
    · rw [if_pos hflag, getLsbD_setBit _ hmod]
      split_ifs <;> simp_all [Bcm.bit]
    · rw [if_neg hflag, getLsbD_clearBit _ hmod]
      split_ifs <;> simp_all [Bcm.bit]
  · rw [if_neg hoff, if_neg fun h => hoff h.1]

/-- The writes that set events: one for each, to the register of its bank, in the order in which
the source has them. -/
theorem writes_setPRegs (hio : s.hndl.gpioIo = true) (g event : ℕ) (ks : List GpioEvent) :
    ∃ ws, (ks.foldl (setPReg g event) s).bcm.writes = s.bcm.writes ++ ws ∧
      ws.map Prod.fst = ks.map fun k => k.reg0 + 4 * (g / 32) := by
  induction ks generalizing s with
  | nil => exact ⟨[], (List.append_nil _).symm, rfl⟩
  | cons k ks ih =>
    have hio' : (setPReg g event s k).hndl.gpioIo = true := by rwa [hndl_setPReg]
    obtain ⟨v, hv⟩ := writes_setPReg hio g event k
    obtain ⟨ws, hws, hregs⟩ := ih hio'
    refine ⟨(k.reg0 + 4 * (g / 32), v) :: ws, ?_, by rw [List.map_cons, List.map_cons, hregs]⟩
    rw [List.foldl_cons, hws, hv, List.append_assoc, List.singleton_append]

theorem hndl_setPRegs (s : GpioSt) (g event : ℕ) (ks : List GpioEvent) :
    (ks.foldl (setPReg g event) s).hndl = s.hndl := by
  induction ks generalizing s with
  | nil => rfl
  | cons k ks ih => exact (ih _).trans (hndl_setPReg s g event k)

/-- Bits that belong to none of the events are left. -/
theorem bit_setPRegs_of_ne (hio : s.hndl.gpioIo = true) (g event : ℕ) {ks : List GpioEvent}
    {off i : ℕ} (hne : ∀ k ∈ ks, ¬ (off = k.reg0 + 4 * (g / 32) ∧ i = g % 32)) :
    (ks.foldl (setPReg g event) s).bcm.bit off i = s.bcm.bit off i := by
  induction ks generalizing s with
  | nil => rfl
  | cons k ks ih =>
    have hio' : (setPReg g event s k).hndl.gpioIo = true := by rwa [hndl_setPReg]
    rw [List.foldl_cons, ih hio' fun k' hk' => hne k' (List.mem_cons_of_mem k hk'),
      bit_setPReg hio, if_neg (hne k List.mem_cons_self)]

/-- The bit of an event is its flag. Of the registers written the one of that event may be
anywhere, and the registers behind it are others. -/
theorem bit_setPRegs_of_mem (hio : s.hndl.gpioIo = true) (hg : g < gpioNum) (event : ℕ)
    {ks : List GpioEvent} {k : GpioEvent} (hk : k ∈ ks) :
    (ks.foldl (setPReg g event) s).bcm.bit (k.reg0 + 4 * (g / 32)) (g % 32) =
      decide (event &&& k.flag ≠ 0) := by
  induction ks generalizing s with
  | nil => exact absurd hk List.not_mem_nil
  | cons k' ks ih =>
    have hio' : (setPReg g event s k').hndl.gpioIo = true := by rwa [hndl_setPReg]
    rw [List.foldl_cons]
    by_cases hin : k ∈ ks
    · exact ih hio' hin
    · obtain rfl : k = k' := (List.mem_cons.mp hk).resolve_right hin
      -- the registers of the events behind are others
      have hne : ∀ k'' ∈ ks, ¬ (k.reg0 + 4 * (g / 32) = k''.reg0 + 4 * (g / 32) ∧
          g % 32 = g % 32) := by
        rintro k'' hk'' ⟨hreg, -⟩
        have heq := (GpioEvent.reg0_add_inj (div_lt_two hg) (div_lt_two hg) hreg).1
        exact hin (heq ▸ hk'')
      rw [bit_setPRegs_of_ne hio' g event hne, bit_setPReg hio, if_pos ⟨rfl, rfl⟩]

/-- Setting a function changes the bits of the pin's field only. -/
theorem bit_funcWrite (hio : s.hndl.gpioIo = true) (g : ℕ) (func : GpioBcmFunc) {off i : ℕ}
    (hne : ¬ (off = gpfsel0 + 4 * (g / 10) ∧ 3 * (g % 10) ≤ i ∧ i < 3 * (g % 10) + 3)) :
    (s.ioWrite (gpfsel0 + 4 * (g / 10)) (setBitfld (s.bcm.regs (gpfsel0 + 4 * (g / 10)))
        ((func.code &&& 7) <<< UInt32.ofNat (3 * (g % 10)))
        (7 <<< UInt32.ofNat (3 * (g % 10))))).bcm.bit off i = s.bcm.bit off i := by
  rw [bit_ioWrite hio]
  split_ifs with hoff
  · rw [getLsbD_setBitfld _ _ (Nat.mod_lt g (by decide)) (by omega), hoff, Bcm.bit]
  · rfl

end Calls

section Result

variable {s : GpioSt} (e : EdgeEnv) (c : GpioRegCall)

theorem hndl_result (s : GpioSt) : (c.result e s).2.hndl = s.hndl := by
  rcases c with ⟨g, func⟩ | ⟨g, event⟩
  · rw [GpioRegCall.result, gpioBcmSetFunc]
    split_ifs
    · rfl
    · exact GpioSt.hndl_ioWrite ..
    · rfl
  · rw [GpioRegCall.result, gpioSetEvent]
    split_ifs
    · rfl
    · exact hndl_setPRegs ..
    · rfl
    · rfl

/-- A call that sets an event through the registers. -/
theorem result_setEvent {g event : ℕ} (hg : g < gpioNum) (hm : s.hndl.Mapped) :
    (GpioRegCall.setEvent g event).result e s =
      (.success, GpioEvent.all.foldl (setPReg g event) s) := by
  rw [GpioRegCall.result, gpioSetEvent, if_neg (not_le.mpr hg), if_pos hm, if_pos rfl]

theorem result_setFunc {g : ℕ} (hg : g < gpioNum) (hio : s.hndl.gpioIo = true)
    (func : GpioBcmFunc) :
    (GpioRegCall.setFunc g func).result e s = (.success,
      s.ioWrite (gpfsel0 + 4 * (g / 10)) (setBitfld (s.bcm.regs (gpfsel0 + 4 * (g / 10)))
        ((func.code &&& 7) <<< UInt32.ofNat (3 * (g % 10)))
        (7 <<< UInt32.ofNat (3 * (g % 10))))) := by
  rw [GpioRegCall.result, gpioBcmSetFunc, if_neg (not_le.mpr hg), if_pos hio]

/-- A call that sets none of the fields changes nothing. -/
theorem result_of_value (h : ∀ f, c.value s f = none) :
    (c.result e s).2 = s := by
  rcases c with ⟨g, func⟩ | ⟨g, event⟩
  · have hg : gpioNum ≤ g := by
      by_contra hlt
      have hval := h (.func g)
      rw [GpioRegCall.value, if_pos ⟨rfl, not_le.mp hlt⟩] at hval
      exact absurd hval (Option.some_ne_none _)
    rw [GpioRegCall.result, gpioBcmSetFunc, if_pos hg]
  · have hnot : ¬ (g < gpioNum ∧ s.hndl.Mapped) := by
      intro hboth
      have hval := h (.event g .raising)
      rw [GpioRegCall.value, if_pos ⟨rfl, hboth⟩] at hval
      exact absurd hval (Option.some_ne_none _)
    rw [GpioRegCall.result, gpioSetEvent]
    by_cases hg : gpioNum ≤ g
    · rw [if_pos hg]
    · rw [if_neg hg, if_neg fun hm => hnot ⟨not_le.mp hg, hm⟩]

/-- A bit changes only if a field that owns it is set. This is where the words that are read,
modified and written are looked at bit by bit. -/
theorem bit_result (hio : s.hndl.gpioIo = true) {off i : ℕ}
    (h : ∀ f : GpioField, f.Owns off i → c.value s f = none) :
    (c.result e s).2.bcm.bit off i = s.bcm.bit off i := by
  rcases c with ⟨g, func⟩ | ⟨g, event⟩
  · by_cases hg : g < gpioNum
    · rw [result_setFunc e hg hio]
      refine bit_funcWrite hio g func fun hown => ?_
      have hval := h (.func g) ⟨hg, hown⟩
      rw [GpioRegCall.value, if_pos ⟨rfl, hg⟩] at hval
      exact absurd hval (Option.some_ne_none _)
    · rw [GpioRegCall.result, gpioBcmSetFunc, if_pos (not_lt.mp hg)]
  · by_cases hboth : g < gpioNum ∧ s.hndl.Mapped
    · rw [result_setEvent e hboth.1 hboth.2]
      refine bit_setPRegs_of_ne hio g event fun k _ hown => ?_
      have hval := h (.event g k) ⟨hboth.1, hown⟩
      rw [GpioRegCall.value, if_pos ⟨rfl, hboth⟩] at hval
      exact absurd hval (Option.some_ne_none _)
    · rw [result_of_value e]
      intro f
      rcases f with g' | ⟨g', k⟩
      · rfl
      · rw [GpioRegCall.value, if_neg fun hall => hboth hall.2]

/-- The calls that set a field, and what they set it to: `gpio_bcm_set_func` its function, and
`gpio_bcm_set_event`, through the mapping, each of the events of its GPIO. -/
theorem value_cases {f : GpioField} {v : UInt32} (h : c.value s f = some v) :
    (∃ g func, c = .setFunc g func ∧ f = .func g ∧ g < gpioNum ∧ v = func.code) ∨
      ∃ g event k, c = .setEvent g event ∧ f = .event g k ∧ g < gpioNum ∧ s.hndl.Mapped ∧
        v = if event &&& k.flag ≠ 0 then 1 else 0 := by
  rcases c with ⟨g, func⟩ | ⟨g, event⟩ <;> rcases f with g' | ⟨g', k⟩
  · rw [GpioRegCall.value] at h
    split_ifs at h with hg
    obtain ⟨rfl, hg⟩ := hg
    exact Or.inl ⟨g, func, rfl, rfl, hg, (Option.some.inj h).symm⟩
  · exact absurd h.symm (Option.some_ne_none v)
  · exact absurd h.symm (Option.some_ne_none v)
  · rw [GpioRegCall.value] at h
    split_ifs at h with hg hflag
    · obtain ⟨rfl, hg, hm⟩ := hg
      refine Or.inr ⟨g, event, k, rfl, rfl, hg, hm, ?_⟩
      rw [if_pos hflag]
      exact (Option.some.inj h).symm
    · obtain ⟨rfl, hg, hm⟩ := hg
      refine Or.inr ⟨g, event, k, rfl, rfl, hg, hm, ?_⟩
      rw [if_neg hflag]
      exact (Option.some.inj h).symm

/-- The computed addresses are those of the registers. -/
theorem gpfselRegs_getD {g : ℕ} (hg : g < gpioNum) :
    gpfselRegs.getD (g / 10) 0 = gpfsel0 + 4 * (g / 10) := by
  have h54 : gpioNum = 54 := rfl
  have hlt : g / 10 < 6 := by omega
  generalize g / 10 = n at hlt ⊢
  interval_cases n <;> rfl

theorem eventReg_eq {g : ℕ} (hg : g < gpioNum) (k : GpioEvent) :
    (if g < 32 then k.reg0 else k.reg1) = k.reg0 + 4 * (g / 32) := by
  have h54 : gpioNum = 54 := rfl
  have hreg1 : k.reg1 = k.reg0 + 4 := by rcases k <;> rfl
  split_ifs with hlow
  · rw [Nat.div_eq_of_lt hlow, Nat.mul_zero, Nat.add_zero]
  · rw [hreg1, show g / 32 = 1 by omega]

/-- A call that sets a field returns success; it writes to the registers of its pin. -/
theorem result_of_sets (hio : s.hndl.gpioIo = true) {f : GpioField} {v : UInt32}
    (h : c.value s f = some v) :
    (c.result e s).1 = .success ∧ ∃ ws, (c.result e s).2.bcm.writes = s.bcm.writes ++ ws ∧
      ws.map Prod.fst = c.registers := by
  obtain ⟨g, func, rfl, -, hg, -⟩ | ⟨g, event, k, rfl, -, hg, hm, -⟩ := value_cases c h
  · rw [result_setFunc e hg hio]
    refine ⟨rfl, ?_⟩
    rw [ioWrite_of_mapping hio, GpioRegCall.registers, gpfselRegs_getD hg]
    exact ⟨_, rfl, rfl⟩
  · rw [result_setEvent e hg hm]
    obtain ⟨ws, hws, hregs⟩ := writes_setPRegs hio g event GpioEvent.all
    refine ⟨rfl, ws, hws, hregs.trans ?_⟩
    rw [GpioRegCall.registers]
    exact List.map_congr_left fun k _ => (eventReg_eq hg k).symm

/-- The field that is set tells what it is set to. -/
theorem get_result_of_sets (hio : s.hndl.gpioIo = true) {f : GpioField} {v : UInt32}
    (h : c.value s f = some v) : f.get (c.result e s).2 = v := by
  obtain ⟨g, func, rfl, rfl, hg, rfl⟩ | ⟨g, event, k, rfl, rfl, hg, hm, rfl⟩ := value_cases c h
  · rw [result_setFunc e hg hio, GpioField.get]
    exact (func_setFunc hio g g func).trans (if_pos rfl)
  · have hall : k ∈ GpioEvent.all := by rcases k <;> decide
    have hbit := bit_setPRegs_of_mem hio hg event hall
    rw [result_setEvent e hg hm, GpioField.get, shr_and_one _ (Nat.mod_lt g (by decide))]
    rw [Bcm.bit] at hbit
    rw [hbit]
    by_cases hflag : event &&& k.flag ≠ 0
    · rw [if_pos hflag, if_pos (decide_eq_true hflag)]
    · rw [if_neg hflag, if_neg (by rw [decide_eq_false hflag]; exact Bool.false_ne_true)]

/-- The pin of a field. -/
def GpioField.gpio : GpioField → ℕ
  | func g => g
  | event g _ => g

/-- What is told of a field rests on its bits. -/
theorem GpioField.get_congr {f : GpioField} (hf : f.gpio < gpioNum) {t : GpioSt}
    (h : ∀ off i, f.Owns off i → s.bcm.bit off i = t.bcm.bit off i) : f.get s = f.get t := by
  rcases f with g | ⟨g, k⟩
  · rw [get, get, Bcm.func, Bcm.func]
    exact field_congr (Nat.mod_lt g (by decide)) fun i hlo hhi => h _ _ ⟨hf, rfl, hlo, hhi⟩
  · have hbit := h _ _ ⟨hf, rfl, rfl⟩
    rw [Bcm.bit, Bcm.bit] at hbit
    have hmod : g % 32 < 32 := Nat.mod_lt g (by decide)
    rw [get, get, shr_and_one _ hmod, shr_and_one _ hmod, hbit]

/-- A field that is not set is left. -/
theorem get_result_of_not_sets (hio : s.hndl.gpioIo = true) {f : GpioField}
    (hf : f.gpio < gpioNum) (h : c.value s f = none) : f.get (c.result e s).2 = f.get s := by
  refine GpioField.get_congr hf fun off i hown => bit_result e c hio fun f' hown' => ?_
  rw [hown'.unique hown]
  exact h

end Result

/-! ### Runs -/

/-- A call on a handle with its mapping. -/
def GpioRegCall.apply (e : EdgeEnv) (c : GpioRegCall) (s : IoSt) : IoSt :=
  ⟨(c.result e s.st).2, (congrArg GpioHndl.gpioIo (hndl_result e c s.st)).trans s.io⟩

/-- What it sets a field to. -/
def GpioRegCall.sets (c : GpioRegCall) (s : IoSt) (f : GpioField) : Option UInt32 := c.value s.st f

/-- What the calls set a field to last, if any of them does. -/
def lastField (e : EdgeEnv) (s : IoSt) (cs : List GpioRegCall) (f : GpioField) : Option UInt32 :=
  Fields.lastSet (GpioRegCall.apply e) GpioRegCall.sets s cs f

/-- **What a field tells** after any sequence of calls: what it was set to last, or what it told
at first if no call has set it. -/
theorem get_runCalls (e : EdgeEnv) (s : IoSt) (cs : List GpioRegCall) {f : GpioField}
    (hf : f.gpio < gpioNum) :
    f.get (Fields.run (GpioRegCall.apply e) s cs).st = (lastField e s cs f).getD (f.get s.st) := by
  have hset : ∀ (c : GpioRegCall) (t : IoSt) (v : UInt32), True → c.sets t f = some v →
      f.get (c.apply e t).st = id v := by
    intro c t v _ hv
    exact get_result_of_sets e c t.io hv
  have hframe : ∀ (c : GpioRegCall) (t : IoSt), True → c.sets t f = none →
      f.get (c.apply e t).st = f.get t.st := by
    intro c t _ hv
    exact get_result_of_not_sets e c t.io hf hv
  have hrun := Fields.get_run (fun t : IoSt => f.get t.st) id hset hframe s
    fun c (_ : c ∈ cs) => trivial
  rwa [Option.map_id] at hrun

/-- A bit is left if no call sets the field that owns it, if any. -/
theorem bit_runCalls (e : EdgeEnv) (s : IoSt) (cs : List GpioRegCall) {off i : ℕ}
    (h : ∀ f : GpioField, f.Owns off i → lastField e s cs f = none) :
    (Fields.run (GpioRegCall.apply e) s cs).st.bcm.bit off i = s.st.bcm.bit off i := by
  induction cs generalizing s with
  | nil => rfl
  | cons c cs ih =>
    have hboth : ∀ f : GpioField, f.Owns off i →
        lastField e (c.apply e s) cs f = none ∧ c.value s.st f = none := by
      intro f hown
      exact Option.or_eq_none_iff.mp (h f hown)
    rw [Fields.run, ih _ fun f hown => (hboth f hown).1]
    exact bit_result e c s.io fun f hown => (hboth f hown).2

/-- **Shared registers.** For a handle with its mapping and any calls: the function read for a pin
is the one last set, an event of a pin is enabled if the mask last set has it, and all bits else
stay. Each call that sets something writes to the registers of its own pin, and the others change
nothing; a GPIO that does not exist is refused. -/
theorem gpioCalls_spec (e : EdgeEnv) (s : IoSt) (cs : List GpioRegCall) :
    (∀ g < gpioNum, gpioBcmGetFunc (Fields.run (GpioRegCall.apply e) s cs).st g =
      (.success, some ((lastField e s cs (.func g)).getD (s.st.bcm.func g)))) ∧
    (∀ g < gpioNum, ∀ k : GpioEvent,
      GpioField.get (.event g k) (Fields.run (GpioRegCall.apply e) s cs).st =
        (lastField e s cs (.event g k)).getD (GpioField.get (.event g k) s.st)) ∧
    (∀ off i, (∀ f : GpioField, f.Owns off i → lastField e s cs f = none) →
      (Fields.run (GpioRegCall.apply e) s cs).st.bcm.bit off i = s.st.bcm.bit off i) ∧
    (∀ c : GpioRegCall, ∀ t : IoSt, (∃ f, c.value t.st f ≠ none) →
      (c.result e t.st).1 = .success ∧
        ∃ ws, (c.result e t.st).2.bcm.writes = t.st.bcm.writes ++ ws ∧
          ws.map Prod.fst = c.registers) ∧
    (∀ c : GpioRegCall, ∀ t : IoSt, (∀ f, c.value t.st f = none) → (c.result e t.st).2 = t.st) ∧
    (∀ c : GpioRegCall, ∀ t : IoSt, gpioNum ≤ c.gpio → c.result e t.st = (.invArg, t.st)) ∧
    ∀ g, gpioNum ≤ g → ∀ t : IoSt, gpioBcmGetFunc t.st g = (.invArg, none) := by
  refine ⟨fun g hg => ?_, fun g hg k => get_runCalls e s cs hg, fun off i => bit_runCalls e s cs,
    ?_, ?_, ?_, fun g hg t => if_pos hg⟩
  · rw [gpioBcmGetFunc, if_neg (not_le.mpr hg), if_pos (Fields.run _ s cs).io]
    have hget := get_runCalls e s cs (f := .func g) hg
    rw [GpioField.get, GpioField.get, Bcm.func, Bcm.func] at hget
    rw [Bcm.func, ← hget]
  · rintro c t ⟨f, hf⟩
    obtain ⟨v, hv⟩ := Option.ne_none_iff_exists'.mp hf
    exact result_of_sets e c t.io hv
  · intro c t h
    exact result_of_value e c h
  · intro c t hg
    rcases c with ⟨g, func⟩ | ⟨g, event⟩
    · exact if_pos hg
    · exact if_pos hg

end Librasp
