import Librasp.Gpio.Driver

/-!
# What the pins do

A pin is driven, low or high, or it is released (`GpioSt.drives`). With the mapped registers this
is told by the function of the pin and by the output latch, which keeps the last value set; with
sysfs by direction and value. This is what a circuit sees of a handle, and the devices of the
library are verified against it, whichever driver they are used with.

For each call there is one statement of what it does to the pins (`PinCall`). A call that fails
leaves them alone, except `gpio_direction_output` with sysfs: it drives the pin first, and then
fails to set the value (`PinsOutput`).

* The output latch is not a register that is read: it is told by the last write to a set or clear
  register that has the bit of the pin (`latch`).
* Reading a value samples the line of a released pin, and gives the level of one that is driven
  (`gpioGetValue_sample`).
* `PinInv` is what these statements ask of a handle, and what every call keeps: the mapping its
  driver needs is there, and a descriptor is kept under its own GPIO.
-/

namespace Librasp

/-! ### The pins -/

/-- The function of a GPIO, in its three bits. -/
def Bcm.func (b : Bcm) (g : ℕ) : UInt32 :=
  (b.regs (gpfsel0 + 4 * (g / 10)) >>> UInt32.ofNat (3 * (g % 10))) &&& 7

/-- A write to `GPSET0` or `GPCLR0` that concerns a GPIO. -/
def sets (off g : ℕ) (w : ℕ × UInt32) : Bool :=
  w.1 = off + 4 * (g / 32) ∧ w.2.toBitVec.getLsbD (g % 32) = true

/-- The output latch of a GPIO, by the writes so far. -/
def latch (g : ℕ) : List (ℕ × UInt32) → Bool :=
  List.foldl (fun l w => if sets gpset0 g w then true else if sets gpclr0 g w then false else l)
    false

/-- What a pin does: it is driven low or high, or released. -/
def GpioSt.drives (s : GpioSt) (g : ℕ) : Option Bool :=
  if gpioNum ≤ g then none
  else if s.hndl.Mapped then
    if s.bcm.func g = GpioBcmFunc.out.code then some (latch g s.bcm.writes) else none
  else if s.sysfs.out g then some (s.sysfs.level g) else none

/-- The word of some bits. -/
def wordOf (bit : ℕ → Bool) : ℕ → UInt32
  | 0 => 0
  | j + 1 => if bit j then wordOf bit j ||| 1 <<< UInt32.ofNat j else wordOf bit j

/-- A word of a level register: what is driven, and for a released pin what its line tells. -/
def Bcm.levels (b : Bcm) (line : ℕ → Bool) (i : ℕ) : UInt32 :=
  wordOf (fun j => let g := 32 * i + j
    if b.func g = GpioBcmFunc.out.code then latch g b.writes else line g) 32

/-- The levels are sampled: a released pin takes the level of its line. -/
def GpioSt.sample (s : GpioSt) (line : ℕ → Bool) : GpioSt :=
  { s with
    bcm := { s.bcm with
      regs := Function.update (Function.update s.bcm.regs gplev0 (s.bcm.levels line 0))
        (gplev0 + 4) (s.bcm.levels line 1) }
    sysfs := { s.sysfs with
      level := fun g => if s.sysfs.out g then s.sysfs.level g else line g } }

/-- What holds of a handle in use: the mapping its driver needs is there, and a descriptor is kept
under its own GPIO. -/
structure PinInv (s : GpioSt) : Prop where
  mapped : s.hndl.Mapped → s.hndl.gpioIo = true
  own : ∀ g fd, s.hndl.valfds g = some fd → fd.gpio = g

/-- A handle is in order from `gpio_init` on, whatever comes of it. -/
theorem pinInv_gpioInit (e : MapEnv) (drv : Option GpioDriver) (bcm : Bcm) (k : Sysfs) :
    PinInv ⟨(gpioInit e drv).2, bcm, k⟩ := by
  have hmapped : (gpioInit e drv).2.Mapped → (gpioInit e drv).2.gpioIo = true := by
    rw [gpioInit, gpioSetDriver]
    rcases drv.getD .io with _ | _ | _ <;> rcases e with ⟨_ | _, _ | _⟩ <;> decide
  refine ⟨hmapped, ?_⟩
  · intro g fd hfd
    have hnone : (gpioInit e drv).2.valfds = fun _ => none := by
      rw [gpioInit, gpioSetDriver]
      dsimp only
      split_ifs <;> rfl
    rw [hnone] at hfd
    exact absurd hfd (by simp)

/-! ### The registers -/

section Registers

variable {s : GpioSt} {g : ℕ}

theorem toBitVec_ofNat_mod {k : ℕ} (hk : k < 32) :
    (UInt32.ofNat k).toBitVec % 32 = BitVec.ofNat 32 k := by
  apply BitVec.eq_of_toNat_eq
  rw [BitVec.toNat_umod, UInt32.toBitVec_ofNat', BitVec.toNat_ofNat,
    show (32 : BitVec 32).toNat = 32 from rfl]
  omega

theorem getLsbD_shl (v : UInt32) {k : ℕ} (hk : k < 32) (i : ℕ) :
    (v <<< UInt32.ofNat k).toBitVec.getLsbD i =
      (decide (i < 32) && !decide (i < k) && v.toBitVec.getLsbD (i - k)) := by
  rw [UInt32.toBitVec_shiftLeft, toBitVec_ofNat_mod hk, BitVec.shiftLeft_eq',
    BitVec.getLsbD_shiftLeft, BitVec.toNat_ofNat, Nat.mod_eq_of_lt (by omega : k < 2 ^ 32)]

theorem getLsbD_shr (v : UInt32) {k : ℕ} (hk : k < 32) (i : ℕ) :
    (v >>> UInt32.ofNat k).toBitVec.getLsbD i = v.toBitVec.getLsbD (k + i) := by
  rw [UInt32.toBitVec_shiftRight, toBitVec_ofNat_mod hk, BitVec.ushiftRight_eq',
    BitVec.getLsbD_ushiftRight, BitVec.toNat_ofNat, Nat.mod_eq_of_lt (by omega : k < 2 ^ 32)]

theorem getLsbD_one (i : ℕ) : (1 : UInt32).toBitVec.getLsbD i = decide (i = 0) := by
  have h : (1 : UInt32).toBitVec = BitVec.twoPow 32 0 := rfl
  rw [h, BitVec.getLsbD_twoPow]
  simp [eq_comm]

theorem getLsbD_seven (i : ℕ) : (7 : UInt32).toBitVec.getLsbD i = decide (i < 3) := by
  have h : (7 : UInt32).toBitVec = BitVec.ofNat 32 (2 ^ 3 - 1) := rfl
  rw [h, BitVec.getLsbD_ofNat, Nat.testBit_two_pow_sub_one]
  by_cases hi : i < 3
  · simp [hi]
    omega
  · simp [hi]

/-- A field of three bits, after a field of three bits was set: it is the value if it is the same
field, and as it was if it is another. -/
theorem field_setBitfld (v c : UInt32) {j k : ℕ} (hj : j < 10) (hk : k < 10) :
    (setBitfld v ((c &&& 7) <<< UInt32.ofNat (3 * k)) (7 <<< UInt32.ofNat (3 * k)) >>>
        UInt32.ofNat (3 * j)) &&& 7 =
      if j = k then c &&& 7 else (v >>> UInt32.ofNat (3 * j)) &&& 7 := by
  refine UInt32.toBitVec_inj.mp (BitVec.eq_of_getLsbD_eq fun i hi => ?_)
  rw [UInt32.toBitVec_and, BitVec.getLsbD_and, getLsbD_shr _ (by omega), setBitfld,
    UInt32.toBitVec_or, BitVec.getLsbD_or, UInt32.toBitVec_and, BitVec.getLsbD_and,
    UInt32.toBitVec_not, BitVec.getLsbD_not, getLsbD_shl _ (by omega), getLsbD_shl _ (by omega),
    UInt32.toBitVec_and, BitVec.getLsbD_and, getLsbD_seven, getLsbD_seven]
  by_cases hi3 : i < 3
  · rcases eq_or_ne j k with rfl | hne
    · rw [if_pos rfl, UInt32.toBitVec_and, BitVec.getLsbD_and, getLsbD_seven]
      have hlt : 3 * j + i < 32 := by omega
      simp [hlt, hi3]
    · rw [if_neg hne, UInt32.toBitVec_and, BitVec.getLsbD_and, getLsbD_shr _ (by omega),
        getLsbD_seven]
      have hlt : 3 * j + i < 32 := by omega
      have hout : 3 * j + i < 3 * k ∨ ¬ 3 * j + i - 3 * k < 3 := by omega
      rcases hout with hout | hout
      · simp [hlt, hout, hi3]
      · simp [hlt, hout, hi3]
  · have hfalse : decide (i < 3) = false := decide_eq_false hi3
    rw [hfalse, Bool.and_false]
    split_ifs
    · rw [UInt32.toBitVec_and, BitVec.getLsbD_and, getLsbD_seven, hfalse, Bool.and_false]
    · rw [UInt32.toBitVec_and, BitVec.getLsbD_and, getLsbD_seven, hfalse, Bool.and_false]

theorem getLsbD_wordOf (bit : ℕ → Bool) {n : ℕ} (hn : n ≤ 32) (i : ℕ) :
    (wordOf bit n).toBitVec.getLsbD i = (decide (i < n) && bit i) := by
  induction n with
  | zero => simp [wordOf]
  | succ n ih =>
    have hbit : (1 <<< UInt32.ofNat n : UInt32).toBitVec.getLsbD i = decide (i = n) := by
      rw [getLsbD_shl _ (by omega), getLsbD_one]
      rcases lt_trichotomy i n with hlt | rfl | hlt
      · simp [hlt, hlt.ne]
      · simp [show i < 32 by omega]
      · simp [hlt.ne', show i - n ≠ 0 by omega]
    rw [wordOf]
    rcases hb : bit n with _ | _
    · rw [if_neg (by decide), ih (by omega)]
      rcases eq_or_ne i n with rfl | hne
      · simp [hb]
      · simp [show i < n + 1 ↔ i < n by omega]
    · rw [if_pos rfl, UInt32.toBitVec_or, BitVec.getLsbD_or, ih (by omega), hbit]
      rcases eq_or_ne i n with rfl | hne
      · simp [hb]
      · simp [hne, show i < n + 1 ↔ i < n by omega]

theorem latch_append (g : ℕ) (ws : List (ℕ × UInt32)) (w : ℕ × UInt32) :
    latch g (ws ++ [w]) =
      if sets gpset0 g w then true else if sets gpclr0 g w then false else latch g ws := by
  rw [latch, List.foldl_append]
  rfl

/-- Only a write to that register, with the bit of that GPIO, concerns a GPIO. The registers of
the two halves are told apart by the hypothesis on their offsets. -/
theorem sets_shl {off : ℕ} (off' : ℕ) (g g' : ℕ)
    (hoff : off + 4 * (g / 32) = off' + 4 * (g' / 32) → off = off' ∧ g / 32 = g' / 32) :
    sets off g (off' + 4 * (g' / 32), 1 <<< UInt32.ofNat (g' % 32)) =
      decide (off = off' ∧ g = g') := by
  have hbit : (1 <<< UInt32.ofNat (g' % 32) : UInt32).toBitVec.getLsbD (g % 32) =
      decide (g % 32 = g' % 32) := by
    rw [getLsbD_shl _ (by omega), getLsbD_one]
    have hlt : g' % 32 < 32 := Nat.mod_lt _ (by decide)
    rcases lt_trichotomy (g % 32) (g' % 32) with h | h | h
    · simp [h, h.ne]
    · simp [h, hlt]
    · simp [h.ne', show g % 32 - g' % 32 ≠ 0 by omega]
  rw [sets, hbit]
  refine decide_eq_decide.mpr ⟨fun h => ?_, ?_⟩
  · obtain ⟨h1, h2⟩ := hoff h.1.symm
    have h3 : g % 32 = g' % 32 := of_decide_eq_true h.2
    exact ⟨h1, by omega⟩
  · rintro ⟨rfl, rfl⟩
    exact ⟨rfl, decide_eq_true rfl⟩

/-- The latch after a value was set. -/
theorem latch_setValue {g g' : ℕ} (hg : g < gpioNum) (hg' : g' < gpioNum) (val : ℕ)
    (ws : List (ℕ × UInt32)) :
    latch g' (ws ++ [((if val ≠ 0 then gpset0 else gpclr0) + 4 * (g / 32),
        1 <<< UInt32.ofNat (g % 32))]) =
      if g' = g then decide (val ≠ 0) else latch g' ws := by
  have h54 : gpioNum = 54 := rfl
  have hset : gpset0 = 0x1c := rfl
  have hclr : gpclr0 = 0x28 := rfl
  rw [latch_append]
  by_cases hval : val ≠ 0
  · rw [if_pos hval, sets_shl _ _ _ (by omega), sets_shl _ _ _ (by omega)]
    simp [hval, hset, hclr]
  · rw [if_neg hval, sets_shl _ _ _ (by omega), sets_shl _ _ _ (by omega)]
    simp [hval, hset, hclr]

theorem ioWrite_of_mapping (hio : s.hndl.gpioIo = true) (off : ℕ) (v : UInt32) :
    s.ioWrite off v = { s with bcm := { s.bcm with
      regs := Function.update s.bcm.regs off v
      writes := s.bcm.writes ++ [(off, v)] } } := if_pos hio

/-- The function of a GPIO is not in the other registers. -/
theorem func_ioWrite (hio : s.hndl.gpioIo = true) {off : ℕ} (hoff : gpset0 ≤ off) (v : UInt32)
    (hg : g < gpioNum) : (s.ioWrite off v).bcm.func g = s.bcm.func g := by
  have h54 : gpioNum = 54 := rfl
  have hset : gpset0 = 0x1c := rfl
  have hsel : gpfsel0 = 0 := rfl
  rw [ioWrite_of_mapping hio, Bcm.func, Bcm.func]
  dsimp only
  rw [Function.update_of_ne (by omega)]

theorem drives_of_mapped (hm : s.hndl.Mapped) (hg : g < gpioNum) :
    s.drives g =
      if s.bcm.func g = GpioBcmFunc.out.code then some (latch g s.bcm.writes) else none := by
  rw [GpioSt.drives, if_neg (not_le.mpr hg), if_pos hm]

theorem drives_of_sysfs (hm : ¬ s.hndl.Mapped) (hg : g < gpioNum) :
    s.drives g = if s.sysfs.out g then some (s.sysfs.level g) else none := by
  rw [GpioSt.drives, if_neg (not_le.mpr hg), if_neg hm]

theorem drives_of_le (hg : gpioNum ≤ g) : s.drives g = none := if_pos hg

end Registers

/-! ### The calls -/

section Calls

variable {s : GpioSt} {g : ℕ}

/-- What a call does that is to make `g` do `d`. -/
structure PinCall (s : GpioSt) (g : ℕ) (d : Option Bool) (r : LrErrc × GpioSt) : Prop where
  inv : PinInv r.2
  done : r.1 = .success → r.2.drives = Function.update s.drives g d
  failed : r.1 ≠ .success → r.2.drives = s.drives

theorem pinCall_refused (hs : PinInv s) (d : Option Bool) {err : LrErrc} (herr : err ≠ .success) :
    PinCall s g d (err, s) := ⟨hs, fun h => absurd h herr, fun _ => rfl⟩

theorem pinInv_ioWrite (hs : PinInv s) (off : ℕ) (v : UInt32) : PinInv (s.ioWrite off v) := by
  refine ⟨fun hm => ?_, fun g fd hfd => ?_⟩
  · rw [GpioSt.hndl_ioWrite] at hm ⊢
    exact hs.mapped hm
  · rw [GpioSt.hndl_ioWrite] at hfd
    exact hs.own g fd hfd

/-- It is enough to look at the GPIOs there are. -/
theorem drives_eq_update {s' : GpioSt} {d : Option Bool} (hg : g < gpioNum)
    (h : ∀ g' < gpioNum, s'.drives g' = if g' = g then d else s.drives g') :
    s'.drives = Function.update s.drives g d := by
  funext g'
  rw [Function.update_apply]
  rcases lt_or_ge g' gpioNum with hg' | hg'
  · exact h g' hg'
  · rw [drives_of_le hg', drives_of_le hg', if_neg (by omega)]

/-- A value is set through the mapped registers. -/
theorem drives_setMapped (hs : PinInv s) (hm : s.hndl.Mapped) (hg : g < gpioNum) (val : ℕ) :
    (s.ioWrite ((if val ≠ 0 then gpset0 else gpclr0) + 4 * (g / 32))
        (1 <<< UInt32.ofNat (g % 32))).drives =
      Function.update s.drives g ((s.drives g).map fun _ => decide (val ≠ 0)) := by
  have hio := hs.mapped hm
  have hoff : gpset0 ≤ (if val ≠ 0 then gpset0 else gpclr0) + 4 * (g / 32) := by
    have hset : gpset0 = 0x1c := rfl
    have hclr : gpclr0 = 0x28 := rfl
    split_ifs <;> omega
  refine drives_eq_update hg fun g' hg' => ?_
  rw [drives_of_mapped (by rwa [GpioSt.hndl_ioWrite]) hg', func_ioWrite hio hoff _ hg',
    ioWrite_of_mapping hio]
  dsimp only
  rw [latch_setValue hg hg', drives_of_mapped hm hg, drives_of_mapped hm hg']
  rcases eq_or_ne g' g with rfl | hne
  · rw [if_pos rfl, if_pos rfl]
    split_ifs <;> rfl
  · rw [if_neg hne, if_neg hne]

/-- A value is set through sysfs. -/
theorem drives_setSysfs (hm : ¬ s.hndl.Mapped) (hg : g < gpioNum) (b : Bool) :
    GpioSt.drives { s with sysfs := { s.sysfs with
        level := Function.update s.sysfs.level g b } } =
      Function.update s.drives g ((s.drives g).map fun _ => b) := by
  refine drives_eq_update hg fun g' hg' => ?_
  refine Eq.trans (drives_of_sysfs (by exact hm) hg') ?_
  dsimp only
  rw [drives_of_sysfs hm hg, drives_of_sysfs hm hg', Function.update_apply]
  rcases eq_or_ne g' g with rfl | hne
  · rw [if_pos rfl, if_pos rfl]
    split_ifs <;> rfl
  · rw [if_neg hne, if_neg hne]

/-- Setting a value changes what its pin drives. -/
theorem gpioSetValue_pins (hs : PinInv s) (wr : Bool) (g val : ℕ) :
    PinCall s g ((s.drives g).map fun _ => decide (val ≠ 0)) (gpioSetValue wr s g val) := by
  rw [gpioSetValue]
  by_cases hle : gpioNum ≤ g
  · rw [if_pos hle]
    exact pinCall_refused hs _ (by decide)
  have hg : g < gpioNum := not_le.mp hle
  rw [if_neg hle]
  by_cases hm : s.hndl.Mapped
  · rw [if_pos hm]
    exact ⟨pinInv_ioWrite hs _ _, fun _ => drives_setMapped hs hm hg val, fun h => absurd rfl h⟩
  rw [if_neg hm]
  rcases hfd : s.hndl.valfds g with _ | fd
  · exact pinCall_refused hs _ (by decide)
  · obtain rfl := hs.own g fd hfd
    dsimp only
    by_cases hwr : wr = true ∧ s.sysfs.Live fd
    · rw [if_pos hwr]
      exact ⟨⟨hs.mapped, hs.own⟩, fun _ => drives_setSysfs hm hg _, fun h => absurd rfl h⟩
    · rw [if_neg hwr]
      exact pinCall_refused hs _ (by decide)

/-- A value that could be set can be set again, if its `write` is granted: what else the call
looks at, the mapping and the descriptor, is left as it is by the first. -/
theorem gpioSetValue_again {wr : Bool} {val : ℕ} (h : (gpioSetValue wr s g val).1 = .success)
    (wr' : Bool) (val' : ℕ) :
    (gpioSetValue wr' (gpioSetValue wr s g val).2 g val').1 =
      if s.hndl.Mapped ∨ wr' = true then .success else .writeErr := by
  obtain ⟨hhndl, hexp, hera⟩ := gpioSetValue_frame wr s g val
  obtain ⟨t, ht⟩ : ∃ t, t = (gpioSetValue wr s g val).2 := ⟨_, rfl⟩
  rw [← ht] at hhndl hexp hera ⊢
  rw [gpioSetValue] at h ⊢
  by_cases hle : gpioNum ≤ g
  · rw [if_pos hle] at h
    exact absurd h (by simp)
  rw [if_neg hle] at h ⊢
  rw [hhndl]
  by_cases hm : s.hndl.Mapped
  · rw [if_pos hm, if_pos (Or.inl hm)]
  rw [if_neg hm] at h ⊢
  rcases hfd : s.hndl.valfds g with _ | fd
  · rw [hfd] at h
    exact absurd h (by simp)
  · rw [hfd] at h
    dsimp only at h ⊢
    split_ifs at h with hwr
    have hlive : t.sysfs.Live fd := by
      rw [Sysfs.Live, hexp, hera]
      exact hwr.2
    by_cases hwr' : wr' = true
    · rw [if_pos ⟨hwr', hlive⟩, if_pos (Or.inr hwr')]
    · rw [if_neg fun hboth => hwr' hboth.1, if_neg (by simp [hm, hwr'])]

/-- Reading a value changes nothing. -/
theorem gpioGetValue_snd (hs : PinInv s) (rd : Bool) (g : ℕ) : (gpioGetValue rd s g).2 = s := by
  rw [gpioGetValue]
  by_cases hle : gpioNum ≤ g
  · rw [if_pos hle]
  rw [if_neg hle]
  by_cases hm : s.hndl.Mapped
  · rw [if_pos hm]
    dsimp only
    rw [GpioSt.ioRead, if_pos (hs.mapped hm)]
  rw [if_neg hm]
  rcases s.hndl.valfds g with _ | fd
  · rfl
  · dsimp only
    split_ifs <;> rfl

/-- Setting a function is no business of the latches. -/
theorem latch_setFunc (g' : ℕ) (hg : g < gpioNum) (v : UInt32) (ws : List (ℕ × UInt32)) :
    latch g' (ws ++ [(gpfsel0 + 4 * (g / 10), v)]) = latch g' ws := by
  have h54 : gpioNum = 54 := rfl
  have hset : gpset0 = 0x1c := rfl
  have hclr : gpclr0 = 0x28 := rfl
  have hsel : gpfsel0 = 0 := rfl
  have hfar : ∀ off, gpset0 ≤ off → sets off g' (gpfsel0 + 4 * (g / 10), v) = false :=
    fun off hoff => decide_eq_false fun h => absurd h.1 (by dsimp only; omega)
  rw [latch_append, hfar _ le_rfl, hfar _ (by omega), if_neg (by decide), if_neg (by decide)]

/-- The functions after one was set. -/
theorem func_setFunc (hio : s.hndl.gpioIo = true) (g g' : ℕ) (func : GpioBcmFunc) :
    (s.ioWrite (gpfsel0 + 4 * (g / 10)) (setBitfld (s.bcm.regs (gpfsel0 + 4 * (g / 10)))
        ((func.code &&& 7) <<< UInt32.ofNat (3 * (g % 10)))
        (7 <<< UInt32.ofNat (3 * (g % 10))))).bcm.func g' =
      if g' = g then func.code else s.bcm.func g' := by
  rw [ioWrite_of_mapping hio, Bcm.func, Bcm.func]
  dsimp only
  by_cases hreg : g' / 10 = g / 10
  · rw [hreg, Function.update_self, field_setBitfld _ _ (Nat.mod_lt _ (by decide))
      (Nat.mod_lt _ (by decide))]
    rcases eq_or_ne g' g with rfl | hne
    · rw [if_pos rfl, if_pos rfl]
      rcases func <;> rfl
    · rw [if_neg (show ¬ g' % 10 = g % 10 by omega), if_neg hne]
  · have hne : g' ≠ g := fun h => hreg (by rw [h])
    rw [if_neg hne, Function.update_of_ne (by omega)]

/-- A function is set: the pin is driven with what its latch holds, or released. The latches keep
the last value set while a pin is an input, too. -/
theorem gpioBcmSetFunc_pins (hs : PinInv s) (hm : s.hndl.Mapped) (hg : g < gpioNum)
    (func : GpioBcmFunc) :
    (gpioBcmSetFunc s g func).1 = .success ∧ PinInv (gpioBcmSetFunc s g func).2 ∧
      (gpioBcmSetFunc s g func).2.drives = Function.update s.drives g
        (if func.code = GpioBcmFunc.out.code then some (latch g s.bcm.writes) else none) := by
  have hio := hs.mapped hm
  rw [gpioBcmSetFunc, if_neg (not_le.mpr hg), if_pos hio]
  dsimp only
  refine ⟨rfl, pinInv_ioWrite hs _ _, drives_eq_update hg fun g' hg' => ?_⟩
  rw [drives_of_mapped (by rwa [GpioSt.hndl_ioWrite]) hg', func_setFunc hio,
    ioWrite_of_mapping hio, drives_of_mapped hm hg']
  dsimp only
  rw [latch_setFunc g' hg]
  rcases eq_or_ne g' g with rfl | hne
  · rw [if_pos rfl, if_pos rfl]
  · rw [if_neg hne, if_neg hne]

theorem pinInv_openValue (hs : PinInv s) (g : ℕ) : PinInv (s.openValue g) := by
  refine ⟨hs.mapped, fun g' fd hfd => ?_⟩
  rw [GpioSt.openValue] at hfd
  dsimp only at hfd
  rw [Function.update_apply] at hfd
  split_ifs at hfd with hg
  · rw [← Option.some.inj hfd, hg]
  · exact hs.own g' fd hfd

/-- The direction changes: an output starts low. -/
theorem drives_setDirection (hm : ¬ s.hndl.Mapped) (hg : g < gpioNum) (asOut : Bool) :
    GpioSt.drives { s with sysfs := s.sysfs.setDirection g asOut } =
      Function.update s.drives g (if asOut then some false else none) := by
  refine drives_eq_update hg fun g' hg' => ?_
  refine Eq.trans (drives_of_sysfs (by exact hm) hg') ?_
  rw [drives_of_sysfs hm hg']
  rcases asOut with _ | _
  · simp only [Sysfs.setDirection, Function.update_apply]
    split_ifs <;> simp_all
  · simp only [Sysfs.setDirection, Function.update_apply]
    split_ifs <;> simp_all

theorem sysfsWriteDirection_pins (hs : PinInv s) (hm : ¬ s.hndl.Mapped) (e : DirEnv)
    (hg : g < gpioNum) (asOut : Bool) :
    PinCall s g (if asOut then some false else none) (sysfsWriteDirection e s g asOut) ∧
      ¬ (sysfsWriteDirection e s g asOut).2.hndl.Mapped := by
  have hdrives := drives_setDirection hm hg asOut
  generalize (if asOut then some false else none) = d at hdrives ⊢
  rw [sysfsWriteDirection]
  split_ifs with hopen hwrite
  · exact ⟨pinCall_refused hs _ (by decide), hm⟩
  · exact ⟨pinCall_refused hs _ (by decide), hm⟩
  · exact ⟨⟨⟨hs.mapped, hs.own⟩, fun _ => hdrives, fun h => absurd rfl h⟩, hm⟩

/-- Setting a direction through sysfs. An output starts low, an input drives nothing, and a call
that fails has changed no pin. -/
theorem sysfsSetDirection_pins (hs : PinInv s) (hm : ¬ s.hndl.Mapped) (e : DirEnv) (g : ℕ)
    (asOut : Bool) :
    PinCall s g (if asOut then some false else none) (sysfsSetDirection e s g asOut) ∧
      ¬ (sysfsSetDirection e s g asOut).2.hndl.Mapped := by
  rw [sysfsSetDirection]
  by_cases hle : gpioNum ≤ g
  · rw [if_pos hle]
    exact ⟨pinCall_refused hs _ (by decide), hm⟩
  rw [if_neg hle]
  by_cases hfd : (s.hndl.valfds g).isSome = true
  · rw [if_pos hfd]
    exact sysfsWriteDirection_pins hs hm e (not_le.mp hle) asOut
  rw [if_neg hfd]
  by_cases hopen : (!(e.openVal && s.sysfs.exported g)) = true
  · rw [if_pos hopen]
    exact ⟨pinCall_refused hs _ (by decide), hm⟩
  · -- opening the value file is no business of the pins
    rw [if_neg hopen]
    have hdir := sysfsWriteDirection_pins (pinInv_openValue hs g) hm e (not_le.mp hle) asOut
    exact ⟨⟨hdir.1.inv, hdir.1.done, hdir.1.failed⟩, hdir.2⟩

/-- Making a pin an input releases it. -/
theorem gpioDirectionInput_pins (hs : PinInv s) (e : DirEnv) (g : ℕ) :
    PinCall s g none (gpioDirectionInput e s g) := by
  rw [gpioDirectionInput]
  by_cases hm : s.hndl.Mapped
  · rw [if_pos hm]
    rcases lt_or_ge g gpioNum with hg | hg
    · obtain ⟨hret, hinv, hdrives⟩ := gpioBcmSetFunc_pins hs hm hg .in
      exact ⟨hinv, fun _ => hdrives, fun h => absurd hret h⟩
    · rw [gpioBcmSetFunc, if_pos hg]
      exact pinCall_refused hs _ (by decide)
  · rw [if_neg hm]
    exact (sysfsSetDirection_pins hs hm e g false).1

/-- A call of `gpio_direction_output` drives the pin before it sets the value. -/
def GpioSt.Switches (s : GpioSt) (e : DirEnv) (g : ℕ) : Prop :=
  ¬ s.hndl.Mapped ∧ (sysfsSetDirection e s g true).1 = .success

instance (s : GpioSt) (e : DirEnv) (g : ℕ) : Decidable (s.Switches e g) :=
  inferInstanceAs (Decidable (_ ∧ _))

/-- What a call of `gpio_direction_output` does. -/
structure PinsOutput (s : GpioSt) (e : DirEnv) (g val : ℕ) (r : LrErrc × GpioSt) : Prop where
  inv : PinInv r.2
  done : r.1 = .success → r.2.drives = Function.update s.drives g (some (decide (val ≠ 0)))
  failed : r.1 ≠ .success →
    r.2.drives = if s.Switches e g then Function.update s.drives g (some false) else s.drives

/-- Making a pin an output drives it; the call may fail when it has done so already.

With the mapped registers the value is set first, and the pin then starts with it. With sysfs
the direction comes first, and the pin is low until the value is written. -/
theorem gpioDirectionOutput_pins (hs : PinInv s) (e : DirEnv) (g val : ℕ) :
    PinsOutput s e g val (gpioDirectionOutput e s g val) := by
  rw [gpioDirectionOutput]
  by_cases hm : s.hndl.Mapped
  · rw [if_pos hm]
    have hsw : ¬ s.Switches e g := fun h => h.1 hm
    rcases lt_or_ge g gpioNum with hg | hg
    · obtain ⟨t, ht⟩ : ∃ t, t = s.ioWrite ((if val ≠ 0 then gpset0 else gpclr0) + 4 * (g / 32))
          (1 <<< UInt32.ofNat (g % 32)) := ⟨_, rfl⟩
      have hset : gpioSetValue e.writeVal s g val = (.success, t) := by
        rw [gpioSetValue, if_neg (not_le.mpr hg), if_pos hm, ht]
      have hinv : PinInv t := ht ▸ pinInv_ioWrite hs _ _
      have hm' : t.hndl.Mapped := by rwa [ht, GpioSt.hndl_ioWrite]
      have hpins := ht ▸ drives_setMapped hs hm hg val
      have hlatch : latch g t.bcm.writes = decide (val ≠ 0) := by
        rw [ht, ioWrite_of_mapping (hs.mapped hm)]
        exact (latch_setValue hg hg val s.bcm.writes).trans (if_pos rfl)
      obtain ⟨hret, hinv', hdrives⟩ := gpioBcmSetFunc_pins hinv hm' hg .out
      rw [hset]
      dsimp only
      rw [if_pos rfl]
      refine ⟨hinv', fun _ => ?_, fun h => absurd hret h⟩
      rw [hdrives, hpins, if_pos rfl, Function.update_idem, hlatch]
    · rw [gpioSetValue, if_pos hg]
      dsimp only
      rw [if_neg (by decide)]
      exact ⟨hs, fun h => absurd h (by simp), fun _ => (if_neg hsw).symm⟩
  · rw [if_neg hm]
    obtain ⟨hdir, hm'⟩ := sysfsSetDirection_pins hs hm e g true
    dsimp only
    by_cases hret : (sysfsSetDirection e s g true).1 = .success
    · have hsw : s.Switches e g := ⟨hm, hret⟩
      have hdone := hdir.done hret
      have hval := gpioSetValue_pins hdir.inv e.writeVal g val
      rw [if_pos hret]
      refine ⟨hval.inv, fun h => ?_, fun h => ?_⟩
      · rw [hval.done h, hdone, Function.update_idem, Function.update_self]
        rfl
      · rw [hval.failed h, hdone, if_pos hsw]
        rfl
    · have hsw : ¬ s.Switches e g := fun h => hret h.2
      rw [if_neg hret]
      refine ⟨hdir.inv, fun h => absurd h hret, fun _ => ?_⟩
      rw [hdir.failed hret, if_neg hsw]

/-- Sampling changes no pin: the level registers are not those of the functions, and the value
files are written for inputs only. -/
theorem drives_sample (s : GpioSt) (line : ℕ → Bool) : (s.sample line).drives = s.drives := by
  funext g
  rcases lt_or_ge g gpioNum with hg | hg
  · have h54 : gpioNum = 54 := rfl
    have hlev : gplev0 = 0x34 := rfl
    have hsel : gpfsel0 = 0 := rfl
    by_cases hm : s.hndl.Mapped
    · have hfunc : (s.sample line).bcm.func g = s.bcm.func g := by
        rw [Bcm.func, Bcm.func, GpioSt.sample]
        dsimp only
        rw [Function.update_of_ne (by omega), Function.update_of_ne (by omega)]
      rw [drives_of_mapped hm hg]
      refine Eq.trans (drives_of_mapped (by exact hm) hg) ?_
      rw [hfunc]
      rfl
    · rw [drives_of_sysfs hm hg]
      refine Eq.trans (drives_of_sysfs (by exact hm) hg) ?_
      rw [GpioSt.sample]
      dsimp only
      split_ifs <;> rfl
  · rw [drives_of_le hg, drives_of_le hg]

theorem pinInv_sample (hs : PinInv s) (line : ℕ → Bool) : PinInv (s.sample line) :=
  ⟨hs.mapped, hs.own⟩

theorem toNat_and_one (w : UInt32) : (w &&& 1).toNat = (w.toBitVec.getLsbD 0).toNat := by
  rw [UInt32.toNat_and, show (1 : UInt32).toNat = 1 from rfl, Nat.and_one_is_mod, BitVec.getLsbD,
    Nat.testBit_zero]
  change w.toNat % 2 = (decide (w.toNat % 2 = 1)).toNat
  rcases Nat.mod_two_eq_zero_or_one w.toNat with h | h <;> rw [h] <;> rfl

/-- A word of a level register, bit by bit. -/
theorem levels_and_one (b : Bcm) (line : ℕ → Bool) (g : ℕ) :
    ((b.levels line (g / 32) >>> UInt32.ofNat (g % 32)) &&& 1).toNat =
      (if b.func g = GpioBcmFunc.out.code then latch g b.writes else line g).toNat := by
  have hdiv : 32 * (g / 32) + g % 32 = g := Nat.div_add_mod g 32
  have hmod : g % 32 < 32 := Nat.mod_lt g (by decide)
  rw [toNat_and_one, getLsbD_shr _ hmod, Nat.add_zero, Bcm.levels, getLsbD_wordOf _ le_rfl]
  dsimp only
  rw [hdiv, decide_eq_true hmod, Bool.true_and]

/-- A value that is read is what the pin drives, or what the line of a released pin tells, for
either driver. -/
theorem gpioGetValue_sample (hs : PinInv s) (rd : Bool) (line : ℕ → Bool)
    (h : (gpioGetValue rd (s.sample line) g).1.1 = .success) :
    (gpioGetValue rd (s.sample line) g).1.2 = some ((s.drives g).getD (line g)).toNat := by
  rw [gpioGetValue] at h ⊢
  by_cases hle : gpioNum ≤ g
  · rw [if_pos hle] at h
    exact absurd h (by simp)
  have hg : g < gpioNum := not_le.mp hle
  rw [if_neg hle] at h ⊢
  by_cases hm : s.hndl.Mapped
  · have hreg : ((s.sample line).ioRead (gplev0 + 4 * (g / 32))).1 =
        s.bcm.levels line (g / 32) := by
      rw [GpioSt.ioRead, if_pos (by exact hs.mapped hm), GpioSt.sample]
      dsimp only
      have h54 : gpioNum = 54 := rfl
      obtain hw | hw : g / 32 = 0 ∨ g / 32 = 1 := by omega
      · rw [hw, Function.update_of_ne (by decide), Nat.mul_zero, Nat.add_zero,
          Function.update_self]
      · rw [hw, Nat.mul_one, Function.update_self]
    rw [if_pos (by exact hm)]
    dsimp only
    rw [hreg, levels_and_one, drives_of_mapped hm hg]
    split_ifs <;> rfl
  rw [if_neg (by exact hm)] at h ⊢
  rcases hfd : s.hndl.valfds g with _ | fd
  · rw [GpioSt.sample] at h
    dsimp only at h
    rw [hfd] at h
    exact absurd h (by simp)
  · obtain rfl := hs.own g fd hfd
    have hlev : (s.sample line).sysfs.level fd.gpio = (s.drives fd.gpio).getD (line fd.gpio) := by
      rw [drives_of_sysfs hm hg, GpioSt.sample]
      dsimp only
      split_ifs <;> rfl
    have hvalfd : (s.sample line).hndl.valfds fd.gpio = some fd := hfd
    rw [hvalfd] at h ⊢
    dsimp only at h ⊢
    split_ifs at h with hrd
    rw [if_pos hrd, hlev]

end Calls

end Librasp
