import Librasp.Foundation.Run
import Librasp.Gpio.Pins

/-!
# `gpio.h`: open-drain and open-source outputs

An open-drain output is emulated by making the pin an input for a 1, and an output that is low for
a 0; an open-source output the other way round.

On the mapped registers such a call makes one register write or two. What matters is what the pins
do after each of them (`GpioSt.Passes`): the level is set before the pin becomes an output, so
that no pin is ever driven to the level that it must not have (`OpenCall`).

* The registers keep a journal of their writes, and the states a call passes are those after a
  prefix of the writes it makes (`passes_replay_iff`). For each function of the source there is an
  equation that has its writes (`gpioDirectionOutput_replay` and others).
* A write for one pin does not concern another one: `SamePin` has its function and its latch, and
  what a pin does rests on these (`SamePin.drives`).

**Main result.** `gpioOpen_spec`: over any sequence of calls for any pins, at each single write,
no open-drain output is ever driven high and no open-source output low, and the other pins do what
they did. Of `gpio_direction_output` it says that a pin that was no output is driven with the
requested level from the first moment on.
-/

namespace Librasp

/-! ### The calls -/

/-- What `gpio_opndrn_set_value` and `gpio_opnsrc_set_value` are: the pin is released, or it is
driven with a level. -/
def gpioOpenSetValue (level : ℕ) (release : Bool) (e : DirEnv) (s : GpioSt) (gpio : ℕ) :
    LrErrc × GpioSt :=
  if release then gpioDirectionInput e s gpio else gpioDirectionOutput e s gpio level

/-- `gpio_opndrn_set_value`. -/
def gpioOpndrnSetValue (e : DirEnv) (s : GpioSt) (gpio val : ℕ) : LrErrc × GpioSt :=
  gpioOpenSetValue 0 (val &&& 1 ≠ 0) e s gpio

/-- `gpio_opnsrc_set_value`. -/
def gpioOpnsrcSetValue (e : DirEnv) (s : GpioSt) (gpio val : ℕ) : LrErrc × GpioSt :=
  gpioOpenSetValue 1 (¬ val &&& 1 ≠ 0) e s gpio

/-! ### One register write after the other -/

namespace GpioSt

/-- Some register writes. -/
def replay (s : GpioSt) (ws : List (ℕ × UInt32)) : GpioSt :=
  ws.foldl (fun s w => s.ioWrite w.1 w.2) s

/-- The register writes that have been made since `s`. -/
def newWrites (s s' : GpioSt) : List (ℕ × UInt32) := s'.bcm.writes.drop s.bcm.writes.length

/-- A state that is passed on the way from `s` to `s'`: some of the register writes that are made
between them have been made. -/
def Passes (s s' t : GpioSt) : Prop := ∃ p, p <+: newWrites s s' ∧ t = s.replay p

end GpioSt

/-- The function of a pin and its output latch are the same in two states. -/
def SamePin (s t : GpioSt) (g : ℕ) : Prop :=
  t.bcm.func g = s.bcm.func g ∧ latch g t.bcm.writes = latch g s.bcm.writes

/-- What a call for `g` is to do, which releases the pin or drives it away from `b`: the states
passed are all there is, no pin of `pins` is driven to `b` in any of them, and the other pins are
left alone. -/
structure OpenCall (b : Bool) (pins : ℕ → Prop) (s : GpioSt) (g : ℕ) (release : Bool)
    (r : LrErrc × GpioSt) : Prop where
  success : r.1 = .success
  whole : r.2 = s.replay (s.newWrites r.2)
  never : ∀ t, s.Passes r.2 t → ∀ g', pins g' → t.drives g' ≠ some b
  others : ∀ t, s.Passes r.2 t → ∀ g' < gpioNum, g' ≠ g → SamePin s t g'
  released : release = true → r.2.bcm.func g = GpioBcmFunc.in.code
  driven : release = false → r.2.drives g = some !b

section Writes

variable {s : GpioSt} {g : ℕ}

theorem replay_append (s : GpioSt) (p q : List (ℕ × UInt32)) :
    s.replay (p ++ q) = (s.replay p).replay q := List.foldl_append

theorem hndl_replay (s : GpioSt) (ws : List (ℕ × UInt32)) : (s.replay ws).hndl = s.hndl := by
  induction ws generalizing s with
  | nil => rfl
  | cons w ws ih => exact (ih (s.ioWrite w.1 w.2)).trans (GpioSt.hndl_ioWrite s w.1 w.2)

theorem writes_replay (hio : s.hndl.gpioIo = true) (ws : List (ℕ × UInt32)) :
    (s.replay ws).bcm.writes = s.bcm.writes ++ ws := by
  induction ws generalizing s with
  | nil => exact (List.append_nil _).symm
  | cons w ws ih =>
    have hio' : (s.ioWrite w.1 w.2).hndl.gpioIo = true := by rwa [GpioSt.hndl_ioWrite]
    refine (ih hio').trans ?_
    rw [ioWrite_of_mapping hio, List.append_assoc]
    rfl

theorem newWrites_replay (hio : s.hndl.gpioIo = true) (ws : List (ℕ × UInt32)) :
    s.newWrites (s.replay ws) = ws := by
  rw [GpioSt.newWrites, writes_replay hio, List.drop_left]

theorem passes_replay_iff (hio : s.hndl.gpioIo = true) (ws : List (ℕ × UInt32)) (t : GpioSt) :
    s.Passes (s.replay ws) t ↔ ∃ p, p <+: ws ∧ t = s.replay p := by
  rw [GpioSt.Passes, newWrites_replay hio]

/-- The register write that sets a value. -/
def valueWrite (g val : ℕ) : ℕ × UInt32 :=
  ((if val ≠ 0 then gpset0 else gpclr0) + 4 * (g / 32), 1 <<< UInt32.ofNat (g % 32))

/-- The register write that sets a function. -/
def funcWrite (s : GpioSt) (g : ℕ) (func : GpioBcmFunc) : ℕ × UInt32 :=
  (gpfsel0 + 4 * (g / 10), setBitfld (s.bcm.regs (gpfsel0 + 4 * (g / 10)))
    ((func.code &&& 7) <<< UInt32.ofNat (3 * (g % 10))) (7 <<< UInt32.ofNat (3 * (g % 10))))

theorem gpioSetValue_replay (hm : s.hndl.Mapped) (hg : g < gpioNum) (wr : Bool) (val : ℕ) :
    gpioSetValue wr s g val = (.success, s.replay [valueWrite g val]) := by
  rw [gpioSetValue, if_neg (not_le.mpr hg), if_pos hm]
  rfl

theorem gpioBcmSetFunc_replay (hio : s.hndl.gpioIo = true) (hg : g < gpioNum)
    (func : GpioBcmFunc) :
    gpioBcmSetFunc s g func = (.success, s.replay [funcWrite s g func]) := by
  rw [gpioBcmSetFunc, if_neg (not_le.mpr hg), if_pos hio]
  rfl

theorem gpioDirectionInput_replay (hs : PinInv s) (hm : s.hndl.Mapped) (hg : g < gpioNum)
    (e : DirEnv) :
    gpioDirectionInput e s g = (.success, s.replay [funcWrite s g .in]) := by
  rw [gpioDirectionInput, if_pos hm, gpioBcmSetFunc_replay (hs.mapped hm) hg]

/-- A value does not matter to the function registers. -/
theorem funcWrite_valueWrite (hio : s.hndl.gpioIo = true) (hg : g < gpioNum) (val : ℕ)
    (func : GpioBcmFunc) :
    funcWrite (s.replay [valueWrite g val]) g func = funcWrite s g func := by
  have h54 : gpioNum = 54 := rfl
  have hset : gpset0 = 0x1c := rfl
  have hclr : gpclr0 = 0x28 := rfl
  have hsel : gpfsel0 = 0 := rfl
  have hne : gpfsel0 + 4 * (g / 10) ≠ (valueWrite g val).1 := by
    rw [valueWrite]
    split_ifs <;> omega
  have hreg : (s.replay [valueWrite g val]).bcm.regs (gpfsel0 + 4 * (g / 10)) =
      s.bcm.regs (gpfsel0 + 4 * (g / 10)) := by
    rw [GpioSt.replay, List.foldl_cons, List.foldl_nil, ioWrite_of_mapping hio]
    exact Function.update_of_ne hne _ _
  rw [funcWrite, funcWrite, hreg]

theorem gpioDirectionOutput_replay (hs : PinInv s) (hm : s.hndl.Mapped) (hg : g < gpioNum)
    (e : DirEnv) (val : ℕ) :
    gpioDirectionOutput e s g val =
      (.success, s.replay [valueWrite g val, funcWrite s g .out]) := by
  have hio := hs.mapped hm
  have hio' : (s.replay [valueWrite g val]).hndl.gpioIo = true := by rwa [hndl_replay]
  rw [gpioDirectionOutput, if_pos hm, gpioSetValue_replay hm hg]
  dsimp only
  rw [if_pos rfl, gpioBcmSetFunc_replay hio' hg, funcWrite_valueWrite hio hg, ← replay_append]
  rfl

theorem samePin_valueWrite (hio : s.hndl.gpioIo = true) (hg : g < gpioNum) (val : ℕ) {g' : ℕ}
    (hg' : g' < gpioNum) (hne : g' ≠ g) : SamePin s (s.replay [valueWrite g val]) g' := by
  have hset : gpset0 = 0x1c := rfl
  have hclr : gpclr0 = 0x28 := rfl
  have hoff : gpset0 ≤ (valueWrite g val).1 := by
    rw [valueWrite]
    split_ifs <;> omega
  refine ⟨func_ioWrite hio hoff _ hg', ?_⟩
  rw [writes_replay hio, valueWrite, latch_setValue hg hg', if_neg hne]

theorem samePin_funcWrite (hio : s.hndl.gpioIo = true) (hg : g < gpioNum) (func : GpioBcmFunc)
    {g' : ℕ} (hne : g' ≠ g) : SamePin s (s.replay [funcWrite s g func]) g' := by
  refine ⟨(func_setFunc hio g g' func).trans (if_neg hne), ?_⟩
  rw [writes_replay hio, funcWrite, latch_setFunc g' hg]

theorem SamePin.trans {s t u : GpioSt} (h : SamePin s t g) (h' : SamePin t u g) : SamePin s u g :=
  ⟨h'.1.trans h.1, h'.2.trans h.2⟩

/-- What a pin does is told by its function and its latch. -/
theorem SamePin.drives {t : GpioSt} (h : SamePin s t g) (hhndl : t.hndl = s.hndl)
    (hm : s.hndl.Mapped) : t.drives g = s.drives g := by
  rcases lt_or_ge g gpioNum with hg | hg
  · rw [drives_of_mapped hm hg, drives_of_mapped (hhndl ▸ hm) hg, h.1, h.2]
  · rw [drives_of_le hg, drives_of_le hg]

theorem drives_valueWrite (hs : PinInv s) (hm : s.hndl.Mapped) (hg : g < gpioNum) (val : ℕ) :
    (s.replay [valueWrite g val]).drives =
      Function.update s.drives g ((s.drives g).map fun _ => decide (val ≠ 0)) :=
  drives_setMapped hs hm hg val

theorem pinInv_replay (hs : PinInv s) (ws : List (ℕ × UInt32)) : PinInv (s.replay ws) := by
  induction ws generalizing s with
  | nil => exact hs
  | cons w ws ih => exact ih (pinInv_ioWrite hs w.1 w.2)

theorem prefix_singleton_cases {α : Type*} {p : List α} {a : α} (h : p <+: [a]) :
    p = [] ∨ p = [a] := by
  rcases List.prefix_cons_iff.mp h with rfl | ⟨q, rfl, hq⟩
  · exact Or.inl rfl
  · rw [List.prefix_nil.mp hq]
    exact Or.inr rfl

theorem prefix_pair_cases {α : Type*} {p : List α} {a b : α} (h : p <+: [a, b]) :
    p = [] ∨ p = [a] ∨ p = [a, b] := by
  rcases List.prefix_cons_iff.mp h with rfl | ⟨q, rfl, hq⟩
  · exact Or.inl rfl
  · obtain rfl | rfl := prefix_singleton_cases hq
    · exact Or.inr (Or.inl rfl)
    · exact Or.inr (Or.inr rfl)

/-! ### One call -/

/-- The other pins after `gpio_direction_output`. -/
theorem samePin_output (hs : PinInv s) (hm : s.hndl.Mapped) (hg : g < gpioNum) (val : ℕ) {g' : ℕ}
    (hg' : g' < gpioNum) (hne : g' ≠ g) :
    SamePin s (s.replay [valueWrite g val, funcWrite s g .out]) g' := by
  have hio := hs.mapped hm
  have hio' : (s.replay [valueWrite g val]).hndl.gpioIo = true := by rwa [hndl_replay]
  have hfunc := samePin_funcWrite hio' hg .out hne
  rw [funcWrite_valueWrite hio hg, ← replay_append] at hfunc
  exact (samePin_valueWrite hio hg val hg' hne).trans hfunc

/-- The pin after `gpio_direction_output`. -/
theorem drives_output (hs : PinInv s) (hm : s.hndl.Mapped) (hg : g < gpioNum) (val : ℕ) :
    (s.replay [valueWrite g val, funcWrite s g .out]).drives g = some (decide (val ≠ 0)) := by
  have hout := gpioDirectionOutput_pins hs ⟨true, true, true, true⟩ g val
  rw [gpioDirectionOutput_replay hs hm hg] at hout
  rw [hout.done rfl, Function.update_self]

/-- A pin becomes an output: what it does on the way. It is as it was before the write of the
value if it was no output, and as it is to be from the write of the function on. -/
theorem gpioDirectionOutput_passes (hs : PinInv s) (hm : s.hndl.Mapped) (hg : g < gpioNum)
    (e : DirEnv) (val : ℕ) {t : GpioSt} (ht : s.Passes (gpioDirectionOutput e s g val).2 t) :
    t.drives g = s.drives g ∨ t.drives g = ((s.drives g).map fun _ => decide (val ≠ 0)) ∨
      t.drives g = some (decide (val ≠ 0)) := by
  rw [gpioDirectionOutput_replay hs hm hg, passes_replay_iff (hs.mapped hm)] at ht
  obtain ⟨p, hp, rfl⟩ := ht
  obtain rfl | rfl | rfl := prefix_pair_cases hp
  · exact Or.inl rfl
  · refine Or.inr (Or.inl ?_)
    rw [drives_valueWrite hs hm hg, Function.update_self]
  · exact Or.inr (Or.inr (drives_output hs hm hg val))

/-- A pin becomes an output: what the other pins do on the way. -/
theorem gpioDirectionOutput_others (hs : PinInv s) (hm : s.hndl.Mapped) (hg : g < gpioNum)
    (e : DirEnv) (val : ℕ) {t : GpioSt} (ht : s.Passes (gpioDirectionOutput e s g val).2 t)
    {g' : ℕ} (hg' : g' < gpioNum) (hne : g' ≠ g) : SamePin s t g' := by
  have hio := hs.mapped hm
  rw [gpioDirectionOutput_replay hs hm hg, passes_replay_iff hio] at ht
  obtain ⟨p, hp, rfl⟩ := ht
  obtain rfl | rfl | rfl := prefix_pair_cases hp
  · exact ⟨rfl, rfl⟩
  · exact samePin_valueWrite hio hg val hg' hne
  · exact samePin_output hs hm hg val hg' hne

/-- A pin becomes an input, by one register write. -/
theorem gpioDirectionInput_passes (hs : PinInv s) (hm : s.hndl.Mapped) (hg : g < gpioNum)
    (e : DirEnv) {t : GpioSt} (ht : s.Passes (gpioDirectionInput e s g).2 t) :
    (t.drives g = s.drives g ∨ t.drives g = none) ∧ ∀ g' ≠ g, SamePin s t g' := by
  have hio := hs.mapped hm
  have hin := gpioDirectionInput_pins hs e g
  rw [gpioDirectionInput_replay hs hm hg] at ht hin
  rw [passes_replay_iff hio] at ht
  obtain ⟨p, hp, rfl⟩ := ht
  obtain rfl | rfl := prefix_singleton_cases hp
  · exact ⟨Or.inl rfl, fun _ _ => ⟨rfl, rfl⟩⟩
  · refine ⟨Or.inr ?_, fun g' hne => samePin_funcWrite hio hg .in hne⟩
    rw [hin.done rfl, Function.update_self]

/-- A pin that is left alone does what it did. -/
theorem drives_of_passes {s' t : GpioSt} (hm : s.hndl.Mapped) (ht : s.Passes s' t) {g' : ℕ}
    (h : g' < gpioNum → SamePin s t g') : t.drives g' = s.drives g' := by
  obtain ⟨p, -, rfl⟩ := ht
  rcases lt_or_ge g' gpioNum with hg' | hg'
  · exact (h hg').drives (hndl_replay s p) hm
  · rw [drives_of_le hg', drives_of_le hg']

/-- **One call** of an emulated output. The pin is released, by the write of its function, or it
is driven by two writes, of which the first one sets its level. -/
theorem openCall_gpioOpenSetValue (hs : PinInv s) (hm : s.hndl.Mapped) (hg : g < gpioNum)
    (e : DirEnv) {b : Bool} {level : ℕ} (hlevel : decide (level ≠ 0) = !b) (release : Bool)
    {pins : ℕ → Prop} (hpins : ∀ g', pins g' → s.drives g' ≠ some b) (hmem : pins g) :
    OpenCall b pins s g release (gpioOpenSetValue level release e s g) := by
  have hio := hs.mapped hm
  have hnot : some (!b) ≠ some b := by rcases b <;> decide
  have hnever : ∀ t : GpioSt, (t.drives g = s.drives g ∨ t.drives g = none ∨ t.drives g = some !b) →
      (∀ g' ≠ g, t.drives g' = s.drives g') → ∀ g', pins g' → t.drives g' ≠ some b := by
    intro t hself hother g' hg'
    rcases eq_or_ne g' g with rfl | hne
    · obtain h | h | h := hself
      · rw [h]
        exact hpins g' hmem
      · rw [h]
        exact (Option.some_ne_none b).symm
      · rw [h]
        exact hnot
    · rw [hother g' hne]
      exact hpins g' hg'
  rw [gpioOpenSetValue]
  rcases release with _ | _
  · rw [if_neg (by decide)]
    have hcall := gpioDirectionOutput_replay hs hm hg e level
    refine ⟨congrArg Prod.fst hcall, ?_, fun t ht => hnever t ?_ fun g' hne => ?_,
      fun t ht g' hg' hne => gpioDirectionOutput_others hs hm hg e level ht hg' hne,
      fun h => absurd h (by decide), fun _ => ?_⟩
    · rw [hcall, newWrites_replay hio]
    · have hpass := gpioDirectionOutput_passes hs hm hg e level ht
      rw [hlevel] at hpass
      obtain h | h | h := hpass
      · exact Or.inl h
      · rcases hd : s.drives g with _ | d
        · exact Or.inr (Or.inl (h.trans (by rw [hd]; rfl)))
        · exact Or.inr (Or.inr (h.trans (by rw [hd]; rfl)))
      · exact Or.inr (Or.inr h)
    · exact drives_of_passes hm ht fun hg' =>
        gpioDirectionOutput_others hs hm hg e level ht hg' hne
    · rw [hcall, ← hlevel]
      exact drives_output hs hm hg level
  · rw [if_pos rfl]
    have hcall := gpioDirectionInput_replay hs hm hg e
    refine ⟨congrArg Prod.fst hcall, ?_, fun t ht => hnever t ?_ fun g' hne => ?_,
      fun t ht g' _ hne => (gpioDirectionInput_passes hs hm hg e ht).2 g' hne,
      fun _ => ?_, fun h => absurd h (by decide)⟩
    · rw [hcall, newWrites_replay hio]
    · exact (gpioDirectionInput_passes hs hm hg e ht).1.imp_right Or.inl
    · exact drives_of_passes hm ht fun _ => (gpioDirectionInput_passes hs hm hg e ht).2 g' hne
    · rw [hcall]
      exact (func_setFunc hio g g .in).trans (if_pos rfl)

/-- A call keeps the handle in order. -/
theorem OpenCall.keeps {b : Bool} {pins : ℕ → Prop} {release : Bool} {r : LrErrc × GpioSt}
    (h : OpenCall b pins s g release r) (hs : PinInv s) (hm : s.hndl.Mapped) :
    PinInv r.2 ∧ r.2.hndl.Mapped ∧ ∀ g', pins g' → r.2.drives g' ≠ some b := by
  have hlast : s.Passes r.2 r.2 := ⟨_, List.prefix_rfl, h.whole⟩
  refine ⟨?_, ?_, h.never r.2 hlast⟩
  · rw [h.whole]
    exact pinInv_replay hs _
  · rw [h.whole, hndl_replay]
    exact hm

end Writes

/-! ### Any calls -/

section Runs

variable {s : GpioSt}

/-- A call for a valid GPIO, with its value. -/
abbrev OpenArgs := Fin gpioNum × ℕ

instance : NeZero gpioNum := ⟨Nat.succ_ne_zero 53⟩

/-- One of the two functions as a step: the calls do not fail, as is to be shown. -/
def openStep (f : GpioSt → ℕ → ℕ → LrErrc × GpioSt) (s : GpioSt) (c : OpenArgs) : Option GpioSt :=
  some (f s c.1 c.2).2

/-- The pins of some calls. -/
def pinsOf (cs : List OpenArgs) (g : ℕ) : Prop := ∃ c ∈ cs, (c.1 : ℕ) = g

/-- Every call of a sequence is as it should be. -/
def OpenCalls (b : Bool) (release : ℕ → Bool) (f : GpioSt → ℕ → ℕ → LrErrc × GpioSt) (s : GpioSt)
    (cs : List OpenArgs) : Prop :=
  Run.Each (openStep f)
    (fun s c _ => OpenCall b (pinsOf cs) s c.1 (release c.2) (f s c.1 c.2)) s cs

/-- **Any calls**: each of them is as it should be, if the pins are not driven to the wrong level
at first. The induction is on the calls; what it carries is that condition, which each call
keeps for all of the pins. -/
theorem openCalls_of_call {b : Bool} {release : ℕ → Bool}
    {f : GpioSt → ℕ → ℕ → LrErrc × GpioSt}
    (hcall : ∀ (s : GpioSt) (pins : ℕ → Prop) (c : OpenArgs), PinInv s → s.hndl.Mapped →
      (∀ g', pins g' → s.drives g' ≠ some b) → pins c.1 →
      OpenCall b pins s c.1 (release c.2) (f s c.1 c.2))
    (hs : PinInv s) (hm : s.hndl.Mapped) (cs : List OpenArgs)
    (hcs : ∀ c ∈ cs, s.drives c.1 ≠ some b) : OpenCalls b release f s cs := by
  have hpins : ∀ g', pinsOf cs g' → s.drives g' ≠ some b := by
    rintro g' ⟨c, hc, rfl⟩
    exact hcs c hc
  have hrun : ∀ (as : List OpenArgs) (t : GpioSt), (∀ c ∈ as, pinsOf cs c.1) → PinInv t →
      t.hndl.Mapped → (∀ g', pinsOf cs g' → t.drives g' ≠ some b) →
      Run.Each (openStep f)
        (fun s c _ => OpenCall b (pinsOf cs) s c.1 (release c.2) (f s c.1 c.2)) t as := by
    intro as
    induction as with
    | nil => exact fun _ _ _ _ _ => trivial
    | cons c as ih =>
      intro t has ht hmt hpt t' hstep
      obtain rfl := Option.some.inj hstep
      have hc := hcall t (pinsOf cs) c ht hmt hpt (has c List.mem_cons_self)
      obtain ⟨ht', hmt', hpt'⟩ := hc.keeps ht hmt
      exact ⟨hc, ih _ (fun c' hc' => has c' (List.mem_cons_of_mem c hc')) ht' hmt' hpt'⟩
  exact hrun cs s (fun c hc => ⟨c, hc, rfl⟩) hs hm hpins

/-- On the mapped registers no open-drain output is ever driven high, no open-source output is ever
driven low, and `gpio_direction_output` drives a pin that was no output with the requested value
only, after every single register write; the other pins are left alone. -/
theorem gpioOpen_spec (e : DirEnv) (hs : PinInv s) (hm : s.hndl.Mapped) :
    (∀ cs : List OpenArgs, (∀ c ∈ cs, s.drives c.1 ≠ some true) →
      OpenCalls true (fun val => val &&& 1 ≠ 0) (gpioOpndrnSetValue e) s cs) ∧
    (∀ cs : List OpenArgs, (∀ c ∈ cs, s.drives c.1 ≠ some false) →
      OpenCalls false (fun val => ¬ val &&& 1 ≠ 0) (gpioOpnsrcSetValue e) s cs) ∧
    ∀ g < gpioNum, s.bcm.func g ≠ GpioBcmFunc.out.code → ∀ val t,
      s.Passes (gpioDirectionOutput e s g val).2 t →
      t.drives g = none ∨ t.drives g = some (decide (val ≠ 0)) := by
  refine ⟨fun cs hcs => openCalls_of_call (fun s pins c hs hm hpins hmem => ?_) hs hm cs hcs,
    fun cs hcs => openCalls_of_call (fun s pins c hs hm hpins hmem => ?_) hs hm cs hcs, ?_⟩
  · exact openCall_gpioOpenSetValue hs hm c.1.isLt e rfl _ hpins hmem
  · exact openCall_gpioOpenSetValue hs hm c.1.isLt e rfl _ hpins hmem
  · intro g hg hfunc val t ht
    have hnone : s.drives g = none := by rw [drives_of_mapped hm hg, if_neg hfunc]
    have hpass := gpioDirectionOutput_passes hs hm hg e val ht
    rw [hnone] at hpass
    obtain h | h | h := hpass
    · exact Or.inl h
    · exact Or.inl h
    · exact Or.inr h

/-- A handle right after its initialization, with registers that are all 0. -/
theorem gpioOpen_spec_reset :
    let s : GpioSt := ⟨(gpioInit ⟨true, true⟩ (some .io)).2, ⟨fun _ => 0, [], false⟩,
      ⟨fun _ => false, fun _ => 0, fun _ => false, fun _ => false⟩⟩
    OpenCalls true (fun val => val &&& 1 ≠ 0)
      (gpioOpndrnSetValue ⟨true, true, true, true⟩) s
      [(Fin.ofNat _ 4, 0), (Fin.ofNat _ 7, 1), (Fin.ofNat _ 4, 1)] := by
  intro s
  refine (gpioOpen_spec ⟨true, true, true, true⟩ (pinInv_gpioInit _ _ _ _) (Or.inl rfl)).1 _ ?_
  decide

end Runs

end Librasp
