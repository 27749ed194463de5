import Librasp.Devices.Probe

/-!
# `shr_piso.c`: a parallel-in serial-out shift register

The register is loaded while SH/~LD is low, and its bits are shifted out by the edges of CLK.

The cleanup brings CLK back, but not SH/~LD: it stays low if it could be set low and not high
again (`shrPisoRead_failSafe_iff`).

* `shrPisoRead` is `shr_piso_read`: SH/~LD is set low and high again, CLK low, and then for each
  bit (`shrShift`) the data line is sampled and the clock makes an edge; behind the last bit it is
  left high.
* The bits go to the bytes of `p_dta` from the lowest on (`shrStore`): the `i`-th bit of a byte is
  that of the value `2 ^ i`.
* The flag of the cleanup tells that CLK is low (`ShrReady`).

**Main result.** `shrPisoRead_failSafe_iff`. What is read is the subject of `ShrShift`.
-/

namespace Librasp

/-! ### The model -/

/-- The variables of `shr_piso_read`. -/
structure ShrVars where
  clkLow : Bool
  /-- The bytes from `p_dta` on. -/
  dta : ℕ → UInt8

/-- The `i`-th bit of a byte is stored. -/
def shrStore (dta : ℕ → UInt8) (pos i bt : ℕ) : ℕ → UInt8 :=
  let dta := if i = 0 then Function.update dta pos 0 else dta
  Function.update dta pos (dta pos ||| UInt8.ofNat ((bt &&& 1) <<< i))

section Model

open ProbeM

variable (e : ProbeEnv) (shLdGpio clkGpio dataGpio : ℕ)

/-- The loop of `shr_piso_read`, with `n_dta_bits` to go, at the `i`-th bit of the byte `pos`. -/
def shrShift : ℕ → ℕ → ℕ → ProbeM ShrVars Unit
  | 0, _, _ => pure ()
  | n + 1, pos, i => do
    let bt ← execRg (getValue e dataGpio)
    setVars fun v => { v with dta := shrStore v.dta pos i bt }
    execRg (setValue e clkGpio 1)
    setVars fun v => { v with clkLow := false }
    if n = 0 then pure ()
    else do
      execRg (setValue e clkGpio 0)
      setVars fun v => { v with clkLow := true }
      if (i + 1) >>> 3 ≠ 0 then shrShift n (pos + 1) ((i + 1) &&& 7) else shrShift n pos (i + 1)

/-- `shr_piso_read`, from the preparation of the clock up to `finish`. -/
def shrClocked (nDtaBits : ℕ) : ProbeM ShrVars LrErrc := do
  execRg (setValue e clkGpio 0)
  setVars fun v => { v with clkLow := true }
  shrShift e clkGpio dataGpio nDtaBits 0 0
  pure .success

/-- `shr_piso_read`, up to `finish`. -/
def shrBody (nDtaBits : ℕ) : ProbeM ShrVars LrErrc :=
  if nDtaBits = 0 then pure .success
  else do
    -- load the register with parallel input
    execRg (setValue e shLdGpio 0)
    execRg (setValue e shLdGpio 1)
    shrClocked e clkGpio dataGpio nDtaBits

/-- `shr_piso_read`. -/
def shrPisoRead (nDtaBits : ℕ) : ProbeM ShrVars LrErrc :=
  Prog.finish (shrBody e shLdGpio clkGpio dataGpio nDtaBits)
    (undoIf ShrVars.clkLow (setValue e clkGpio 1))

end Model

/-! ### One call fails -/

section FailSafe

open Prog

variable {e : ProbeEnv} {shLd clk data : ℕ} {v : ShrVars} {d : ℕ → Option Bool}
  {s : ProbeSt ShrVars}

/-- SH/~LD and CLK are high. -/
def ShrPost (shLd clk : ℕ) (d : ℕ → Option Bool) : Prop := d shLd = some true ∧ d clk = some true

/-- CLK is low while the flag is set, and SH/~LD is high. -/
def ShrReady (shLd clk : ℕ) (v : ShrVars) (d : ℕ → Option Bool) : Prop :=
  d clk = some (!v.clkLow) ∧ (shLd = clk ∨ d shLd = some true)

/-- SH/~LD can be set low, and not high again. -/
def ShrExposed (e : ProbeEnv) (gpio : GpioSt) (shLd n : ℕ) : Prop :=
  n ≠ 0 ∧ ¬ gpio.hndl.Mapped ∧ (gpioSetValue (e.call 0).wr gpio shLd 0).1 = .success ∧
    (e.call 1).wr = false

/-- CLK is set, and the flag with it. -/
theorem shrReady_clk (hC : ShrReady shLd clk v d) (val : ℕ) (dta : ℕ → UInt8) :
    ShrReady shLd clk ⟨!decide (val ≠ 0), dta⟩
      (Function.update d clk ((d clk).map fun _ => decide (val ≠ 0))) := by
  refine ⟨?_, ?_⟩
  · rw [Function.update_self, hC.1, Option.map_some, Bool.not_not]
  · rcases eq_or_ne shLd clk with heq | hne
    · exact Or.inl heq
    · rw [Function.update_of_ne hne]
      exact hC.2

/-- In every round the cleanup is ready, and after the last one CLK is high. The induction is on
the number of bits to go. -/
theorem ensures_shrShift (n pos i : ℕ) (hC : ShrReady shLd clk v d) (hs : ProbeAt v d s) :
    Ensures (shrShift e clk data n pos i) s
      (fun _ s' => ∃ v' d', ProbeAt v' d' s' ∧ ShrReady shLd clk v' d' ∧
        (n ≠ 0 → v'.clkLow = false)) (probeExits (ShrReady shLd clk)) := by
  induction n generalizing pos i v d s with
  | zero => exact ensures_pure ⟨v, d, hs, hC, fun h => absurd rfl h⟩
  | succ n ih =>
    rw [shrShift]
    refine ensures_bind (ensures_getValue hs hC data) fun bt s1 h1 => ?_
    refine ensures_bind (ensures_setVars h1 _) fun _ s2 h2 => ?_
    refine ensures_bind (ensures_setValue h2 hC clk 1) fun _ s3 h3 => ?_
    refine ensures_bind (ensures_setVars h3 _) fun _ s4 h4 => ?_
    have hC4 := shrReady_clk hC 1 (shrStore v.dta pos i bt)
    by_cases hn : n = 0
    · rw [if_pos hn]
      exact ensures_pure ⟨_, _, h4, hC4, fun _ => rfl⟩
    rw [if_neg hn]
    refine ensures_bind (ensures_setValue h4 hC4 clk 0) fun _ s5 h5 => ?_
    refine ensures_bind (ensures_setVars h5 _) fun _ s6 h6 => ?_
    have hC6 := shrReady_clk hC4 0 (shrStore v.dta pos i bt)
    have hrest := fun pos' i' => ih pos' i' hC6 h6
    split_ifs
    · exact (hrest _ _).mono fun _ _ ⟨v', d', h', hC', hlow⟩ =>
        ⟨v', d', h', hC', fun _ => hlow hn⟩
    · exact (hrest _ _).mono fun _ _ ⟨v', d', h', hC', hlow⟩ =>
        ⟨v', d', h', hC', fun _ => hlow hn⟩

theorem ensures_shrClocked {n : ℕ} (hn : n ≠ 0) (hC : ShrReady shLd clk v d)
    (hs : ProbeAt v d s) :
    Ensures (shrClocked e clk data n) s
      (fun _ s' => ∃ v' d', ProbeAt v' d' s' ∧ ShrReady shLd clk v' d' ∧ v'.clkLow = false)
      (probeExits (ShrReady shLd clk)) := by
  rw [shrClocked]
  refine ensures_bind (ensures_setValue hs hC clk 0) fun _ s1 h1 => ?_
  refine ensures_bind (ensures_setVars h1 _) fun _ s2 h2 => ?_
  refine ensures_bind (ensures_shrShift n 0 0 (shrReady_clk hC 0 v.dta) h2) ?_
  rintro _ s3 ⟨v', d', h', hC', hlow⟩
  exact ensures_pure ⟨v', d', h', hC', hlow hn⟩

/-- The register is loaded: the second call fails only where it is said to. -/
theorem ensures_shrLoad {n : ℕ} (hn : n ≠ 0) (hv : v.clkLow = false) (hpre : ShrPost shLd clk d)
    (hs : ProbeAt v d s) (h0 : s.hist = []) (hno : ¬ ShrExposed e s.gpio shLd n) :
    Ensures (shrBody e shLd clk data n) s
      (fun _ s' => ∃ v' d', ProbeAt v' d' s' ∧ ShrReady shLd clk v' d' ∧ v'.clkLow = false)
      (probeExits (ShrReady shLd clk)) := by
  have hC : ShrReady shLd clk v d := ⟨by rw [hv, hpre.2]; rfl, Or.inr hpre.1⟩
  obtain ⟨r, hr⟩ : ∃ r, r = gpioSetValue (e.call 0).wr s.gpio shLd 0 := ⟨_, rfl⟩
  have hfirst : ProbeM.setValue e shLd 0 s = (.val (r.1, ()), s.after r.1 r.2) := by
    rw [ProbeM.setValue, ProbeM.call, h0, hr]
    rfl
  have hpins := gpioSetValue_pins hs.inv (e.call 0).wr shLd 0
  rw [← hr] at hpins
  rw [shrBody, if_neg hn]
  refine ensures_bind (Q := fun _ s1 => r.1 = .success ∧ s1 = s.after .success r.2) ?_ ?_
  · refine ensures_execRg hfirst (fun hret => ⟨hret, by rw [hret]⟩) fun hret => ?_
    refine hs.after_failure hpins.inv hret ?_
    rw [hpins.failed hret, hs.drives]
    exact hC
  rintro _ s1 ⟨hret, rfl⟩
  have hat := hs.after_success hpins.inv
  have hagain : (gpioSetValue (e.call 1).wr r.2 shLd 1).1 = .success := by
    rw [hr, gpioSetValue_again (hr ▸ hret), if_pos]
    by_contra hno'
    rw [not_or] at hno'
    exact hno ⟨hn, hno'.1, hr ▸ hret, eq_false_of_ne_true hno'.2⟩
  have hsecond : ProbeM.setValue e shLd 1 (s.after .success r.2) =
      (.val (.success, ()), (s.after .success r.2).after .success
        (gpioSetValue (e.call 1).wr r.2 shLd 1).2) := by
    rw [ProbeM.setValue, ProbeM.call, ProbeSt.after, h0, ← hagain]
    rfl
  have hpins' := gpioSetValue_pins hpins.inv (e.call 1).wr shLd 1
  have hat' := hat.after_success hpins'.inv
  have hd : (gpioSetValue (e.call 1).wr r.2 shLd 1).2.drives =
      Function.update d shLd (some true) := by
    rw [hpins'.done hagain, hpins.done hret, hs.drives, Function.update_idem,
      Function.update_self, hpre.1]
    rfl
  rw [hd] at hat'
  refine ensures_bind (Q := fun _ => ProbeAt v (Function.update d shLd (some true)))
    (ensures_execRg hsecond (fun _ => hat') fun h => absurd rfl h) fun _ s2 h2 => ?_
  refine ensures_shrClocked hn ⟨?_, Or.inr (Function.update_self ..)⟩ h2
  rw [Function.update_apply, hv, hpre.2]
  split_ifs <;> rfl

/-- SH/~LD is set low, cannot be set high again, and so is left low. -/
theorem shrPisoRead_exposed (clk data : ℕ) {n : ℕ} (hv : v.clkLow = false)
    (hpre : d shLd = some true) (hs : ProbeAt v d s) (h0 : s.hist = [])
    (hexp : ShrExposed e s.gpio shLd n) :
    ∃ k s', shrPisoRead e shLd clk data n s = (.val .writeErr, s') ∧
      s'.fails = [(k, .writeErr)] ∧ s'.gpio.drives shLd = some false := by
  obtain ⟨hn, hm, hret, hwr⟩ := hexp
  obtain ⟨r, hr⟩ : ∃ r, r = gpioSetValue (e.call 0).wr s.gpio shLd 0 := ⟨_, rfl⟩
  have hpins := gpioSetValue_pins hs.inv (e.call 0).wr shLd 0
  have hfirst : ProbeM.setValue e shLd 0 s = (.val (.success, ()), s.after .success r.2) := by
    rw [ProbeM.setValue, ProbeM.call, h0, hr, ← hret]
    rfl
  rw [← hr] at hpins hret
  obtain ⟨r', hr'⟩ : ∃ r', r' = gpioSetValue (e.call 1).wr r.2 shLd 1 := ⟨_, rfl⟩
  have hpins' := gpioSetValue_pins hpins.inv (e.call 1).wr shLd 1
  have hret' : r'.1 = .writeErr := by
    rw [hr', hr, gpioSetValue_again (hr ▸ hret), if_neg (by simp [hm, hwr])]
  rw [← hr'] at hpins'
  obtain ⟨t, ht⟩ : ∃ t, t = s.after .success r.2 := ⟨_, rfl⟩
  have hat : ProbeAt v r.2.drives t := ht ▸ hs.after_success hpins.inv
  have hsecond : ProbeM.setValue e shLd 1 t = (.val (.writeErr, ()), t.after .writeErr r'.2) := by
    rw [ProbeM.setValue, ProbeM.call, ht, ProbeSt.after, h0, ← hret', hr']
    rfl
  have hbody : shrBody e shLd clk data n s = (.exit .writeErr, t.after .writeErr r'.2) := by
    rw [shrBody, if_neg hn, bind_of_val (execRg_of_success (ht ▸ hfirst))]
    exact bind_of_exit (execRg_of_failure hsecond (by decide)) _
  have hflag : ShrVars.clkLow (t.after .writeErr r'.2).vars = false :=
    (congrArg ShrVars.clkLow hat.vars).trans hv
  refine ⟨t.hist.length, t.after .writeErr r'.2, ?_, hat.fails_after (by decide) r'.2, ?_⟩
  · rw [shrPisoRead, finish_of_exit hbody, undoIf_idle hflag]
  · show r'.2.drives shLd = _
    rw [hpins'.failed (by rw [hret']; decide), hpins.done hret, Function.update_self, hs.drives,
      hpre]
    rfl

/-- `shr_piso_read` is fail-safe exactly if it is not the second call that fails. -/
theorem shrPisoRead_failSafe_iff {gpio : GpioSt} (hinv : PinInv gpio)
    (hpre : ShrPost shLd clk gpio.drives) (n : ℕ) (dta : ℕ → UInt8) (proc : Process) :
    ProbeFailSafe (ShrPost shLd clk) (fun _ => shrPisoRead e shLd clk data n
      (ProbeSt.startPlain gpio proc ⟨false, dta⟩)) ↔ ¬ ShrExposed e gpio shLd n := by
  obtain ⟨s, hs⟩ : ∃ s, s = ProbeSt.startPlain gpio proc (⟨false, dta⟩ : ShrVars) := ⟨_, rfl⟩
  have hat : ProbeAt ⟨false, dta⟩ gpio.drives s := by
    rw [hs]
    exact probeAt_start hinv proc ⟨-1, 0⟩ _
  have hgpio : s.gpio = gpio := by rw [hs]; rfl
  have h0 : s.hist = [] := by rw [hs]; rfl
  rw [← hs]
  constructor
  · intro hsafe hexp
    obtain ⟨k, s', hrun, hfails, hlow⟩ := shrPisoRead_exposed clk data rfl hpre.1 hat h0
      (hgpio.symm ▸ hexp)
    have htold := hsafe.told 0 k .writeErr
    rw [hrun] at htold
    exact absurd (hlow.symm.trans (htold hfails).2.1) (by simp)
  · intro hno
    refine probeFailSafe_of_ensures (C := ShrReady shLd clk) fun _ => ?_
    rw [shrPisoRead]
    refine ensures_finish (P := fun _ s' => ∃ v' d', ProbeAt v' d' s' ∧
      ShrReady shLd clk v' d' ∧ v'.clkLow = false) (X := probeExits (ShrReady shLd clk)) ?_ ?_ ?_
    · by_cases hn : n = 0
      · rw [shrBody, if_pos hn]
        exact ensures_pure ⟨_, _, hat, ⟨hpre.2, Or.inr hpre.1⟩, rfl⟩
      · exact ensures_shrLoad hn rfl hpre hat h0 (hgpio ▸ hno)
    · rintro ret s' ⟨v', d', h', -, hflag⟩
      exact h'.done_undoIf hflag _ ret
    · intro err s' h'
      have hC : ShrReady shLd clk s'.vars s'.gpio.drives := h'.ready
      refine h'.done (fun hflag => ?_) fun hflag c hret => ?_
      · have hclk : s'.gpio.drives clk = some true := by rw [hC.1, hflag]; rfl
        exact ⟨hC.2.elim (fun h => h ▸ hclk) id, hclk⟩
      · have hdone := (gpioSetValue_pins h'.inv c.wr clk 1).done hret
        have hC' := shrReady_clk hC 1 s'.vars.dta
        rw [← hdone] at hC'
        exact ⟨hC'.2.elim (fun h => h ▸ hC'.1) id, hC'.1⟩

end FailSafe

end Librasp
