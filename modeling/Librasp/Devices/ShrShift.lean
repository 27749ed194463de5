import Librasp.Devices.ShrPiso

/-!
# `shr_piso.c`: the register on the other side

`Piso` is a parallel-in serial-out shift register. It follows its two lines: what they did after
each call is all it knows (`Piso.run`).

Where the data line is the output of such a register, and no call fails, `shr_piso_read` samples
its stages one after the other, and stores them bit by bit (`ShrDone`). The loop is carried by two
invariants: after `j` bits the register has been shifted `j` times (`ShrAt`), and the bits are in
the first bytes (`ShrStored`).

* The register has any number of stages, and behind the last one anything is shifted in
  (`Piso.out`); as many bits as there are stages are those that were loaded.
* The bytes behind the last bit are those of before, and the bits behind it in the last byte are
  cleared.
* A call that fails is the only way for the function not to come to its end (`shrFails`).

**Main result.** `shrPisoRead_done`, for any number of bits; `shrPisoRead_three` is a register on
three GPIOs of the mapped registers.
-/

namespace Librasp

/-! ### The register -/

/-- A parallel-in serial-out shift register, and the level of its clock line. -/
structure Piso where
  stages : List Bool
  clk : Bool

namespace Piso

/-- The output: the first stage, or what is shifted in behind the last one. -/
def out (ser : Bool) (q : Piso) : Bool := q.stages.headD ser

/-- The lines change. The inputs are loaded while SH/~LD is low; otherwise a rising edge of CLK
shifts. -/
def step (inputs : List Bool) (shLd clk : ℕ) (q : Piso) (d : ℕ → Option Bool) : Piso :=
  let c := (d clk).getD q.clk
  if d shLd = some false then ⟨inputs, c⟩
  else if c && !q.clk then ⟨q.stages.tail, c⟩
  else ⟨q.stages, c⟩

/-- A register that has followed its lines; CLK was high at first. -/
def run (inputs : List Bool) (shLd clk : ℕ) (stages : List Bool) (hist : List (ℕ → Option Bool)) :
    Piso :=
  hist.foldl (step inputs shLd clk) ⟨stages, true⟩

section Step

variable {inputs stages : List Bool} {shLd clk : ℕ} {q : Piso} {d : ℕ → Option Bool}

theorem run_append (hist : List (ℕ → Option Bool)) (d : ℕ → Option Bool) :
    run inputs shLd clk stages (hist ++ [d]) =
      step inputs shLd clk (run inputs shLd clk stages hist) d := by
  rw [run, List.foldl_append]
  rfl

theorem step_load (hload : d shLd = some false) {c : Bool} (hclk : d clk = some c) :
    step inputs shLd clk q d = ⟨inputs, c⟩ := by
  rw [step, if_pos hload, hclk]
  rfl

theorem step_clk (hload : d shLd = some true) {c : Bool} (hclk : d clk = some c) :
    step inputs shLd clk q d = if c && !q.clk then ⟨q.stages.tail, c⟩ else ⟨q.stages, c⟩ := by
  rw [step, hload, hclk, if_neg (by simp)]
  rfl

end Step

end Piso

/-! ### The bytes -/

/-- The first `j` bits are stored in the bytes that it takes, and the bytes behind are those of
before. -/
structure ShrStored (bit : ℕ → Bool) (j : ℕ) (before dta : ℕ → UInt8) : Prop where
  bits : ∀ k < (j + 7) / 8, ∀ m,
    (dta k).toNat.testBit m = (decide (m < 8 ∧ 8 * k + m < j) && bit (8 * k + m))
  rest : ∀ k, (j + 7) / 8 ≤ k → dta k = before k

theorem shrStored_zero (bit : ℕ → Bool) (dta : ℕ → UInt8) : ShrStored bit 0 dta dta :=
  ⟨fun k hk => absurd hk (by omega), fun _ _ => rfl⟩

/-- A bit that is stored. -/
theorem testBit_shl (b : Bool) {i : ℕ} (hi : i < 8) (m : ℕ) :
    (UInt8.ofNat ((b.toNat &&& 1) <<< i)).toNat.testBit m = (decide (m = i) && b) := by
  have hb : b.toNat &&& 1 = b.toNat := by rcases b <;> rfl
  rw [hb, UInt8.toNat_ofNat', Nat.testBit_mod_two_pow, Nat.testBit_shiftLeft,
    Nat.testBit_bool_toNat]
  rcases lt_trichotomy m i with hlt | rfl | hlt
  · simp [hlt.ne, not_le.mpr hlt]
  · simp [hi]
  · have hpos : ¬ m - i = 0 := by omega
    simp [hlt.ne', hpos]

theorem ShrStored.store {bit : ℕ → Bool} {j : ℕ} {before dta : ℕ → UInt8}
    (h : ShrStored bit j before dta) :
    ShrStored bit (j + 1) before (shrStore dta (j / 8) (j % 8) (bit j).toNat) := by
  have hmod : j % 8 < 8 := Nat.mod_lt j (by decide)
  have hother : ∀ k, k ≠ j / 8 → shrStore dta (j / 8) (j % 8) (bit j).toNat k = dta k := by
    intro k hk
    rw [shrStore]
    split_ifs
    · rw [Function.update_of_ne hk, Function.update_of_ne hk]
    · rw [Function.update_of_ne hk]
  -- the byte that the bit is stored in holds the bits before it, if there are any
  have hbyte : ∀ m, (shrStore dta (j / 8) (j % 8) (bit j).toNat (j / 8)).toNat.testBit m =
      ((decide (m < 8 ∧ 8 * (j / 8) + m < j) && bit (8 * (j / 8) + m)) ||
        (decide (m = j % 8) && bit j)) := by
    intro m
    rw [shrStore, Function.update_self, UInt8.toNat_or, Nat.testBit_or, testBit_shl _ hmod]
    congr 1
    split_ifs with hzero
    · have hnone : ¬ (m < 8 ∧ 8 * (j / 8) + m < j) := by omega
      rw [Function.update_self, decide_eq_false hnone, Bool.false_and]
      exact Nat.zero_testBit m
    · exact h.bits (j / 8) (by omega) m
  constructor
  · intro k hk m
    rcases eq_or_ne k (j / 8) with rfl | hne
    · rw [hbyte]
      rcases eq_or_ne m (j % 8) with rfl | hm
      · have hj : 8 * (j / 8) + j % 8 = j := Nat.div_add_mod j 8
        simp [hj, hmod]
      · have hiff : (m < 8 ∧ 8 * (j / 8) + m < j + 1) ↔ (m < 8 ∧ 8 * (j / 8) + m < j) := by
          omega
        rw [decide_eq_decide.mpr hiff, decide_eq_false hm, Bool.false_and, Bool.or_false]
    · have hlt : k < (j + 7) / 8 := by omega
      have hiff : (m < 8 ∧ 8 * k + m < j + 1) ↔ (m < 8 ∧ 8 * k + m < j) := by omega
      rw [hother k hne, h.bits k hlt m, decide_eq_decide.mpr hiff]
  · intro k hk
    rw [hother k (by omega)]
    exact h.rest k (by omega)

/-! ### The program -/

section Program

open ProbeM Prog

variable (e : ProbeEnv) (shLd clk data : ℕ)

/-- What the loop does for a bit, with the sample; there is no falling edge behind the last. -/
def shrRound (last : Bool) (pos i : ℕ) : ProbeM ShrVars ℕ := do
  let bt ← execRg (getValue e data)
  setVars fun v => { v with dta := shrStore v.dta pos i bt }
  execRg (setValue e clk 1)
  setVars fun v => { v with clkLow := false }
  if last then pure bt
  else do
    execRg (setValue e clk 0)
    setVars fun v => { v with clkLow := true }
    pure bt

/-- The samples that the loop takes. -/
def shrSamples : ℕ → ℕ → ℕ → ProbeSt ShrVars → List ℕ
  | 0, _, _, _ => []
  | n + 1, pos, i, s =>
    match shrRound e clk data (n == 0) pos i s with
    | (.val bt, s') => bt :: shrSamples n (pos + (i + 1) / 8) ((i + 1) % 8) s'
    | _ => []

/-- The register is loaded, and the clock prepared. -/
def shrLoad : ProbeM ShrVars Unit := do
  execRg (setValue e shLd 0)
  execRg (setValue e shLd 1)
  execRg (setValue e clk 0)
  setVars fun v => { v with clkLow := true }

/-- The samples that `shr_piso_read` takes. -/
def shrPisoSamples (n : ℕ) (s : ProbeSt ShrVars) : List ℕ :=
  if n = 0 then []
  else
    match shrLoad e shLd clk s with
    | (.val _, s') => shrSamples e clk data n 0 0 s'
    | _ => []

variable {e : ProbeEnv} {shLd clk data : ℕ}

/-- A bit after the other. -/
theorem shrShift_succ (n pos : ℕ) {i : ℕ} (hi : i < 8) :
    shrShift e clk data (n + 1) pos i = shrRound e clk data (n == 0) pos i >>= fun _ =>
      shrShift e clk data n (pos + (i + 1) / 8) ((i + 1) % 8) := by
  have hshr : (i + 1) >>> 3 = (i + 1) / 8 := Nat.shiftRight_eq_div_pow _ 3
  have hand : (i + 1) &&& 7 = (i + 1) % 8 := Nat.and_two_pow_sub_one_eq_mod _ 3
  rw [shrShift, shrRound, hshr, hand, Prog.bind_assoc]
  refine congrArg (_ >>= ·) (funext fun bt => ?_)
  rw [Prog.bind_assoc]
  refine congrArg (_ >>= ·) (funext fun _ => ?_)
  rw [Prog.bind_assoc]
  refine congrArg (_ >>= ·) (funext fun _ => ?_)
  rw [Prog.bind_assoc]
  refine congrArg (_ >>= ·) (funext fun _ => ?_)
  rcases n with _ | n
  · rfl
  · rw [if_neg (Nat.succ_ne_zero n), if_neg (show ¬ (n + 1 == 0) = true by simp), Prog.bind_assoc]
    refine congrArg (_ >>= ·) (funext fun _ => ?_)
    rw [Prog.bind_assoc]
    refine congrArg (_ >>= ·) (funext fun _ => ?_)
    split_ifs with hfull
    · have hone : (i + 1) / 8 = 1 := by omega
      rw [hone]
      rfl
    · have hnone : (i + 1) / 8 = 0 ∧ (i + 1) % 8 = i + 1 := by omega
      rw [hnone.1, hnone.2]
      rfl

theorem shrBody_eq {n : ℕ} (hn : n ≠ 0) : shrBody e shLd clk data n =
    shrLoad e shLd clk >>= fun _ => shrShift e clk data n 0 0 >>= fun _ => pure .success := by
  rw [shrBody, if_neg hn, shrLoad, Prog.bind_assoc]
  refine congrArg (_ >>= ·) (funext fun _ => ?_)
  rw [Prog.bind_assoc]
  refine congrArg (_ >>= ·) (funext fun _ => ?_)
  rw [shrClocked, Prog.bind_assoc]

/-! ### What the loop does -/

/-- The lines, and the register behind them, when `j` bits have been shifted out and CLK is `c`. -/
structure ShrAt (inputs stages : List Bool) (shLd clk data j : ℕ) (c : Bool) (v : ShrVars)
    (s : ProbeSt ShrVars) : Prop where
  probe : ProbeAt v s.gpio.drives s
  clkIs : s.gpio.drives clk = some c
  shLdHigh : s.gpio.drives shLd = some true
  released : s.gpio.drives data = none
  reg : Piso.run inputs shLd clk stages s.hist = ⟨inputs.drop j, c⟩

/-- Where the function leaves early, a call has failed. -/
def shrFails : Exits LrErrc (ProbeSt ShrVars) where
  exit _ s := s.fails ≠ []
  more _ := False

variable {inputs stages : List Bool} {ser : Bool} {j n : ℕ} {c : Bool} {v : ShrVars}
  {s : ProbeSt ShrVars} {before : ℕ → UInt8}

theorem fails_after_ne_nil {ret : LrErrc} (hret : ret ≠ .success) (g : GpioSt) :
    (s.after ret g).fails ≠ [] := by
  rw [ProbeSt.after, if_neg hret]
  exact List.append_ne_nil_of_right_ne_nil _ (List.cons_ne_nil _ _)

/-- A line is set: the register sees the lines as they are then. -/
theorem ensures_shrSet (hs : ProbeAt v s.gpio.drives s) {g : ℕ} {b : Bool}
    (hg : s.gpio.drives g = some b) (val : ℕ) :
    Ensures (execRg (setValue e g val)) s
      (fun _ s' => ProbeAt v s'.gpio.drives s' ∧
        s'.gpio.drives = Function.update s.gpio.drives g (some (decide (val ≠ 0))) ∧
        s'.hist = s.hist ++ [s'.gpio.drives]) shrFails := by
  have hpins := gpioSetValue_pins hs.inv (e.call s.hist.length).wr g val
  refine ensures_execRg rfl (fun hret => ?_) fun hret => fails_after_ne_nil hret _
  have hdone := hpins.done hret
  rw [hg] at hdone
  rw [hret]
  exact ⟨hs.after_success hpins.inv, hdone, rfl⟩

/-- The data line is sampled. -/
theorem ensures_shrGet (hline : ∀ hist, e.line hist data =
      (Piso.run inputs shLd clk stages hist).out ser)
    (hs : ShrAt inputs stages shLd clk data j c v s) :
    Ensures (execRg (getValue e data)) s
      (fun bt s' => bt = ((inputs.drop j).headD ser).toNat ∧
        ShrAt inputs stages shLd clk data j c v s') shrFails := by
  have hinv := pinInv_sample hs.probe.inv (e.line s.hist)
  have hsame := gpioGetValue_snd hinv (e.call s.hist.length).rd data
  have hdrives := drives_sample s.gpio (e.line s.hist)
  refine ensures_execRg rfl (fun hret => ?_) fun hret => fails_after_ne_nil hret _
  have hval := gpioGetValue_sample hs.probe.inv (e.call s.hist.length).rd (e.line s.hist) hret
  rw [hs.released, Option.getD_none, hline, hs.reg] at hval
  refine ⟨congrArg (fun o => Option.getD o _) hval, ?_⟩
  rw [hret, hsame]
  have hat := hs.probe.after_success hinv
  have hstep : Piso.step inputs shLd clk ⟨inputs.drop j, c⟩
      (s.gpio.sample (e.line s.hist)).drives = ⟨inputs.drop j, c⟩ := by
    rw [hdrives, Piso.step_clk hs.shLdHigh hs.clkIs]
    rcases c <;> rfl
  refine ⟨hat, (congrFun hdrives clk).trans hs.clkIs, (congrFun hdrives shLd).trans hs.shLdHigh,
    (congrFun hdrives data).trans hs.released, ?_⟩
  exact (Piso.run_append _ _).trans (hs.reg.symm ▸ hstep)

theorem ensures_shrVars (hs : ShrAt inputs stages shLd clk data j c v s)
    (f : ShrVars → ShrVars) :
    Ensures (setVars f) s (fun _ => ShrAt inputs stages shLd clk data j c (f v)) shrFails :=
  ensures_modify ⟨⟨hs.probe.inv, hs.probe.fails, hs.probe.garbled, hs.probe.filled,
    congrArg f hs.probe.vars, rfl⟩, hs.clkIs, hs.shLdHigh, hs.released, hs.reg⟩

/-- CLK is set: a rising edge shifts. -/
theorem ensures_shrClk (hne : shLd ≠ clk) (hs : ShrAt inputs stages shLd clk data j c v s)
    (val : ℕ) :
    Ensures (execRg (setValue e clk val)) s
      (fun _ => ShrAt inputs stages shLd clk data
        (if decide (val ≠ 0) && !c then j + 1 else j) (decide (val ≠ 0)) v) shrFails := by
  refine (ensures_shrSet hs.probe hs.clkIs val).mono ?_
  rintro _ s' ⟨hat, hdrives, hhist⟩
  have hclk : s'.gpio.drives clk = some (decide (val ≠ 0)) := by
    rw [hdrives, Function.update_self]
  have hshLd : s'.gpio.drives shLd = some true := by
    rw [hdrives, Function.update_of_ne hne]
    exact hs.shLdHigh
  have hdata : s'.gpio.drives data = none := by
    have hother : data ≠ clk := fun h => absurd (hs.released.symm.trans (h ▸ hs.clkIs)) (by simp)
    rw [hdrives, Function.update_of_ne hother]
    exact hs.released
  refine ⟨hat, hclk, hshLd, hdata, ?_⟩
  rw [hhist, Piso.run_append, hs.reg, Piso.step_clk hshLd hclk]
  split_ifs
  · rw [List.tail_drop]
  · rfl

/-- **A bit** is sampled and stored, and the next one is shifted to the output by the rising edge
of CLK; behind the last bit CLK is high already. -/
theorem ensures_shrRound (hne : shLd ≠ clk) (hline : ∀ hist, e.line hist data =
      (Piso.run inputs shLd clk stages hist).out ser)
    (hs : ShrAt inputs stages shLd clk data j false v s) (last : Bool) (pos i : ℕ) :
    Ensures (shrRound e clk data last pos i) s
      (fun bt s' => bt = ((inputs.drop j).headD ser).toNat ∧
        ShrAt inputs stages shLd clk data (j + 1) last ⟨!last, shrStore v.dta pos i bt⟩ s')
      shrFails := by
  rw [shrRound]
  refine ensures_bind (ensures_shrGet hline hs) fun bt s1 h1 => ?_
  obtain ⟨rfl, h1⟩ := h1
  refine ensures_bind (ensures_shrVars h1 _) fun _ s2 h2 => ?_
  refine ensures_bind (ensures_shrClk hne h2 1) fun _ s3 h3 => ?_
  refine ensures_bind (ensures_shrVars h3 _) fun _ s4 h4 => ?_
  rcases last with _ | _
  · refine ensures_bind (ensures_shrClk hne h4 0) fun _ s5 h5 => ?_
    refine ensures_bind (ensures_shrVars h5 _) fun _ s6 h6 => ?_
    exact ensures_pure ⟨rfl, h6⟩
  · exact ensures_pure ⟨rfl, h4⟩

/-- The bits of the register, from the output on. -/
def pisoBit (inputs : List Bool) (ser : Bool) (j : ℕ) : Bool := (inputs.drop j).headD ser

/-- **The loop** takes the bits one after the other, and stores them behind those before. The
induction is on the bits to go; both invariants are about those that have been taken. -/
theorem ensures_shrShift_bits (hne : shLd ≠ clk) (hline : ∀ hist, e.line hist data =
      (Piso.run inputs shLd clk stages hist).out ser)
    (hs : ShrAt inputs stages shLd clk data j (n == 0) ⟨!(n == 0), v.dta⟩ s)
    (hbits : ShrStored (pisoBit inputs ser) j before v.dta) :
    Ensures (shrShift e clk data n (j / 8) (j % 8)) s
      (fun _ s' => ∃ dta, ShrAt inputs stages shLd clk data (j + n) true ⟨false, dta⟩ s' ∧
        ShrStored (pisoBit inputs ser) (j + n) before dta ∧
        shrSamples e clk data n (j / 8) (j % 8) s =
          (List.range n).map fun k => (pisoBit inputs ser (j + k)).toNat) shrFails := by
  induction n generalizing j v s with
  | zero => exact ensures_pure ⟨v.dta, hs, hbits, rfl⟩
  | succ n ih =>
    have hmod : j % 8 < 8 := Nat.mod_lt j (by decide)
    have hpos : j / 8 + (j % 8 + 1) / 8 = (j + 1) / 8 := by omega
    have hbit : (j % 8 + 1) % 8 = (j + 1) % 8 := by omega
    rw [shrShift_succ n (j / 8) hmod, hpos, hbit]
    refine ensures_bind_run (ensures_shrRound hne hline hs (n == 0) (j / 8) (j % 8)) ?_
    rintro bt s' hr ⟨rfl, hs'⟩
    refine Ensures.mono (ih (v := ⟨!(n == 0), _⟩) hs' hbits.store) ?_
    rintro _ s'' ⟨dta, h'', hstored, hsamples⟩
    rw [Nat.add_right_comm, Nat.add_assoc] at h'' hstored
    refine ⟨dta, h'', hstored, ?_⟩
    rw [shrSamples, hr]
    dsimp only
    rw [hpos, hbit, hsamples, List.range_succ_eq_map, List.map_cons, List.map_map]
    refine congrArg₂ List.cons rfl (List.map_congr_left fun k _ => ?_)
    rw [Function.comp_apply, Nat.succ_eq_add_one, Nat.add_right_comm, Nat.add_assoc]

/-- The inputs are loaded while SH/~LD is low, and the first of them is at the output then. -/
theorem ensures_shrLoad_bits (hne : shLd ≠ clk) (hs : ProbeAt v s.gpio.drives s)
    (hpre : ShrPost shLd clk s.gpio.drives) (hdata : s.gpio.drives data = none) :
    Ensures (shrLoad e shLd clk) s
      (fun _ s' => ShrAt inputs stages shLd clk data 0 false ⟨true, v.dta⟩ s') shrFails := by
  have hother : data ≠ shLd := fun h => absurd (hdata.symm.trans (h ▸ hpre.1)) (by simp)
  rw [shrLoad]
  refine ensures_bind (ensures_shrSet hs hpre.1 0) ?_
  rintro _ s1 ⟨hat1, hd1, hhist1⟩
  have hlow : s1.gpio.drives shLd = some false := by
    rw [hd1, Function.update_self]
    rfl
  have hclk1 : s1.gpio.drives clk = some true := by
    rw [hd1, Function.update_of_ne hne.symm]
    exact hpre.2
  refine ensures_bind (ensures_shrSet hat1 hlow 1) ?_
  rintro _ s2 ⟨hat2, hd2, hhist2⟩
  have hhigh : s2.gpio.drives shLd = some true := by
    rw [hd2, Function.update_self]
    rfl
  have hclk2 : s2.gpio.drives clk = some true := by
    rw [hd2, Function.update_of_ne hne.symm]
    exact hclk1
  have hdata2 : s2.gpio.drives data = none := by
    rw [hd2, Function.update_of_ne hother, hd1, Function.update_of_ne hother]
    exact hdata
  have hreg : Piso.run inputs shLd clk stages s2.hist = ⟨inputs, true⟩ := by
    rw [hhist2, Piso.run_append, hhist1, Piso.run_append, Piso.step_load hlow hclk1,
      Piso.step_clk hhigh hclk2]
    rfl
  have hloaded : ShrAt inputs stages shLd clk data 0 true v s2 :=
    ⟨hat2, hclk2, hhigh, hdata2, hreg⟩
  refine ensures_bind (ensures_shrClk hne hloaded 0) fun _ s3 h3 => ?_
  exact ensures_shrVars h3 _

/-- **The call**, from a state in which it may be made: the bits are stored, or a call has
failed. -/
theorem ensures_shrPisoRead_bits (hne : shLd ≠ clk) (hline : ∀ hist, e.line hist data =
      (Piso.run inputs shLd clk stages hist).out ser)
    (hs : ProbeAt v s.gpio.drives s) (hv : v.clkLow = false)
    (hpre : ShrPost shLd clk s.gpio.drives) (hdata : s.gpio.drives data = none) :
    Ensures (shrPisoRead e shLd clk data n) s
      (fun ret s' => s'.fails ≠ [] ∨ (ret = .success ∧ ShrPost shLd clk s'.gpio.drives ∧
        ShrStored (pisoBit inputs ser) n v.dta s'.vars.dta ∧
        shrPisoSamples e shLd clk data n s =
          (List.range n).map fun k => (pisoBit inputs ser k).toNat))
      ⟨fun _ _ => False, fun _ => False⟩ := by
  refine ensures_finish (P := fun ret s' => ret = .success ∧ s'.vars.clkLow = false ∧
      ShrPost shLd clk s'.gpio.drives ∧ ShrStored (pisoBit inputs ser) n v.dta s'.vars.dta ∧
      shrPisoSamples e shLd clk data n s =
        (List.range n).map fun k => (pisoBit inputs ser k).toNat) (X := shrFails) ?_ ?_ ?_
  · rcases eq_or_ne n 0 with rfl | hn
    · rw [shrBody, if_pos rfl]
      refine ensures_pure ⟨rfl, ?_, hpre, ?_, ?_⟩
      · rw [hs.vars, hv]
      · rw [hs.vars]
        exact shrStored_zero _ _
      · rw [shrPisoSamples, if_pos rfl]
        rfl
    · have hload : Ensures (shrLoad e shLd clk) s
          (fun _ s' => ShrAt inputs stages shLd clk data 0 false ⟨true, v.dta⟩ s') shrFails :=
        ensures_shrLoad_bits hne hs hpre hdata
      obtain ⟨m, rfl⟩ := Nat.exists_eq_succ_of_ne_zero hn
      rw [shrBody_eq hn]
      refine ensures_bind_run hload fun _ s' hr hloaded => ?_
      refine ensures_bind (ensures_shrShift_bits (n := m + 1) (v := ⟨true, v.dta⟩) hne hline
        hloaded (shrStored_zero _ _)) ?_
      rintro _ s'' ⟨dta, h'', hstored, hsamples⟩
      rw [Nat.zero_add] at h'' hstored
      refine ensures_pure ⟨rfl, ?_, ⟨h''.shLdHigh, h''.clkIs⟩, ?_, ?_⟩
      · rw [h''.probe.vars]
      · rw [h''.probe.vars]
        exact hstored
      · rw [shrPisoSamples, if_neg hn, hr]
        simpa only [Nat.zero_add] using hsamples
  · rintro ret s' ⟨hret, hflag, hrest⟩
    rw [undoIf_idle hflag]
    exact Or.inr ⟨hret, hrest⟩
  · intro ret s' hfails
    refine Or.inl ?_
    rw [undoIf]
    split_ifs
    · rw [setValue, ProbeM.call, ProbeSt.after]
      dsimp only
      split_ifs
      · exact hfails
      · exact List.append_ne_nil_of_left_ne_nil hfails _
    · exact hfails

/-- What `shr_piso_read` is to do with `n` bits of a register. -/
structure ShrDone (inputs : List Bool) (shLd clk n : ℕ) (before : ℕ → UInt8)
    (r : Outcome LrErrc LrErrc × ProbeSt ShrVars) : Prop where
  success : r.1 = .val .success
  bits : ∀ j < n, inputs[j]? = some ((r.2.vars.dta (j / 8)).toNat.testBit (j % 8))
  unused : ∀ j, n ≤ j → j < 8 * ((n + 7) / 8) →
    (r.2.vars.dta (j / 8)).toNat.testBit (j % 8) = false
  rest : ∀ k, (n + 7) / 8 ≤ k → r.2.vars.dta k = before k
  post : ShrPost shLd clk r.2.gpio.drives

theorem ShrStored.testBit {bit : ℕ → Bool} {dta : ℕ → UInt8} (h : ShrStored bit n before dta)
    (hj : j < 8 * ((n + 7) / 8)) :
    (dta (j / 8)).toNat.testBit (j % 8) = (decide (j < n) && bit j) := by
  have hsplit : 8 * (j / 8) + j % 8 = j := Nat.div_add_mod j 8
  have hmod : j % 8 < 8 := Nat.mod_lt j (by decide)
  rw [h.bits (j / 8) (by omega) (j % 8), hsplit]
  simp only [hmod, true_and]

theorem getElem?_eq_pisoBit (ser : Bool) (hj : j < inputs.length) :
    inputs[j]? = some (pisoBit inputs ser j) := by
  rw [pisoBit, List.headD_eq_head?_getD, List.head?_drop, List.getElem?_eq_getElem hj]
  rfl

/-- `shr_piso_read` samples the first `n` stages of a register that has as many or more, each once
and in order, and stores them; CLK and SH/~LD are high again. -/
theorem shrPisoRead_done (hne : shLd ≠ clk) (hline : ∀ hist, e.line hist data =
      (Piso.run inputs shLd clk stages hist).out ser)
    {gpio : GpioSt} (hinv : PinInv gpio) (hpre : ShrPost shLd clk gpio.drives)
    (hdata : gpio.drives data = none) (hn : n ≤ inputs.length) (dta : ℕ → UInt8) (proc : Process)
    (hok : (shrPisoRead e shLd clk data n
      (ProbeSt.startPlain gpio proc ⟨false, dta⟩)).2.fails = []) :
    ShrDone inputs shLd clk n dta
        (shrPisoRead e shLd clk data n (ProbeSt.startPlain gpio proc ⟨false, dta⟩)) ∧
      shrPisoSamples e shLd clk data n (ProbeSt.startPlain gpio proc ⟨false, dta⟩) =
        (inputs.take n).map Bool.toNat := by
  obtain ⟨s, hs⟩ : ∃ s, s = ProbeSt.startPlain gpio proc (⟨false, dta⟩ : ShrVars) := ⟨_, rfl⟩
  have hgpio : s.gpio = gpio := congrArg ProbeSt.gpio hs
  have hat : ProbeAt ⟨false, dta⟩ s.gpio.drives s := by
    rw [hs]
    exact probeAt_start hinv proc ⟨-1, 0⟩ _
  obtain ⟨ret, s', hret, hdone⟩ := (ensures_shrPisoRead_bits (n := n) hne hline hat rfl
    (hgpio.symm ▸ hpre) (hgpio.symm ▸ hdata)).exists_val
  rw [← hs] at hok ⊢
  rw [hret] at hok ⊢
  obtain hfails | ⟨rfl, hpost, hstored, hsamples⟩ := hdone
  · exact absurd hok hfails
  refine ⟨⟨rfl, fun j hj => ?_, fun j hge hj => ?_, hstored.rest, hpost⟩, ?_⟩
  · rw [getElem?_eq_pisoBit ser (hj.trans_le hn), hstored.testBit (by omega), decide_eq_true hj,
      Bool.true_and]
  · rw [hstored.testBit hj, decide_eq_false (not_lt.mpr hge), Bool.false_and]
  · rw [hsamples]
    refine List.ext_getElem? fun k => ?_
    rcases lt_or_ge k n with hk | hk
    · have hbit := getElem?_eq_pisoBit ser (hk.trans_le hn)
      simp [hk, hbit]
    · simp [hk]

/-- The mapped registers are in use, and no call has failed. -/
def ShrMapped (s : ProbeSt ShrVars) : Prop := s.gpio.hndl.Mapped ∧ s.fails = []

section Mapped

variable {X : Exits LrErrc (ProbeSt ShrVars)}

theorem ShrMapped.set (hs : ShrMapped s) {g : ℕ} (hg : g < gpioNum) (val : ℕ) :
    Ensures (execRg (setValue e g val)) s (fun _ => ShrMapped) X := by
  have hret : (gpioSetValue (e.call s.hist.length).wr s.gpio g val).1 = .success := by
    rw [gpioSetValue, if_neg (not_le.mpr hg), if_pos hs.1]
  refine ensures_execRg rfl (fun _ => ⟨?_, ?_⟩) fun hn => absurd hret hn
  · have hframe := gpioSetValue_frame (e.call s.hist.length).wr s.gpio g val
    exact hframe.1 ▸ hs.1
  · exact (if_pos hret).trans hs.2

theorem ShrMapped.get (hs : ShrMapped s) {g : ℕ} (hg : g < gpioNum) :
    Ensures (execRg (getValue e g)) s (fun _ => ShrMapped) X := by
  obtain ⟨t, ht⟩ : ∃ t, t = s.gpio.sample (e.line s.hist) := ⟨_, rfl⟩
  have hm : t.hndl.Mapped := ht ▸ hs.1
  have hval : gpioGetValue (e.call s.hist.length).rd t g =
      ((.success, some ((t.ioRead (gplev0 + 4 * (g / 32))).1 >>> UInt32.ofNat (g % 32) &&&
        1).toNat), (t.ioRead (gplev0 + 4 * (g / 32))).2) := by
    rw [gpioGetValue, if_neg (not_le.mpr hg), if_pos hm]
  have hcall : getValue e g s = (.val (.success, ((t.ioRead (gplev0 + 4 * (g / 32))).1 >>>
      UInt32.ofNat (g % 32) &&& 1).toNat),
      s.after .success (t.ioRead (gplev0 + 4 * (g / 32))).2) := by
    rw [getValue, ProbeM.call, ← ht]
    dsimp only
    rw [hval]
    rfl
  rw [Ensures, execRg_of_success hcall]
  refine ⟨?_, hs.2⟩
  show (t.ioRead _).2.hndl.Mapped
  rw [GpioSt.hndl_ioRead]
  exact hm

/-- With the mapped registers no call fails. -/
theorem ShrMapped.shift (hclk : clk < gpioNum) (hdata : data < gpioNum) (n pos i : ℕ)
    (hs : ShrMapped s) : Ensures (shrShift e clk data n pos i) s (fun _ => ShrMapped) X := by
  induction n generalizing pos i s with
  | zero => exact ensures_pure hs
  | succ n ih =>
    rw [shrShift]
    refine ensures_bind (hs.get hdata) fun bt s1 h1 => ?_
    refine ensures_bind (Q := fun _ => ShrMapped) (ensures_modify h1) fun _ s2 h2 => ?_
    refine ensures_bind (h2.set hclk 1) fun _ s3 h3 => ?_
    refine ensures_bind (Q := fun _ => ShrMapped) (ensures_modify h3) fun _ s4 h4 => ?_
    by_cases hn : n = 0
    · rw [if_pos hn]
      exact ensures_pure h4
    · rw [if_neg hn]
      refine ensures_bind (h4.set hclk 0) fun _ s5 h5 => ?_
      refine ensures_bind (Q := fun _ => ShrMapped) (ensures_modify h5) fun _ s6 h6 => ?_
      split_ifs
      · exact ih _ _ h6
      · exact ih _ _ h6

theorem ShrMapped.read (hshLd : shLd < gpioNum) (hclk : clk < gpioNum) (hdata : data < gpioNum)
    (n : ℕ) (hs : ShrMapped s) : (shrPisoRead e shLd clk data n s).2.fails = [] := by
  have hbody : Ensures (shrBody e shLd clk data n) s (fun _ => ShrMapped)
      ⟨fun _ => ShrMapped, fun _ => False⟩ := by
    rw [shrBody]
    split_ifs
    · exact ensures_pure hs
    · refine ensures_bind (hs.set hshLd 0) fun _ s1 h1 => ?_
      refine ensures_bind (h1.set hshLd 1) fun _ s2 h2 => ?_
      refine ensures_bind (h2.set hclk 0) fun _ s3 h3 => ?_
      refine ensures_bind (Q := fun _ => ShrMapped) (ensures_modify h3) fun _ s4 h4 => ?_
      refine ensures_bind (h4.shift hclk hdata n 0 0) fun _ s5 h5 => ensures_pure h5
  have hundo : ∀ (ret : LrErrc) s', ShrMapped s' →
      ((undoIf ShrVars.clkLow (setValue e clk 1)) s').2.fails = [] := by
    intro ret s' hs'
    rw [undoIf]
    split_ifs
    · have hret : (gpioSetValue (e.call s'.hist.length).wr s'.gpio clk 1).1 = .success := by
        rw [gpioSetValue, if_neg (not_le.mpr hclk), if_pos hs'.1]
      exact (if_pos hret).trans hs'.2
    · exact hs'.2
  obtain ⟨ret, s', hret, hfails⟩ := (ensures_finish (R := fun _ s' => s'.fails = []) hbody hundo
    hundo).exists_val
  rw [shrPisoRead, hret]
  exact hfails

end Mapped

/-- A register on GPIO 4, with every system call granted. -/
def pisoEnv (inputs : List Bool) : ProbeEnv where
  sysDriver := false
  clk := ⟨some .io, true⟩
  call _ := ⟨⟨true, true, true, true⟩, true, true, ⟨fun _ => 0, none⟩, true, 0⟩
  line hist _ := (Piso.run inputs 2 3 [] hist).out false
  raise := ⟨true, true, true⟩
  restore _ := true
  stack _ := 0

/-- SH/~LD on GPIO 2 and CLK on GPIO 3 are outputs, and have been set high. -/
def pisoGpio : GpioSt :=
  ⟨⟨some .io, true, fun _ => none⟩,
    ⟨fun off => if off = 0 then 576 else 0, [(gpset0, 12)], false⟩,
    ⟨fun _ => false, fun _ => 0, fun _ => false, fun _ => false⟩⟩

/-- Three of the four stages of a register: the last bits of the byte are cleared. -/
theorem shrPisoRead_three :
    let inputs := [true, false, true, true]
    let s := ProbeSt.startPlain pisoGpio ⟨0, 0, 0, le_rfl, validPriority_other⟩
      ⟨false, fun _ => 255⟩
    ShrDone inputs 2 3 3 (fun _ => 255) (shrPisoRead (pisoEnv inputs) 2 3 4 3 s) ∧
      shrPisoSamples (pisoEnv inputs) 2 3 4 3 s = (inputs.take 3).map Bool.toNat := by
  have hinv : PinInv pisoGpio := ⟨fun _ => rfl, fun _ _ h => absurd h (by simp [pisoGpio])⟩
  have hpre : ShrPost 2 3 pisoGpio.drives := ⟨by decide, by decide⟩
  have hdata : pisoGpio.drives 4 = none := by decide
  have hline : ∀ hist, (pisoEnv [true, false, true, true]).line hist 4 =
      (Piso.run [true, false, true, true] 2 3 [] hist).out false := fun _ => rfl
  exact shrPisoRead_done (by decide) hline hinv hpre hdata (by decide) _ _
    (ShrMapped.read (by decide) (by decide) (by decide) 3 ⟨Or.inl rfl, rfl⟩)

end Program

end Librasp
