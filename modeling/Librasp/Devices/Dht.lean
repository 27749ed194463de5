import Librasp.Devices.Probe

/-!
# `dht.c`: the DHT11 and DHT22 sensors

The sensor is woken up by pulling its line low, and answers on the same line with pulses: their
lengths, in ticks of the clock, are the bits of five bytes.

The line is pulled low by making the pin an output, and the cleanup releases it if that has
succeeded. With sysfs the call may fail when the pin is an output already
(`dhtProbe_failSafe_iff`).

* `dhtProbe` is `dht_probe` as a program of `Prog`, call by call: the wake-up, the response loop
  with its samples of line and clock (`dhtRound`), the decoding (`dhtDecode`), and the cleanup,
  which releases the line and restores the scheduler.
* `siglens` is kept as the source has it, with what was on the stack before: an index is out of
  bounds or not whatever is there.
* The loop runs for a number of rounds. How long it really takes is up to the line and to the
  clock, and is the subject of `DhtLoop` and `DhtProbe`.

**Main result.** `dhtProbe_failSafe_iff`: when one of its calls fails, the probe returns the error
with the line released, exactly if it is not its first call that fails with the line driven.
-/

namespace Librasp

/-! ### The model -/

/-- `dht_model_t`. -/
inductive DhtModel
  | dht11
  | dht22
  deriving DecidableEq, Repr

namespace Dht

/-- `BREAK_THRSHD`. -/
def breakThrshd : UInt32 := 500

/-- `DHT_DTA_BITS`. -/
def dtaBits : ℕ := 40

end Dht

/-- The variables of `dht_probe` that outlive its response loop. -/
structure DhtVars where
  setLow : Bool
  /-- What was written to `*p_rh` and `*p_temp`. -/
  out : Option (UInt32 × Int32)
  deriving DecidableEq, Repr

/-- The variables of the response loop. -/
structure DhtLoop where
  i : ℕ
  state : ℕ
  start : UInt32
  siglens : ℕ → UInt32

/-- What the `switch` of the response loop makes of a sample, `none` if it does not `continue`. -/
def dhtSwitch (t : DhtLoop) (level : ℕ) (tick : UInt32) : Option DhtLoop :=
  if t.state = 3 then
    -- initial state: wait for down the wire
    if level = 0 then some { t with start := tick, state := 0 } else none
  else if t.state ^^^ level ≠ 0 then
    let t' := if t.state ≠ 0 then
        { t with i := t.i + 1, siglens := Function.update t.siglens t.i (tick - t.start) }
      else t
    some { t' with start := tick, state := t.state ^^^ 1 }
  else none

/-- The bytes of the first `n` pulses from the `j`-th on. -/
def dhtData (siglens : ℕ → UInt32) (j : ℕ) : ℕ → ℕ → UInt8
  | 0 => fun _ => 0
  | i + 1 =>
    let data := dhtData siglens j i
    -- 50us is the 0/1 threshold
    if 50 < siglens (j + i) then
      Function.update data (i >>> 3) (data (i >>> 3) ||| 1 <<< UInt8.ofNat (7 - (i &&& 7)))
    else data

/-- The checksum: the sum of the first four bytes. -/
def dhtCrc (data : ℕ → UInt8) : UInt8 := data 0 + data 1 + data 2 + data 3

/-- The values of the bytes, of humidity and temperature. -/
def dhtValues (data : ℕ → UInt8) : DhtModel → UInt32 × Int32
  | .dht11 => (10 * (data 0).toUInt32 + (data 1).toUInt32,
      10 * (data 2).toInt8.toInt32 + (data 3).toInt8.toInt32)
  | .dht22 => ((data 0).toUInt32 <<< 8 ||| (data 1).toUInt32,
      (data 2).toInt8.toInt32 <<< 8 ||| (data 3).toUInt32.toInt32)

/-- What the pulses that were recorded say. -/
def dhtDecode (model : DhtModel) (i : ℕ) (siglens : ℕ → UInt32) :
    LrErrc × Option (UInt32 × Int32) :=
  if i = 0 then (.noResp, none)
  else if i < Dht.dtaBits then (.dtaCrpt, none)
  else
    -- skip initial signal
    let j := if Dht.dtaBits < i then 1 else 0
    let data := dhtData siglens j Dht.dtaBits
    if dhtCrc data ≠ data 4 then (.dtaCrpt, none)
    else (.success, some (dhtValues data model))

section Model

open ProbeM

variable (e : ProbeEnv) (gpio : ℕ)

/-- A round of the response loop. -/
def dhtRound (t : DhtLoop) : ProbeM DhtVars (DhtLoop ⊕ DhtLoop) :=
  if t.i < Dht.dtaBits + 1 then do
    let level ← execRg (getValue e gpio)
    let tick ← execlkRg e (getTicks32 e)
    match dhtSwitch t level tick with
    | some t' => pure (.inl t')
    | none => pure (if Dht.breakThrshd ≤ tick - t.start then .inr t else .inl t)
  else pure (.inr t)

/-- `__dht_probe`, once the line is low, up to `finish`. -/
def dhtResponse (model : DhtModel) (fuel : ℕ) : ProbeM DhtVars LrErrc := do
  setVars fun v => { v with setLow := true }
  execlkRg e (usleep e 20000)
  -- 30us high
  execRg (opndrnSetValue e gpio 1)
  setVars fun v => { v with setLow := false }
  execlkRg e (usleep e 30)
  let start ← execlkRg e (getTicks32 e)
  let t ← Prog.loop (dhtRound e gpio) fuel ⟨0, 3, start, e.stack⟩
  restore e
  let r := dhtDecode model t.i t.siglens
  setVars fun v => { v with out := r.2 }
  pure r.1

/-- `__dht_probe`, up to `finish`. -/
def dhtBody (model : DhtModel) (fuel : ℕ) : ProbeM DhtVars LrErrc := do
  raiseMax e
  -- 20ms down
  execRg (opndrnSetValue e gpio 0)
  dhtResponse e gpio model fuel

/-- `dht_probe`; the response loop runs for at most `fuel` rounds. -/
def dhtProbe (model : DhtModel) (fuel : ℕ) : ProbeM DhtVars LrErrc :=
  Prog.finish (dhtBody e gpio model fuel) do
    restore e
    undoIf DhtVars.setLow (opndrnSetValue e gpio 1)

end Model

/-! ### One call fails -/

section FailSafe

open Prog

variable {e : ProbeEnv} {g : ℕ} {v : DhtVars} {d : ℕ → Option Bool} {s : ProbeSt DhtVars}

/-- The line is released. -/
def DhtPost (g : ℕ) (d : ℕ → Option Bool) : Prop := d g = none

/-- The line is released unless the flag is set. -/
def DhtReady (g : ℕ) (v : DhtVars) (d : ℕ → Option Bool) : Prop := v.setLow = false → d g = none

/-- The first call fails, with the line driven: it was so before, or the call has come to that. -/
def DhtExposed (e : ProbeEnv) (gpio : GpioSt) (g : ℕ) : Prop :=
  (gpioDirectionOutput (e.call 0).dir gpio g 0).1 ≠ .success ∧
    (gpio.Switches (e.call 0).dir g ∨ gpio.drives g ≠ none)

theorem opndrnSetValue_first (h0 : s.hist = []) :
    ProbeM.opndrnSetValue e g 0 s =
      (.val ((gpioDirectionOutput (e.call 0).dir s.gpio g 0).1, ()),
        s.after (gpioDirectionOutput (e.call 0).dir s.gpio g 0).1
          (gpioDirectionOutput (e.call 0).dir s.gpio g 0).2) := by
  rw [ProbeM.opndrnSetValue, ProbeM.call, h0]
  rfl

/-- The line is pulled low. A call that fails and is not exposed leaves the line released: it was
so before, and the pin was not switched. -/
theorem ensures_dhtFirst (hs : ProbeAt v d s) (h0 : s.hist = [])
    (hno : ¬ DhtExposed e s.gpio g) :
    Ensures (ProbeM.execRg (ProbeM.opndrnSetValue e g 0)) s
      (fun _ => ProbeAt v (Function.update d g (some false))) (probeExits (DhtReady g)) := by
  have hpins := gpioDirectionOutput_pins hs.inv (e.call 0).dir g 0
  refine ensures_execRg (opndrnSetValue_first h0) (fun hret => ?_) fun hret => ?_
  · have hat := hs.after_success hpins.inv
    rw [hpins.done hret, hs.drives] at hat
    rw [hret]
    exact hat
  · refine hs.after_failure hpins.inv hret fun _ => ?_
    have hno' : ¬ (s.gpio.Switches (e.call 0).dir g ∨ s.gpio.drives g ≠ none) :=
      fun h => hno ⟨hret, h⟩
    rw [not_or, not_not] at hno'
    rw [hpins.failed hret, if_neg hno'.1]
    exact hno'.2

/-- Releasing the line. If the call fails the flag `set_low` is still set, so that the cleanup is
left to release the line. -/
theorem ensures_dhtRelease (hs : ProbeAt v d s) (hv : v.setLow = true) :
    Ensures (ProbeM.execRg (ProbeM.opndrnSetValue e g 1)) s
      (fun _ => ProbeAt v (Function.update d g none)) (probeExits (DhtReady g)) := by
  have hcall : ProbeM.opndrnSetValue e g 1 s =
      (.val ((gpioDirectionInput (e.call s.hist.length).dir s.gpio g).1, ()),
        s.after (gpioDirectionInput (e.call s.hist.length).dir s.gpio g).1
          (gpioDirectionInput (e.call s.hist.length).dir s.gpio g).2) := rfl
  have hpins := gpioDirectionInput_pins hs.inv (e.call s.hist.length).dir g
  refine ensures_execRg hcall (fun hret => ?_) fun hret => ?_
  · have hat := hs.after_success hpins.inv
    rw [hpins.done hret, hs.drives] at hat
    rw [hret]
    exact hat
  · exact hs.after_failure hpins.inv hret fun hv' => absurd (hv.symm.trans hv') (by decide)

/-- The first call fails and the line is driven: the cleanup does not release it, as its flag is
set behind the call. -/
theorem dhtProbe_exposed {t : ProbeSt DhtVars} (ht : ProbeM.raiseMax e s = (.val (), t))
    (hv : v.setLow = false) (hat : ProbeAt v d t) (h0 : t.hist = [])
    (hexp : DhtExposed e t.gpio g) (model : DhtModel) :
    ∃ k err s', dhtProbe e g model 0 s = (.val err, s') ∧ s'.fails = [(k, err)] ∧
      s'.gpio.drives g ≠ none := by
  obtain ⟨hret, hdriven⟩ := hexp
  have hfirst := opndrnSetValue_first (e := e) (g := g) h0
  have hpins := (gpioDirectionOutput_pins hat.inv (e.call 0).dir g 0).failed
  obtain ⟨r, hr⟩ : ∃ r, r = gpioDirectionOutput (e.call 0).dir t.gpio g 0 := ⟨_, rfl⟩
  rw [← hr] at hret hfirst hpins
  have hbody : dhtBody e g model 0 s = (.exit r.1, t.after r.1 r.2) := by
    rw [dhtBody, bind_of_val ht]
    exact bind_of_exit (execRg_of_failure hfirst hret) _
  have hflag : DhtVars.setLow (t.after r.1 r.2).vars = false :=
    (congrArg DhtVars.setLow hat.vars).trans hv
  have hrun := finish_idle (e := e) hbody hflag (ProbeM.opndrnSetValue e g 1)
  refine ⟨t.hist.length, r.1, _, hrun, hat.fails_after hret r.2, ?_⟩
  show r.2.drives g ≠ none
  rw [hpins hret]
  split_ifs with hsw
  · rw [Function.update_self]
    exact Option.some_ne_none _
  · exact hdriven.resolve_left hsw

variable (he : e.clk.Usable e.sysDriver ∧ e.clk.drv.isSome = true)

include he

/-- A round of the loop changes no pin and no flag: it reads the line and the clock, and the rest
is done on the state of the loop. -/
theorem ensures_dhtRound (hC : DhtReady g v d) (t : DhtLoop) (hs : ProbeAt v d s) :
    Ensures (dhtRound e g t) s
      (fun r s' => Sum.elim (fun _ => ProbeAt v d s') (fun _ => ProbeAt v d s') r)
      (probeExits (DhtReady g)) := by
  rw [dhtRound]
  by_cases hi : t.i < Dht.dtaBits + 1
  · rw [if_pos hi]
    refine ensures_bind (ensures_getValue hs hC g) fun level s1 h1 => ?_
    refine ensures_bind (ensures_getTicks32 he h1 hC) fun tick s2 h2 => ?_
    rcases dhtSwitch t level tick with _ | t'
    · refine ensures_pure ?_
      split_ifs
      · exact h2
      · exact h2
    · exact ensures_pure h2
  · rw [if_neg hi]
    exact ensures_pure hs

/-- Once the line is low, the cleanup is ready: it releases the line before any way out, and the
handle it restores has been filled. -/
theorem ensures_dhtResponse (hs : ProbeAt v d s) (model : DhtModel) (fuel : ℕ) :
    Ensures (dhtResponse e g model fuel) s
      (fun _ s' => ∃ v' d', ProbeAt v' d' s' ∧ v'.setLow = false) (probeExits (DhtReady g)) := by
  rw [dhtResponse]
  refine ensures_bind (ensures_setVars hs _) fun _ s1 h1 => ?_
  have hlow : DhtReady g { v with setLow := true } d := fun h => Bool.noConfusion h
  refine ensures_bind (ensures_usleep he h1 hlow 20000) fun _ s2 h2 => ?_
  refine ensures_bind (ensures_dhtRelease h2 rfl) fun _ s3 h3 => ?_
  refine ensures_bind (ensures_setVars h3 _) fun _ s4 h4 => ?_
  have hfree : ∀ v', DhtReady g v' (Function.update d g none) :=
    fun _ _ => Function.update_self ..
  refine ensures_bind (ensures_usleep he h4 (hfree _) 30) fun _ s5 h5 => ?_
  refine ensures_bind (ensures_getTicks32 he h5 (hfree _)) fun start s6 h6 => ?_
  refine ensures_bind (ensures_loop (I := fun _ => ProbeAt _ (Function.update d g none))
    (Q := fun _ => ProbeAt _ (Function.update d g none))
    (fun t s hs => ensures_dhtRound he (hfree _) t hs) (fun _ _ hs => hs.more) fuel h6)
    fun t s7 h7 => ?_
  refine ensures_bind (ensures_restore h7) fun _ s8 h8 => ?_
  refine ensures_bind (ensures_setVars h8 _) fun _ s9 h9 => ?_
  exact ensures_pure ⟨_, _, h9, rfl⟩

/-- `dht_probe` is fail-safe exactly if its first call does not fail, or does so with the line
released. -/
theorem dhtProbe_failSafe_iff {gpio : GpioSt} (hinv : PinInv gpio) (model : DhtModel)
    (proc : Process) (stack : SchedRt) :
    ProbeFailSafe (DhtPost g) (fun fuel => dhtProbe e g model fuel
      (ProbeSt.start gpio proc stack ⟨false, none⟩)) ↔ ¬ DhtExposed e gpio g := by
  obtain ⟨s, hs⟩ : ∃ s, s = ProbeSt.start gpio proc stack (⟨false, none⟩ : DhtVars) := ⟨_, rfl⟩
  obtain ⟨t, ht⟩ : ∃ t, ProbeM.raiseMax e s = (.val (), t) := ⟨_, rfl⟩
  have hat : ProbeAt ⟨false, none⟩ gpio.drives t := by
    have h := ensures_raiseMax (C := DhtReady g) (e := e)
      (s := s) (hs ▸ probeAt_start hinv proc stack (⟨false, none⟩ : DhtVars))
    rw [Ensures, ht] at h
    exact h
  have hgpio : t.gpio = gpio := by
    have h := congrArg (fun r => r.2.gpio) ht
    rw [hs] at h
    exact h.symm
  have h0 : t.hist = [] := by
    have h := congrArg (fun r => r.2.hist) ht
    rw [hs] at h
    exact h.symm
  rw [← hs]
  constructor
  · intro hsafe hexp
    obtain ⟨k, err, s', hrun, hfails, hd⟩ :=
      dhtProbe_exposed ht rfl hat h0 (hgpio.symm ▸ hexp) model
    have htold := hsafe.told 0 k err
    rw [hrun] at htold
    exact hd (htold hfails).2
  · intro hno
    refine probeFailSafe_of_ensures (C := DhtReady g) fun fuel => ?_
    rw [dhtProbe]
    refine ensures_finish (P := fun _ s' => ∃ v' d', ProbeAt v' d' s' ∧ v'.setLow = false)
      (X := probeExits (DhtReady g)) ?_ ?_ ?_
    · rw [dhtBody, Ensures, bind_of_val ht]
      rw [← hgpio] at hno
      exact ensures_bind (ensures_dhtFirst hat h0 hno) fun _ s' h' =>
        ensures_dhtResponse he h' model fuel
    · rintro ret s' ⟨v', d', h', hflag⟩
      exact h'.restore.done_undoIf hflag _ ret
    · intro err s' h'
      refine h'.restore.done (fun hflag => h'.ready hflag) fun _ c hret => ?_
      have hpins := gpioDirectionInput_pins h'.inv c.dir g
      exact (congrFun (hpins.done hret) g).trans (Function.update_self ..)

end FailSafe

end Librasp
