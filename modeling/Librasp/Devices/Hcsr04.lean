import Librasp.Devices.Probe

/-!
# `hcsr04.c`: the HC-SR04 distance sensor

The sensor is triggered by a pulse on TRIG, and answers with one on ECHO, whose length is counted
in rounds of `CM_PULSE_USEC`.

The clock is asked before the real-time section is entered. If it fails there, the cleanup
restores a handle that was never filled (`hcsrProbe_failSafe_iff`).

* `hcsrProbe` is `hcsr_probe` as a program of `Prog`: the first ticks, the timing critical part
  with the trigger and the response loop (`hcsrTimed`), and the cleanup, which sets TRIG low if it
  is high by its flag, and restores the scheduler.
* The loop waits for ECHO in state 0 and counts in state 1 (`hcsrSwitch`). Only the first of the
  two looks at the time; `HcsrLoop` says what comes of it.

**Main result.** `hcsrProbe_failSafe_iff`: when one of its calls fails, the probe returns the
error, with TRIG low and no handle restored that was not filled, exactly if it is not its first
call.
-/

namespace Librasp

/-! ### The model -/

namespace Hcsr

/-- `BREAK_THRSHD`. -/
def breakThrshd : UInt32 := 1000

/-- `CM_PULSE_USEC`. -/
def cmPulseUsec : ℕ := 58

end Hcsr

/-- The variables of `hcsr_probe`. -/
structure HcsrVars where
  setHigh : Bool
  /-- What was written to `*p_dist_cm`. -/
  distCm : Option UInt32
  deriving DecidableEq, Repr

section Model

open ProbeM

variable (e : ProbeEnv) (trigGpio echoGpio : ℕ)

/-- What the `switch` of the response loop makes of `state` and `resp_cnt`. -/
def hcsrSwitch (t : ℕ × UInt32) (echo : ℕ) : ℕ × UInt32 :=
  if t.1 = 0 then if echo ≠ 0 then (t.1 + 1, t.2 + 1) else t
  else if echo ≠ 0 then (t.1, t.2 + 1) else (t.1 + 1, t.2)

/-- A round of the response loop. -/
def hcsrRound (start : UInt32) (t : ℕ × UInt32) : ProbeM HcsrVars ((ℕ × UInt32) ⊕ UInt32) :=
  if t.1 < 2 then do
    let echo ← execRg (getValue e echoGpio)
    let tick ← execlkRg e (getTicks32 e)
    if t.1 = 0 ∧ echo = 0 ∧ Hcsr.breakThrshd ≤ tick - start then pure (.inr t.2)
    else do
      execlkRg e (usleep e Hcsr.cmPulseUsec)
      pure (.inl (hcsrSwitch t echo))
  else pure (.inr t.2)

/-- `hcsr_probe`, from the timing critical part up to `finish`. -/
def hcsrTimed (fuel : ℕ) (start : UInt32) : ProbeM HcsrVars LrErrc := do
  raiseMax e
  -- 100us high
  execRg (setValue e trigGpio 1)
  setVars fun v => { v with setHigh := true }
  execlkRg e (usleep e 100)
  -- low
  execRg (setValue e trigGpio 0)
  setVars fun v => { v with setHigh := false }
  let respCnt ← Prog.loop (hcsrRound e echoGpio start) fuel (0, 0)
  restore e
  if respCnt = 0 then pure .noResp
  else do
    setVars fun v => { v with distCm := some respCnt }
    pure .success

/-- `hcsr_probe`, up to `finish`. -/
def hcsrBody (fuel : ℕ) : ProbeM HcsrVars LrErrc := do
  let start ← execlkRg e (getTicks32 e)
  hcsrTimed e trigGpio echoGpio fuel start

/-- `hcsr_probe`; the response loop runs for at most `fuel` rounds. -/
def hcsrProbe (fuel : ℕ) : ProbeM HcsrVars LrErrc :=
  Prog.finish (hcsrBody e trigGpio echoGpio fuel) do
    restore e
    undoIf HcsrVars.setHigh (setValue e trigGpio 0)

end Model

/-! ### One call fails -/

section FailSafe

open Prog

variable {e : ProbeEnv} {trig echo : ℕ} {v : HcsrVars} {d : ℕ → Option Bool}
  {s : ProbeSt HcsrVars}

/-- TRIG is low. -/
def HcsrPost (trig : ℕ) (d : ℕ → Option Bool) : Prop := d trig = some false

/-- TRIG is high while the flag is set. -/
def HcsrReady (trig : ℕ) (v : HcsrVars) (d : ℕ → Option Bool) : Prop := d trig = some v.setHigh

/-- The first call fails: the clock of the SYS driver does. -/
def HcsrExposed (e : ProbeEnv) : Prop :=
  e.sysDriver = true ∧ e.clk.drv ≠ some .io ∧ (e.call 0).clock.gettime = none

variable (he : e.clk.Usable e.sysDriver ∧ e.clk.drv.isSome = true)

include he

/-- A round of the response loop reads ECHO and the clock and sleeps. It changes no pin and no
flag, so the cleanup is as ready as before. -/
theorem ensures_hcsrRound (hC : HcsrReady trig v d) (start : UInt32) (t : ℕ × UInt32)
    (hs : ProbeAt v d s) :
    Ensures (hcsrRound e echo start t) s
      (fun r s' => Sum.elim (fun _ => ProbeAt v d s') (fun _ => ProbeAt v d s') r)
      (probeExits (HcsrReady trig)) := by
  rw [hcsrRound]
  by_cases hstate : t.1 < 2
  · rw [if_pos hstate]
    refine ensures_bind (ensures_getValue hs hC echo) fun lev s1 h1 => ?_
    refine ensures_bind (ensures_getTicks32 he h1 hC) fun tick s2 h2 => ?_
    by_cases hbreak : t.1 = 0 ∧ lev = 0 ∧ Hcsr.breakThrshd ≤ tick - start
    · rw [if_pos hbreak]
      exact ensures_pure h2
    · rw [if_neg hbreak]
      exact ensures_bind (ensures_usleep he h2 hC _) fun _ s3 h3 => ensures_pure h3
  · rw [if_neg hstate]
    exact ensures_pure hs

/-- From the entry to the real-time section on, the cleanup is ready: TRIG is high just if
`set_high` says so. At the end TRIG is low. -/
theorem ensures_hcsrTimed (hv : v.setHigh = false) (hd : d trig = some false)
    (hs : ProbeAt v d { s with filled := true }) (start : UInt32) (fuel : ℕ) :
    Ensures (hcsrTimed e trig echo fuel start) s (fun _ s' => ∃ v' d', ProbeAt v' d' s' ∧
      v'.setHigh = false ∧ d' trig = some false) (probeExits (HcsrReady trig)) := by
  have hC0 : HcsrReady trig v d := by rw [HcsrReady, hv, hd]
  rw [hcsrTimed]
  refine ensures_bind (ensures_raiseMax hs) fun _ s1 h1 => ?_
  refine ensures_bind (ensures_setValue h1 hC0 trig 1) fun _ s2 h2 => ?_
  refine ensures_bind (ensures_setVars h2 _) fun _ s3 h3 => ?_
  have hC1 : HcsrReady trig { v with setHigh := true }
      (Function.update d trig ((d trig).map fun _ => decide (1 ≠ 0))) := by
    rw [HcsrReady, Function.update_self, hd]
    rfl
  refine ensures_bind (ensures_usleep he h3 hC1 100) fun _ s4 h4 => ?_
  refine ensures_bind (ensures_setValue h4 hC1 trig 0) fun _ s5 h5 => ?_
  refine ensures_bind (ensures_setVars h5 _) fun _ s6 h6 => ?_
  generalize hd' : Function.update _ trig _ = d' at h6
  have hlow : d' trig = some false := by
    rw [← hd', Function.update_self, Function.update_self, hd]
    rfl
  have hready : ∀ v' : HcsrVars, v'.setHigh = false → HcsrReady trig v' d' :=
    fun v' hv' => by rw [HcsrReady, hv', hlow]
  refine ensures_bind (ensures_loop (I := fun _ => ProbeAt _ d') (Q := fun _ => ProbeAt _ d')
    (fun t s hs => ensures_hcsrRound he (hready _ rfl) start t hs) (fun _ _ hs => hs.more) fuel h6)
    fun respCnt s7 h7 => ?_
  refine ensures_bind (ensures_restore h7) fun _ s8 h8 => ?_
  by_cases hresp : respCnt = 0
  · rw [if_pos hresp]
    exact ensures_pure ⟨_, d', h8, rfl, hlow⟩
  · rw [if_neg hresp]
    refine ensures_bind (ensures_setVars h8 _) fun _ s9 h9 => ?_
    exact ensures_pure ⟨_, d', h9, rfl, hlow⟩

/-- The first call fails where it is said to. -/
theorem clockGetTicks32_iff :
    (clockGetTicks32 e.sysDriver e.clk (e.call 0).clock).1 = .success ↔ ¬ HcsrExposed e := by
  rw [HcsrExposed, clockGetTicks32]
  by_cases hio : e.clk.drv = some .io
  · rw [if_pos hio]
    exact iff_of_true rfl fun h => h.2.1 hio
  have hsys : e.sysDriver = true := by
    by_contra hsys
    exact hio (drv_io_of_usable he (eq_false_of_ne_true hsys))
  rw [if_neg hio, sysTicks, if_pos hsys]
  rcases (e.call 0).clock.gettime with _ | tp
  · exact iff_of_false (by decide) fun h => h ⟨hsys, hio, rfl⟩
  · exact iff_of_true rfl fun h => absurd h.2.2 (by simp)

omit he in
theorem getTicks32_first (h0 : s.hist = []) :
    ∃ a, ProbeM.getTicks32 e s =
      (.val ((clockGetTicks32 e.sysDriver e.clk (e.call 0).clock).1, a),
        s.after (clockGetTicks32 e.sysDriver e.clk (e.call 0).clock).1 s.gpio) := by
  refine ⟨(clockGetTicks32 e.sysDriver e.clk (e.call 0).clock).2.getD (e.call 0).uninit, ?_⟩
  rw [ProbeM.getTicks32, ProbeM.call, h0]
  rfl

/-- The first clock reading, the only call before the handle for the restore is filled. Where it
does not fail, all that follows runs with a handle that is. -/
theorem ensures_hcsrFirst (hno : ¬ HcsrExposed e) (hs : ProbeAt v d { s with filled := true })
    (h0 : s.hist = []) {X : Exits LrErrc (ProbeSt HcsrVars)} :
    Ensures (ProbeM.execlkRg e (ProbeM.getTicks32 e)) s
      (fun _ s' => ProbeAt v d { s' with filled := true }) X := by
  obtain ⟨a, ha⟩ := getTicks32_first (e := e) h0
  rw [(clockGetTicks32_iff he).mpr hno] at ha
  have hat : ProbeAt v d { s.after .success s.gpio with filled := true } := by
    have h := hs.after_success hs.inv
    rw [hs.drives] at h
    exact h
  rw [ProbeM.execlkRg]
  split_ifs with hsys
  · exact ensures_execRg ha (fun _ => hat) fun h => absurd rfl h
  · rw [Ensures, bind_of_val ha]
    exact hat

/-- `hcsr_probe` is fail-safe exactly if its first call does not fail. If it does, `sched_restore`
gets a handle that was never filled. If not, the cleanup is ready wherever the body is left. -/
theorem hcsrProbe_failSafe_iff {gpio : GpioSt} (hinv : PinInv gpio)
    (hpre : gpio.drives trig = some false) (proc : Process) (stack : SchedRt) :
    ProbeFailSafe (HcsrPost trig) (fun fuel => hcsrProbe e trig echo fuel
      (ProbeSt.start gpio proc stack ⟨false, none⟩)) ↔ ¬ HcsrExposed e := by
  obtain ⟨s, hs⟩ : ∃ s, s = ProbeSt.start gpio proc stack (⟨false, none⟩ : HcsrVars) := ⟨_, rfl⟩
  have hat : ProbeAt ⟨false, none⟩ gpio.drives { s with filled := true } :=
    hs ▸ probeAt_start hinv proc stack _
  have h0 : s.hist = [] := by rw [hs]; rfl
  rw [← hs]
  constructor
  · rintro hsafe ⟨hsys, hio, htime⟩
    have hret : (clockGetTicks32 e.sysDriver e.clk (e.call 0).clock).1 = .clkErr := by
      rw [clockGetTicks32, if_neg hio, sysTicks, if_pos hsys, htime]
    obtain ⟨a, ha⟩ := getTicks32_first (e := e) h0
    rw [hret] at ha
    have hbody : hcsrBody e trig echo 0 s = (.exit .clkErr, s.after .clkErr s.gpio) := by
      rw [hcsrBody, ProbeM.execlkRg, if_pos hsys]
      exact bind_of_exit (execRg_of_failure ha (by decide)) _
    -- the cleanup restores a handle that was never filled
    have hgarbled := hsafe.filled 0
    rw [hcsrProbe, finish_of_exit hbody, hs] at hgarbled
    exact Bool.noConfusion (show true = false from hgarbled)
  · intro hno
    refine probeFailSafe_of_ensures (C := HcsrReady trig) fun fuel => ?_
    rw [hcsrProbe]
    refine ensures_finish (P := fun _ s' => ∃ v' d', ProbeAt v' d' s' ∧ v'.setHigh = false ∧
      d' trig = some false) (X := probeExits (HcsrReady trig)) ?_ ?_ ?_
    · rw [hcsrBody]
      exact ensures_bind (ensures_hcsrFirst he hno hat h0) fun start s' h' =>
        ensures_hcsrTimed he rfl hpre h' start fuel
    · rintro ret s' ⟨v', d', h', hflag, -⟩
      exact h'.restore.done_undoIf hflag _ ret
    · intro err s' h'
      have hready : s'.gpio.drives trig = some s'.vars.setHigh := h'.ready
      refine h'.restore.done (fun hflag => ?_) fun hflag c hret => ?_
      · exact hready.trans (congrArg some hflag)
      · have hpins := gpioSetValue_pins h'.inv c.wr trig 0
        rw [HcsrPost]
        refine (congrFun (hpins.done hret) trig).trans ?_
        rw [Function.update_self, hready]
        rfl

end FailSafe

end Librasp
