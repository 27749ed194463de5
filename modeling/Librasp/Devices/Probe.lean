import Librasp.Clock
import Librasp.Foundation.Prog
import Librasp.Gpio.Pins
import Librasp.Sched

/-!
# Probing a device

The devices on GPIO lines are probed by programs that set and read pins, look at the clock, and
put themselves in the real-time policy for the time being. Each leaves at the first call that
fails (`execRg`), to a cleanup.

The state keeps what the pins did after each GPIO or clock call, and which of these calls failed.
What the lines tell may depend on what the pins did, so that a device can be put on them.

`ProbeFailSafe` is what is asked of a probe when one call fails. A probe has it if before each
call the cleanup is ready (`probeExits`): were the program to leave now, the cleanup would bring
the pins to the state that is documented.

* `ProbeEnv` is what a probe meets: for each call, by its number, what the system and the clock
  make of it, and what the scheduler calls are granted.
* `ProbeAt` is the state before a call while none has failed, and `ProbeFailed` the one after the
  call that has. `ensures_execRg` is the rule for a checked call, and goes from the first to the
  first or to the second.
* `ProbeFailed.done` is the cleanup: it makes up for what its flag tells.
* `Coded` says which errors a program returns: those of its calls.

The three probes of the library are verified by these rules, one lemma for each of their parts.
-/

namespace Librasp

/-! ### The model -/

/-- What a GPIO or clock call meets. -/
structure CallEnv where
  dir : DirEnv
  wr : Bool
  rd : Bool
  clock : ClockEnv
  usleep : Bool
  /-- What a variable holds that the call did not set. -/
  uninit : UInt32

/-- What a probe meets. -/
structure ProbeEnv where
  /-- `CONFIG_CLOCK_SYS_DRIVER`. -/
  sysDriver : Bool
  clk : ClockHndl
  call : ℕ → CallEnv
  /-- The levels of the lines, by what the pins did after each call so far. -/
  line : List (ℕ → Option Bool) → ℕ → Bool
  raise : RaiseEnv
  restore : ℕ → Bool
  /-- What an array holds that was not set. -/
  stack : ℕ → UInt32

/-- The state of a probe, with its variables. -/
structure ProbeSt (μ : Type) where
  gpio : GpioSt
  proc : Process
  /-- `sched_h`. -/
  schedH : SchedRt
  /-- `sched_rt_raise_max` was called for the handle. -/
  filled : Bool
  /-- `sched_restore` was called for the handle before that. -/
  garbled : Bool
  restores : ℕ
  /-- What the pins did after each call. -/
  hist : List (ℕ → Option Bool)
  /-- The calls that failed. -/
  fails : List (ℕ × LrErrc)
  vars : μ

/-- A probe begins; the handle on its stack holds anything. -/
def ProbeSt.start {μ : Type} (gpio : GpioSt) (proc : Process) (stack : SchedRt) (vars : μ) :
    ProbeSt μ :=
  ⟨gpio, proc, stack, false, false, 0, [], [], vars⟩

/-- A probe without a real-time section begins: there is no handle to be filled. -/
def ProbeSt.startPlain {μ : Type} (gpio : GpioSt) (proc : Process) (vars : μ) : ProbeSt μ :=
  { ProbeSt.start gpio proc ⟨-1, 0⟩ vars with filled := true }

/-- The state after a GPIO or clock call. -/
def ProbeSt.after {μ : Type} (s : ProbeSt μ) (ret : LrErrc) (gpio : GpioSt) : ProbeSt μ :=
  { s with
    gpio := gpio
    hist := s.hist ++ [gpio.drives]
    fails := if ret = .success then s.fails else s.fails ++ [(s.hist.length, ret)] }

/-- What the probes are. -/
abbrev ProbeM (μ : Type) (α : Type) := Prog LrErrc (ProbeSt μ) α

namespace ProbeM

variable {μ α : Type}

/-- A GPIO or clock call, with what it sets. -/
def call (e : ProbeEnv) (f : CallEnv → GpioSt → (LrErrc × α) × GpioSt) : ProbeM μ (LrErrc × α) :=
  fun s =>
    let r := f (e.call s.hist.length) s.gpio
    (.val r.1, s.after r.1.1 r.2)

/-- `EXEC_RG`. -/
def execRg (m : ProbeM μ (LrErrc × α)) : ProbeM μ α := do
  let r ← m
  if r.1 = .success then pure r.2 else Prog.exit r.1

/-- `EXECLK_RG`. -/
def execlkRg (e : ProbeEnv) (m : ProbeM μ (LrErrc × α)) : ProbeM μ α :=
  if e.sysDriver then execRg m else do
    let r ← m
    pure r.2

/-- `gpio_set_value`. -/
def setValue (e : ProbeEnv) (gpio val : ℕ) : ProbeM μ (LrErrc × Unit) :=
  call e fun c s =>
    let r := gpioSetValue c.wr s gpio val
    ((r.1, ()), r.2)

/-- `gpio_get_value`. -/
def getValue (e : ProbeEnv) (gpio : ℕ) : ProbeM μ (LrErrc × ℕ) := fun s =>
  call e (fun c g =>
    let r := gpioGetValue c.rd (g.sample (e.line s.hist)) gpio
    ((r.1.1, r.1.2.getD c.uninit.toNat), r.2)) s

/-- `gpio_opndrn_set_value`. -/
def opndrnSetValue (e : ProbeEnv) (gpio val : ℕ) : ProbeM μ (LrErrc × Unit) :=
  call e fun c s =>
    let r := if val &&& 1 ≠ 0 then gpioDirectionInput c.dir s gpio
      else gpioDirectionOutput c.dir s gpio 0
    ((r.1, ()), r.2)

/-- `clock_get_ticks32`. -/
def getTicks32 (e : ProbeEnv) : ProbeM μ (LrErrc × UInt32) :=
  call e fun c s =>
    let r := clockGetTicks32 e.sysDriver e.clk c.clock
    ((r.1, r.2.getD c.uninit), s)

/-- `clock_usleep`. -/
def usleep (e : ProbeEnv) (_usec : ℕ) : ProbeM μ (LrErrc × Unit) :=
  call e fun c s => ((clockUsleep e.sysDriver e.clk c.usleep, ()), s)

/-- `sched_rt_raise_max`. -/
def raiseMax (e : ProbeEnv) : ProbeM μ Unit :=
  Prog.modify fun s =>
    let r := schedRtRaiseMax e.raise s.proc
    { s with proc := r.proc, schedH := r.hndl, filled := true }

/-- `sched_restore`. -/
def restore (e : ProbeEnv) : ProbeM μ Unit :=
  Prog.modify fun s =>
    let r := schedRestore (e.restore s.restores) s.schedH s.proc
    { s with
      proc := r.proc
      schedH := r.hndl
      restores := s.restores + 1
      garbled := s.garbled || !s.filled }

/-- Variables are set. -/
def setVars (f : μ → μ) : ProbeM μ Unit := Prog.modify fun s => { s with vars := f s.vars }

/-- The part of a cleanup that makes up for what a flag tells. -/
def undoIf (flag : μ → Bool) (m : ProbeM μ (LrErrc × Unit)) : ProbeM μ Unit := fun s =>
  if flag s.vars then (.val (), (m s).2) else (.val (), s)

end ProbeM

/-! ### What is asked -/

section FailSafe

variable {μ : Type}

/-- What is asked of a probe, for any number of rounds, when one of its calls has failed: it has
returned the error, with the pins as documented. The real-time handle is not restored before it is
filled. -/
structure ProbeFailSafe (post : (ℕ → Option Bool) → Prop)
    (run : ℕ → Outcome LrErrc LrErrc × ProbeSt μ) : Prop where
  told : ∀ fuel k err, (run fuel).2.fails = [(k, err)] →
    (run fuel).1 = .val err ∧ post (run fuel).2.gpio.drives
  filled : ∀ fuel, (run fuel).2.garbled = false

/-- Before a call: nothing has failed, and the variables and the pins are these. -/
structure ProbeAt (v : μ) (d : ℕ → Option Bool) (s : ProbeSt μ) : Prop where
  inv : PinInv s.gpio
  fails : s.fails = []
  garbled : s.garbled = false
  filled : s.filled = true
  vars : s.vars = v
  drives : s.gpio.drives = d

/-- After the call that failed: the cleanup is ready (`C`) for the variables and the pins. -/
structure ProbeFailed (C : μ → (ℕ → Option Bool) → Prop) (err : LrErrc) (s : ProbeSt μ) :
    Prop where
  inv : PinInv s.gpio
  fails : ∃ k, s.fails = [(k, err)]
  garbled : s.garbled = false
  filled : s.filled = true
  ready : C s.vars s.gpio.drives

/-- What is to hold where a probe leaves early, and while it is running. -/
def probeExits (C : μ → (ℕ → Option Bool) → Prop) : Prog.Exits LrErrc (ProbeSt μ) where
  exit := ProbeFailed C
  more s := s.fails = [] ∧ s.garbled = false

/-- What a probe is to have done in the end. -/
def ProbeDone (post : (ℕ → Option Bool) → Prop) (ret : LrErrc) (s : ProbeSt μ) : Prop :=
  (∀ k err, s.fails = [(k, err)] → ret = err ∧ post s.gpio.drives) ∧ s.garbled = false

end FailSafe

/-! ### One call -/

section Calls

open Prog

variable {μ α : Type} {C : μ → (ℕ → Option Bool) → Prop} {e : ProbeEnv} {v : μ}
  {d : ℕ → Option Bool} {s : ProbeSt μ}

theorem ProbeAt.more (hs : ProbeAt v d s) : (probeExits C).more s := ⟨hs.fails, hs.garbled⟩

/-- A call that succeeds. -/
theorem ProbeAt.after_success (hs : ProbeAt v d s) {g : GpioSt} (hg : PinInv g) :
    ProbeAt v g.drives (s.after .success g) :=
  ⟨hg, hs.fails, hs.garbled, hs.filled, hs.vars, rfl⟩

/-- A call that fails, with the cleanup ready. -/
theorem ProbeAt.after_failure (hs : ProbeAt v d s) {g : GpioSt} (hg : PinInv g) {err : LrErrc}
    (herr : err ≠ .success) (hC : C v g.drives) : ProbeFailed C err (s.after err g) where
  inv := hg
  fails := ⟨s.hist.length, by rw [ProbeSt.after, if_neg herr, hs.fails, List.nil_append]⟩
  garbled := hs.garbled
  filled := hs.filled
  ready := by rw [← hs.vars] at hC; exact hC

theorem execRg_of_success {m : ProbeM μ (LrErrc × α)} {a : α} {s' : ProbeSt μ}
    (h : m s = (.val (.success, a), s')) : ProbeM.execRg m s = (.val a, s') := by
  rw [ProbeM.execRg, bind_of_val h, if_pos rfl]
  rfl

theorem execRg_of_failure {m : ProbeM μ (LrErrc × α)} {a : α} {err : LrErrc} {s' : ProbeSt μ}
    (h : m s = (.val (err, a), s')) (herr : err ≠ .success) :
    ProbeM.execRg m s = (.exit err, s') := by
  rw [ProbeM.execRg, bind_of_val h, if_neg herr]
  rfl

/-- **A checked call.** A call that succeeds leads to the state before the next one, and a call
that fails to the way out, for which the cleanup has to be ready: with what the pins do after
the failure, not with what they were to do. -/
theorem ensures_execRg {m : ProbeM μ (LrErrc × α)} {ret : LrErrc} {a : α} {s' : ProbeSt μ}
    {Q : α → ProbeSt μ → Prop} {X : Exits LrErrc (ProbeSt μ)} (h : m s = (.val (ret, a), s'))
    (hok : ret = .success → Q a s') (hfail : ret ≠ .success → X.exit ret s') :
    Ensures (ProbeM.execRg m) s Q X := by
  rw [Ensures]
  by_cases hret : ret = .success
  · subst hret
    rw [execRg_of_success h]
    exact hok rfl
  · rw [execRg_of_failure h hret]
    exact hfail hret

theorem ensures_setValue (hs : ProbeAt v d s) (hC : C v d) (g val : ℕ) :
    Ensures (ProbeM.execRg (ProbeM.setValue e g val)) s
      (fun _ => ProbeAt v (Function.update d g ((d g).map fun _ => decide (val ≠ 0))))
      (probeExits C) := by
  have hpins := gpioSetValue_pins hs.inv (e.call s.hist.length).wr g val
  refine ensures_execRg rfl (fun hret => ?_) fun hret => ?_
  · have hat := hs.after_success hpins.inv
    rw [hpins.done hret, hs.drives] at hat
    rw [hret]
    exact hat
  · refine hs.after_failure hpins.inv hret ?_
    rw [hpins.failed hret, hs.drives]
    exact hC

theorem ensures_getValue (hs : ProbeAt v d s) (hC : C v d) (g : ℕ) :
    Ensures (ProbeM.execRg (ProbeM.getValue e g)) s (fun _ => ProbeAt v d) (probeExits C) := by
  have hinv := pinInv_sample hs.inv (e.line s.hist)
  have hsame := gpioGetValue_snd hinv (e.call s.hist.length).rd g
  have hdrives : (s.gpio.sample (e.line s.hist)).drives = d := (drives_sample _ _).trans hs.drives
  refine ensures_execRg rfl (fun hret => ?_) fun hret => ?_
  · have hat := hs.after_success hinv
    rw [hdrives] at hat
    rw [hret, hsame]
    exact hat
  · rw [hsame]
    refine hs.after_failure hinv hret ?_
    rw [hdrives]
    exact hC

/-- The pins are no business of a clock call. -/
theorem ensures_clock (hs : ProbeAt v d s) (hC : C v d) (f : CallEnv → LrErrc × α) :
    Ensures (ProbeM.execRg (ProbeM.call e fun c g => (f c, g))) s (fun _ => ProbeAt v d)
      (probeExits C) := by
  refine ensures_execRg rfl (fun hret => ?_) fun hret => ?_
  · have hat := hs.after_success hs.inv
    rw [hs.drives] at hat
    rw [hret]
    exact hat
  · refine hs.after_failure hs.inv hret ?_
    rw [hs.drives]
    exact hC

/-- A clock call need not be checked where it does not fail: without the SYS driver `EXECLK_RG` is
the call alone. -/
theorem ensures_execlkRg (hs : ProbeAt v d s) (hC : C v d) (f : CallEnv → LrErrc × α)
    (hf : e.sysDriver = false → ∀ c, (f c).1 = .success) :
    Ensures (ProbeM.execlkRg e (ProbeM.call e fun c g => (f c, g))) s (fun _ => ProbeAt v d)
      (probeExits C) := by
  rw [ProbeM.execlkRg]
  rcases hsys : e.sysDriver with _ | _
  · have hat := hs.after_success hs.inv
    rw [hs.drives] at hat
    rw [if_neg (by decide)]
    refine ensures_bind (Q := fun _ => ProbeAt v d) ?_ fun r s' hr => ensures_pure hr
    change ProbeAt v d (s.after (f (e.call s.hist.length)).1 s.gpio)
    rw [hf hsys]
    exact hat
  · rw [if_pos rfl]
    exact ensures_clock hs hC f

variable (he : e.clk.Usable e.sysDriver ∧ e.clk.drv.isSome = true)

include he

/-- Without the SYS driver the clock is that of the I/O driver. -/
theorem drv_io_of_usable (hsys : e.sysDriver = false) : e.clk.drv = some .io := by
  rcases hdrv : e.clk.drv with _ | _ | _
  · exact absurd he.2 (by rw [hdrv]; decide)
  · rfl
  · exact absurd ((he.1.2 hdrv).symm.trans hsys) (by decide)

theorem ensures_getTicks32 (hs : ProbeAt v d s) (hC : C v d) :
    Ensures (ProbeM.execlkRg e (ProbeM.getTicks32 e)) s (fun _ => ProbeAt v d)
      (probeExits C) := by
  refine ensures_execlkRg hs hC _ fun hsys c => ?_
  dsimp only
  rw [clockGetTicks32, if_pos (drv_io_of_usable he hsys)]

theorem ensures_usleep (hs : ProbeAt v d s) (hC : C v d) (usec : ℕ) :
    Ensures (ProbeM.execlkRg e (ProbeM.usleep e usec)) s (fun _ => ProbeAt v d)
      (probeExits C) := by
  refine ensures_execlkRg hs hC _ fun hsys c => ?_
  dsimp only
  rw [clockUsleep, if_pos (drv_io_of_usable he hsys)]

end Calls

/-! ### The way out -/

section Cleanup

open Prog

variable {μ α : Type} {C : μ → (ℕ → Option Bool) → Prop} {post : (ℕ → Option Bool) → Prop}
  {e : ProbeEnv} {v : μ} {d : ℕ → Option Bool} {s : ProbeSt μ} {err : LrErrc}

/-- A handle that was filled may be restored. -/
theorem ProbeAt.restore (hs : ProbeAt v d s) : ProbeAt v d (ProbeM.restore e s).2 where
  inv := hs.inv
  fails := hs.fails
  garbled := by
    change (s.garbled || !s.filled) = false
    rw [hs.garbled, hs.filled]
    rfl
  filled := hs.filled
  vars := hs.vars
  drives := hs.drives

theorem ensures_restore (hs : ProbeAt v d s) :
    Ensures (ProbeM.restore e) s (fun _ => ProbeAt v d) (probeExits C) :=
  ensures_modify hs.restore

theorem ensures_raiseMax (hs : ProbeAt v d { s with filled := true }) :
    Ensures (ProbeM.raiseMax e) s (fun _ => ProbeAt v d) (probeExits C) :=
  ensures_modify ⟨hs.inv, hs.fails, hs.garbled, rfl, hs.vars, hs.drives⟩

theorem ensures_setVars (hs : ProbeAt v d s) (f : μ → μ) :
    Ensures (ProbeM.setVars f) s (fun _ => ProbeAt (f v) d) (probeExits C) :=
  ensures_modify ⟨hs.inv, hs.fails, hs.garbled, hs.filled, congrArg f hs.vars, hs.drives⟩

theorem ProbeFailed.restore (hs : ProbeFailed C err s) :
    ProbeFailed C err (ProbeM.restore e s).2 where
  inv := hs.inv
  fails := hs.fails
  garbled := by
    change (s.garbled || !s.filled) = false
    rw [hs.garbled, hs.filled]
    rfl
  filled := hs.filled
  ready := hs.ready

/-- A probe begins with nothing failed. -/
theorem probeAt_start {gpio : GpioSt} (hinv : PinInv gpio) (proc : Process) (stack : SchedRt)
    (v : μ) :
    ProbeAt v gpio.drives { ProbeSt.start gpio proc stack v with filled := true } :=
  ⟨hinv, rfl, rfl, rfl, rfl, rfl⟩

/-- Where no call has failed there is nothing to tell. -/
theorem ProbeAt.done (hs : ProbeAt v d s) (ret : LrErrc) : ProbeDone post ret s := by
  refine ⟨fun k err h => ?_, hs.garbled⟩
  rw [hs.fails] at h
  exact absurd h (by simp)

/-- A cleanup that has nothing to make up for. -/
theorem undoIf_idle {flag : μ → Bool} (hflag : flag s.vars = false)
    (m : ProbeM μ (LrErrc × Unit)) : ProbeM.undoIf flag m s = (.val (), s) := by
  rw [ProbeM.undoIf, hflag, if_neg (by decide)]

/-- A probe that leaves with nothing to make up for. -/
theorem finish_idle {m : ProbeM μ LrErrc} {s' : ProbeSt μ} (h : m s = (.exit err, s'))
    {flag : μ → Bool} (hflag : flag s'.vars = false) (undo : ProbeM μ (LrErrc × Unit)) :
    finish m (do ProbeM.restore e; ProbeM.undoIf flag undo) s =
      (.val err, (ProbeM.restore e s').2) := by
  obtain ⟨t, ht⟩ : ∃ t, ProbeM.restore e s' = (.val (), t) := ⟨_, rfl⟩
  have hvars : t.vars = s'.vars := congrArg (fun r => r.2.vars) ht.symm
  rw [finish_of_exit h, bind_of_val ht, ht, undoIf_idle (by rw [hvars, hflag])]

/-- A call that is the only one to fail. -/
theorem ProbeAt.fails_after (hs : ProbeAt v d s) {ret : LrErrc} (hret : ret ≠ .success)
    (g : GpioSt) : (s.after ret g).fails = [(s.hist.length, ret)] := by
  rw [ProbeSt.after, if_neg hret, hs.fails, List.nil_append]

theorem ProbeAt.done_undoIf (hs : ProbeAt v d s) {flag : μ → Bool} (hflag : flag v = false)
    (m : ProbeM μ (LrErrc × Unit)) (ret : LrErrc) :
    ProbeDone post ret (ProbeM.undoIf flag m s).2 := by
  rw [undoIf_idle (hs.vars ▸ hflag)]
  exact hs.done ret

/-- **The cleanup.** It makes up for what the flag tells, if its call succeeds. No other call has
failed by then, so it does unless the system refuses it too. -/
theorem ProbeFailed.done (hs : ProbeFailed C err s) {flag : μ → Bool}
    {f : CallEnv → GpioSt → (LrErrc × Unit) × GpioSt}
    (hidle : flag s.vars = false → post s.gpio.drives)
    (hundo : flag s.vars = true → ∀ c, (f c s.gpio).1.1 = .success → post (f c s.gpio).2.drives) :
    ProbeDone post err (ProbeM.undoIf flag (ProbeM.call e f) s).2 := by
  obtain ⟨k, hk⟩ := hs.fails
  rw [ProbeM.undoIf]
  rcases hflag : flag s.vars with _ | _
  · rw [if_neg (by decide)]
    refine ⟨fun k' err' h => ?_, hs.garbled⟩
    rw [hk] at h
    exact ⟨(Prod.mk.inj (List.cons.inj h).1).2, hidle hflag⟩
  · rw [if_pos rfl]
    refine ⟨fun k' err' h => ?_, hs.garbled⟩
    dsimp only [ProbeM.call, ProbeSt.after] at h ⊢
    by_cases hret : (f (e.call s.hist.length) s.gpio).1.1 = .success
    · rw [if_pos hret, hk] at h
      exact ⟨(Prod.mk.inj (List.cons.inj h).1).2, hundo hflag _ hret⟩
    · -- a second call has failed
      rw [if_neg hret, hk] at h
      exact absurd h (by simp)

theorem probeFailSafe_of_ensures {m : ℕ → ProbeM μ LrErrc}
    (h : ∀ fuel, Ensures (m fuel) s (ProbeDone post)
      ⟨fun _ _ => False, (probeExits C).more⟩) :
    ProbeFailSafe post fun fuel => m fuel s := by
  have hcases : ∀ fuel, (∀ k err, (m fuel s).2.fails = [(k, err)] →
      (m fuel s).1 = .val err ∧ post (m fuel s).2.gpio.drives) ∧ (m fuel s).2.garbled = false := by
    intro fuel
    have hfuel := h fuel
    unfold Ensures at hfuel
    rcases hm : m fuel s with ⟨ret | _ | _, s'⟩
    · rw [hm] at hfuel
      refine ⟨fun k err hfails => ?_, hfuel.2⟩
      obtain ⟨rfl, hpost⟩ := hfuel.1 k err hfails
      exact ⟨rfl, hpost⟩
    · rw [hm] at hfuel
      exact hfuel.elim
    · rw [hm] at hfuel
      refine ⟨fun k err hfails => ?_, hfuel.2⟩
      exact absurd (hfuel.1.symm.trans hfails) (by simp)
  exact ⟨fun fuel => (hcases fuel).1, fun fuel => (hcases fuel).2⟩

end Cleanup

/-! ### What a call results in -/

/-- The results of the GPIO and clock calls. -/
def callCodes : List LrErrc :=
  [.success, .invArg, .notSupp, .noinit, .openErr, .readErr, .writeErr, .clkErr]

section Codes

open Prog

variable {μ α : Type} {e : ProbeEnv} {s : ProbeSt μ}

theorem gpioSetValue_code (wr : Bool) (s : GpioSt) (g val : ℕ) :
    (gpioSetValue wr s g val).1 ∈ callCodes := by
  rw [gpioSetValue]
  rcases s.hndl.valfds g with _ | fd <;> dsimp only <;> split_ifs <;> simp [callCodes]

theorem gpioGetValue_code (rd : Bool) (s : GpioSt) (g : ℕ) :
    (gpioGetValue rd s g).1.1 ∈ callCodes := by
  rw [gpioGetValue]
  rcases s.hndl.valfds g with _ | fd <;> dsimp only <;> split_ifs <;> simp [callCodes]

theorem gpioBcmSetFunc_code (s : GpioSt) (g : ℕ) (func : GpioBcmFunc) :
    (gpioBcmSetFunc s g func).1 ∈ callCodes := by
  rw [gpioBcmSetFunc]
  split_ifs <;> simp [callCodes]

theorem sysfsSetDirection_code (c : DirEnv) (s : GpioSt) (g : ℕ) (asOut : Bool) :
    (sysfsSetDirection c s g asOut).1 ∈ callCodes := by
  have hwrite : ∀ s, (sysfsWriteDirection c s g asOut).1 ∈ callCodes := by
    intro s
    rw [sysfsWriteDirection]
    split_ifs <;> simp [callCodes]
  rw [sysfsSetDirection]
  split_ifs
  · simp [callCodes]
  · exact hwrite _
  · simp [callCodes]
  · exact hwrite _

theorem opndrnSetValue_code (c : DirEnv) (s : GpioSt) (g val : ℕ) :
    (if val &&& 1 ≠ 0 then gpioDirectionInput c s g
      else gpioDirectionOutput c s g 0).1 ∈ callCodes := by
  rw [gpioDirectionInput, gpioDirectionOutput]
  dsimp only
  split_ifs
  · exact gpioBcmSetFunc_code s g .in
  · exact sysfsSetDirection_code c s g false
  · exact gpioBcmSetFunc_code _ g .out
  · exact gpioSetValue_code _ s g 0
  · exact gpioSetValue_code _ _ g 0
  · exact sysfsSetDirection_code c s g true

theorem clockGetTicks32_code (sysDriver : Bool) (h : ClockHndl) (c : ClockEnv) :
    (clockGetTicks32 sysDriver h c).1 ∈ callCodes := by
  rw [clockGetTicks32, sysTicks]
  rcases c.gettime with _ | tp <;> dsimp only <;> split_ifs <;> simp [callCodes]

theorem clockUsleep_code (sysDriver : Bool) (h : ClockHndl) (ok : Bool) :
    clockUsleep sysDriver h ok ∈ callCodes := by
  rw [clockUsleep]
  split_ifs <;> simp [callCodes]

/-- The exits of a probe are those of its calls. -/
def codeExits : Exits LrErrc (ProbeSt μ) where
  exit ret _ := ret ∈ callCodes
  more _ := True

/-- A call whose results are among these. -/
def Coded (m : ProbeM μ (LrErrc × α)) (s : ProbeSt μ) : Prop :=
  ∃ ret a s', m s = (.val (ret, a), s') ∧ ret ∈ callCodes

theorem coded_call {f : CallEnv → GpioSt → (LrErrc × α) × GpioSt}
    (hf : ∀ c gp, (f c gp).1.1 ∈ callCodes) (s : ProbeSt μ) : Coded (ProbeM.call e f) s :=
  ⟨_, _, _, rfl, hf (e.call s.hist.length) s.gpio⟩

theorem coded_getValue (g : ℕ) (s : ProbeSt μ) : Coded (ProbeM.getValue e g) s :=
  ⟨_, _, _, rfl, gpioGetValue_code (e.call s.hist.length).rd (s.gpio.sample (e.line s.hist)) g⟩

theorem coded_opndrnSetValue (g val : ℕ) (s : ProbeSt μ) :
    Coded (ProbeM.opndrnSetValue e g val) s :=
  coded_call (fun _ _ => opndrnSetValue_code _ _ _ _) s

theorem coded_getTicks32 (s : ProbeSt μ) : Coded (ProbeM.getTicks32 e) s :=
  coded_call (fun _ _ => clockGetTicks32_code _ _ _) s

theorem coded_usleep (usec : ℕ) (s : ProbeSt μ) : Coded (ProbeM.usleep e usec) s :=
  coded_call (fun _ _ => clockUsleep_code _ _ _) s

theorem Coded.execRg {m : ProbeM μ (LrErrc × α)} (h : Coded m s) :
    Ensures (ProbeM.execRg m) s (fun _ _ => True) codeExits := by
  obtain ⟨ret, a, s', hcall, hret⟩ := h
  exact ensures_execRg hcall (fun _ => trivial) fun _ => hret

theorem Coded.execlkRg {m : ProbeM μ (LrErrc × α)} (h : Coded m s) :
    Ensures (ProbeM.execlkRg e m) s (fun _ _ => True) codeExits := by
  rw [ProbeM.execlkRg]
  split_ifs
  · exact h.execRg
  · obtain ⟨ret, a, s', hcall, -⟩ := h
    rw [Ensures, bind_of_val hcall]
    trivial

end Codes

end Librasp
