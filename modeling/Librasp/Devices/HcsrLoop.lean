import Librasp.Devices.Granted
import Librasp.Devices.Hcsr04
import Librasp.Foundation.Loop
import Librasp.Ticks

/-!
# `hcsr04.c`: the response loop of the sensor

The response loop waits for ECHO to rise, and counts until it falls. Its time-out is looked at
while it waits only: once ECHO is high, nothing but a fall ends the loop, which runs in the
real-time policy all the while.

* **The loop.** `hcsrNext` is the loop over a stream of samples, and `hcsrLoopEnds_iff` says for
  which streams it ends: it is broken while it waits, or ECHO falls after it has risen. While the
  ticks keep advancing, it is the fall alone that matters (`hcsrEnds_iff`).
* **The program.** A probe whose calls are granted runs as this loop does over the samples it is
  told (`ensures_hcsrLoop`, a round at a time), and returns what has been counted
  (`ensures_hcsrProbe`). The invariant is `HcsrAt`, with the number of calls made so far: the three
  calls of a round take the samples in turn.
* **The real-time section.** The probe restores the scheduler on its way out, and once more in its
  cleanup. That it is out of the section is a matter of the process it leaves behind
  (`Process.HasLeft`), which depends on the system (`SchedLeaves`).

**Main result.** `hcsrProbe_returns_iff` puts these together: the probe returns, out of its
real-time section, exactly if ECHO falls again where it rises and the section can be left.
-/

namespace Librasp

/-! ### The loop -/

/-- The level of ECHO, and the ticks. -/
abbrev HcsrSample := Bool × UInt32

section Stream

variable (start : UInt32) (x : ℕ → HcsrSample)

/-- What the response loop makes of its variables and the next sample. -/
def hcsrNext (s : (ℕ × UInt32) × ℕ) : ((ℕ × UInt32) × ℕ) ⊕ UInt32 :=
  if s.1.1 < 2 then
    if s.1.1 = 0 ∧ (x s.2).1.toNat = 0 ∧ Hcsr.breakThrshd ≤ (x s.2).2 - start then .inr s.1.2
    else .inl (hcsrSwitch s.1 (x s.2).1.toNat, s.2 + 1)
  else .inr s.1.2

/-- ECHO is low in the first `k` samples, within the break threshold. -/
def HcsrQuiet (k : ℕ) : Prop :=
  ∀ i < k, (x i).1 = false ∧ ¬ Hcsr.breakThrshd ≤ (x i).2 - start

/-- ECHO is still low, and the break threshold is reached. -/
def HcsrTimesOut (k : ℕ) : Prop :=
  HcsrQuiet start x k ∧ (x k).1 = false ∧ Hcsr.breakThrshd ≤ (x k).2 - start

/-- ECHO is high for the first time, before the loop is broken. -/
def HcsrRises (k : ℕ) : Prop := HcsrQuiet start x k ∧ (x k).1 = true

/-- The loop is broken, or ECHO falls after it has risen. -/
def HcsrEnds : Prop :=
  (∃ k, HcsrTimesOut start x k) ∨ ∃ k j, HcsrRises start x k ∧ k < j ∧ (x j).1 = false

/-- Where ECHO rises before the loop is broken, it falls again. -/
def HcsrFalls : Prop := ∀ k, HcsrRises start x k → ∃ j, k < j ∧ (x j).1 = false

/-- The ticks keep advancing: they are those of a counter that counts on, and that is not kept from
being read for almost a turn of its register. -/
def HcsrAdvances : Prop :=
  ∃ n : ℕ →o ℕ, start = lowReadings n 0 ∧ (∀ k, (x k).2 = lowReadings n (k + 1)) ∧
    (∀ b, ∃ k, b ≤ n k) ∧ ∀ k, n (k + 1) - n k < 2 ^ 32 - 1000

/-- The loop over the stream ends. -/
def HcsrLoopEnds : Prop := ∃ fuel r, Loop.run (hcsrNext start x) fuel ((0, 0), 0) = some r

end Stream

section Ends

variable {start : UInt32} {x : ℕ → HcsrSample} {k : ℕ}

theorem HcsrQuiet.succ (hk : HcsrQuiet start x k) (hlow : (x k).1 = false)
    (hlt : ¬ Hcsr.breakThrshd ≤ (x k).2 - start) : HcsrQuiet start x (k + 1) := by
  intro i hi
  rcases Nat.lt_succ_iff_lt_or_eq.mp hi with hlt' | rfl
  · exact hk i hlt'
  · exact ⟨hlow, hlt⟩

/-- While the loop waits, a sample without a rise keeps it waiting, or breaks it. -/
theorem hcsrNext_wait_low (n : UInt32) (hlow : (x k).1 = false) : hcsrNext start x ((0, n), k) =
    if Hcsr.breakThrshd ≤ (x k).2 - start then .inr n else .inl ((0, n), k + 1) := by
  simp only [hcsrNext, hcsrSwitch, hlow, Bool.toNat_false, true_and]
  rfl

theorem hcsrNext_wait_high (n : UInt32) (hhigh : (x k).1 = true) :
    hcsrNext start x ((0, n), k) = .inl ((1, n + 1), k + 1) := by
  simp only [hcsrNext, hcsrSwitch, hhigh, Bool.toNat_true]
  rfl

/-- While the loop counts, no sample breaks it. -/
theorem hcsrNext_count (n : UInt32) (k : ℕ) : hcsrNext start x ((1, n), k) =
    .inl (if (x k).1 then (1, n + 1) else (2, n), k + 1) := by
  simp only [hcsrNext, hcsrSwitch]
  rcases (x k).1 with _ | _ <;> rfl

theorem hcsrNext_done (n : UInt32) (k : ℕ) : hcsrNext start x ((2, n), k) = .inr n := rfl

/-- A loop without a response ends: until the sample at which the threshold is reached every round
waits, and this one breaks. -/
theorem hcsrLoopEnds_of_timesOut (hk : HcsrTimesOut start x k) : HcsrLoopEnds start x := by
  obtain ⟨hquiet, hlow, hbreak⟩ := hk
  -- the loop waits until the sample `k`
  have hround : ∀ s s', (s.1 = (0, 0) ∧ s.2 ≤ k) → hcsrNext start x s = .inl s' →
      (s'.1 = (0, 0) ∧ s'.2 ≤ k) ∧ True ∧ k + 1 - s'.2 < k + 1 - s.2 := by
    rintro ⟨t, i⟩ s' ⟨rfl, hi⟩ hstay
    dsimp only at hi
    rcases hi.lt_or_eq with hlt | rfl
    · obtain ⟨hi0, hno⟩ := hquiet i hlt
      rw [hcsrNext_wait_low 0 hi0, if_neg hno] at hstay
      obtain rfl := Sum.inl.inj hstay
      exact ⟨⟨rfl, hlt⟩, trivial, by dsimp only; omega⟩
    · rw [hcsrNext_wait_low 0 hlow, if_pos hbreak] at hstay
      exact absurd hstay (by simp)
  exact (Loop.ends_of_invariant (fun s => k + 1 - s.2) hround ⟨rfl, Nat.zero_le k⟩).leaves

/-- Before the loop is left by a fall of ECHO at `j`, after a rise at `k`. -/
def HcsrBetween (k j : ℕ) (s : (ℕ × UInt32) × ℕ) : Prop :=
  (s.1.1 = 0 ∧ s.2 ≤ k) ∨ (s.1.1 = 1 ∧ s.2 ≤ j) ∨ (s.1.1 = 2 ∧ s.2 ≤ j + 1)

/-- A loop whose ECHO rises and falls again ends. The rounds up to the falling edge are
`HcsrBetween`, and each of them comes closer to it. -/
theorem hcsrLoopEnds_of_falls (hk : HcsrRises start x k) {j : ℕ} (hj : k < j)
    (hlow : (x j).1 = false) : HcsrLoopEnds start x := by
  obtain ⟨hquiet, hhigh⟩ := hk
  have hround : ∀ s s', HcsrBetween k j s → hcsrNext start x s = .inl s' →
      HcsrBetween k j s' ∧ True ∧ j + 2 - s'.2 < j + 2 - s.2 := by
    rintro ⟨⟨state, n⟩, i⟩ s' (⟨hstate, hi⟩ | ⟨hstate, hi⟩ | ⟨hstate, hi⟩) hstay
    · obtain rfl : state = 0 := hstate
      dsimp only at hi
      rcases hi.lt_or_eq with hlt | rfl
      · obtain ⟨hi0, hno⟩ := hquiet i hlt
        rw [hcsrNext_wait_low n hi0, if_neg hno] at hstay
        obtain rfl := Sum.inl.inj hstay
        exact ⟨Or.inl ⟨rfl, hlt⟩, trivial, by dsimp only; omega⟩
      · rw [hcsrNext_wait_high n hhigh] at hstay
        obtain rfl := Sum.inl.inj hstay
        exact ⟨Or.inr (Or.inl ⟨rfl, hj⟩), trivial, by dsimp only; omega⟩
    · obtain rfl : state = 1 := hstate
      dsimp only at hi
      rw [hcsrNext_count] at hstay
      obtain rfl := Sum.inl.inj hstay
      refine ⟨?_, trivial, by dsimp only; omega⟩
      rcases hi.lt_or_eq with hlt | rfl
      · rcases (x i).1 with _ | _
        · exact Or.inr (Or.inr ⟨rfl, Nat.succ_le_succ hlt.le⟩)
        · exact Or.inr (Or.inl ⟨rfl, hlt⟩)
      · rw [hlow]
        exact Or.inr (Or.inr ⟨rfl, le_rfl⟩)
    · obtain rfl : state = 2 := hstate
      exact absurd hstay (by simp [hcsrNext_done])
  have hstart : HcsrBetween k j ((0, 0), 0) := Or.inl ⟨rfl, Nat.zero_le k⟩
  exact (Loop.ends_of_invariant (fun s => j + 2 - s.2) hround hstart).leaves

/-- Where the loop waits or counts for ever. -/
def HcsrStuck (start : UInt32) (x : ℕ → HcsrSample) (s : (ℕ × UInt32) × ℕ) : Prop :=
  (s.1.1 = 0 ∧ HcsrQuiet start x s.2) ∨ (s.1.1 = 1 ∧ ∃ k < s.2, HcsrRises start x k)

/-- A loop that neither times out nor sees ECHO fall never ends. It is stuck waiting for the edge
or counting, and a round keeps it so. -/
theorem run_hcsrNext_of_not_ends (hno : ¬ HcsrEnds start x) (fuel : ℕ) :
    Loop.run (hcsrNext start x) fuel ((0, 0), 0) = none := by
  rw [HcsrEnds, not_or] at hno
  have hround : ∀ s, HcsrStuck start x s →
      ∃ s', hcsrNext start x s = .inl s' ∧ HcsrStuck start x s' := by
    rintro ⟨⟨state, n⟩, i⟩ (⟨hstate, hquiet⟩ | ⟨hstate, k, hk, hrise⟩)
    · obtain rfl : state = 0 := hstate
      rcases hi : (x i).1 with _ | _
      · have hlt : ¬ Hcsr.breakThrshd ≤ (x i).2 - start :=
          fun hbreak => hno.1 ⟨i, hquiet, hi, hbreak⟩
        exact ⟨_, (hcsrNext_wait_low n hi).trans (if_neg hlt), Or.inl ⟨rfl, hquiet.succ hi hlt⟩⟩
      · exact ⟨_, hcsrNext_wait_high n hi, Or.inr ⟨rfl, i, Nat.lt_succ_self i, hquiet, hi⟩⟩
    · obtain rfl : state = 1 := hstate
      have hi : (x i).1 = true := by
        by_contra hlow
        exact hno.2 ⟨k, i, hrise, hk, eq_false_of_ne_true hlow⟩
      refine ⟨_, hcsrNext_count n i, ?_⟩
      rw [hi]
      exact Or.inr ⟨rfl, k, Nat.lt_succ_of_lt hk, hrise⟩
  exact Loop.run_eq_none_of_invariant hround
    (Or.inl ⟨rfl, fun i hi => absurd hi (Nat.not_lt_zero i)⟩) fuel

/-- **The loop ends** when it is broken, or when ECHO falls after it has risen, and not otherwise.
Where neither happens the loop waits or counts for ever (`HcsrStuck`), which no sample
changes. -/
theorem hcsrLoopEnds_iff : HcsrLoopEnds start x ↔ HcsrEnds start x := by
  constructor
  · rintro ⟨fuel, r, hrun⟩
    by_contra hno
    rw [run_hcsrNext_of_not_ends hno] at hrun
    exact absurd hrun (by simp)
  · rintro (⟨k, hk⟩ | ⟨k, j, hk, hj, hlow⟩)
    · exact hcsrLoopEnds_of_timesOut hk
    · exact hcsrLoopEnds_of_falls hk hj hlow

/-! ### Ticks that advance -/

/-- Ticks that keep advancing reach the break threshold. The first reading 1000 ticks or more
behind the first of all is less than a roll of the counter behind it, so the difference of the
ticks tells it. -/
theorem HcsrAdvances.reaches (h : HcsrAdvances start x) :
    ∃ k, Hcsr.breakThrshd ≤ (x k).2 - start := by
  obtain ⟨n, hstart, htick, hinf, hgap⟩ := h
  -- the first reading that is 1000 ticks or more behind the first of all
  have hex : ∃ k, n 0 + 1000 ≤ n k := hinf _
  obtain ⟨k, hk, hfirst⟩ : ∃ k, n 0 + 1000 ≤ n (k + 1) ∧ n k < n 0 + 1000 := by
    classical
    have hpos : Nat.find hex ≠ 0 := by
      intro h0
      have hspec := Nat.find_spec hex
      rw [h0] at hspec
      omega
    obtain ⟨k, hk⟩ := Nat.exists_eq_succ_of_ne_zero hpos
    refine ⟨k, ?_, Nat.not_le.mp (Nat.find_min hex (by omega))⟩
    have hspec := Nat.find_spec hex
    rwa [hk] at hspec
  refine ⟨k, ?_⟩
  have hgapk := hgap k
  have hthr : Hcsr.breakThrshd.toNat = 1000 := rfl
  rw [UInt32.le_iff_toNat_le, hthr, htick, hstart, UInt32.toNat_sub, toNat_lowReadings,
    toNat_lowReadings]
  omega

/-- While they do, it is only the fall of ECHO that the end of the loop depends on: if ECHO does
not rise, the ticks reach the break threshold. -/
theorem hcsrEnds_iff (hadv : HcsrAdvances start x) : HcsrEnds start x ↔ HcsrFalls start x := by
  constructor
  · rintro (⟨k, hquiet, hlow, hbreak⟩ | ⟨k, j, ⟨hquiet, hhigh⟩, hj, hlow⟩) k' ⟨hquiet', hhigh'⟩
    · rcases lt_trichotomy k k' with hlt | rfl | hlt
      · exact absurd hbreak (hquiet' k hlt).2
      · exact absurd (hlow.symm.trans hhigh') (by simp)
      · exact absurd ((hquiet k' hlt).1.symm.trans hhigh') (by simp)
    · rcases lt_trichotomy k k' with hlt | rfl | hlt
      · exact absurd ((hquiet' k hlt).1.symm.trans hhigh) (by simp)
      · exact ⟨j, hj, hlow⟩
      · exact absurd ((hquiet k' hlt).1.symm.trans hhigh') (by simp)
  · intro hfalls
    by_contra hno
    rw [HcsrEnds, not_or] at hno
    -- all samples are low and early, as a rise would be followed by a fall
    have hquiet : ∀ k, HcsrQuiet start x k := by
      intro k
      induction k with
      | zero => exact fun i hi => absurd hi (Nat.not_lt_zero i)
      | succ k ih =>
        have hlow : (x k).1 = false := by
          by_contra hhigh
          obtain ⟨j, hj, hfall⟩ := hfalls k ⟨ih, eq_true_of_ne_false hhigh⟩
          exact hno.2 ⟨k, j, ⟨ih, eq_true_of_ne_false hhigh⟩, hj, hfall⟩
        exact ih.succ hlow fun hbreak => hno.1 ⟨k, ih, hlow, hbreak⟩
    obtain ⟨k, hk⟩ := hadv.reaches
    exact (hquiet (k + 1) k (Nat.lt_succ_self k)).2 hk

end Ends

/-! ### The program -/

/-- What `hcsr_probe` meets when its calls are granted and these are the ticks and the samples that
it is told. -/
structure HcsrTells (e : ProbeEnv) (echo : ℕ) (start : UInt32) (x : ℕ → HcsrSample) : Prop where
  wr : ∀ k, (e.call k).wr = true
  rd : ∀ k, (e.call k).rd = true
  usleep : ∀ k, clockUsleep e.sysDriver e.clk (e.call k).usleep = .success
  start : clockGetTicks32 e.sysDriver e.clk (e.call 0).clock = (.success, some start)
  tick : ∀ k,
    clockGetTicks32 e.sysDriver e.clk (e.call (3 * k + 5)).clock = (.success, some (x k).2)
  level : ∀ k hist, hist.length = 3 * k + 4 → e.line hist echo = (x k).1

/-- The probe returns, with the process out of the real-time section: with a distance, or without a
response. -/
def HcsrReturns (e : ProbeEnv) (trig echo : ℕ) (s : ProbeSt HcsrVars) : Prop :=
  ∃ fuel ret s', hcsrProbe e trig echo fuel s = (.val ret, s') ∧ s.proc.HasLeft s'.proc ∧
    ((ret = .success ∧ ∃ n ≠ 0, s'.vars.distCm = some n) ∨
      (ret = .noResp ∧ s'.vars.distCm = none))

/-- Before the call with the number `n`, while TRIG does `d`. -/
structure HcsrAt (trig echo : ℕ) (d : Option Bool) (n : ℕ) (r : SchedSt) (v : HcsrVars)
    (s : ProbeSt HcsrVars) : Prop where
  inv : PinInv s.gpio
  readyTrig : s.gpio.Ready trig
  readyEcho : s.gpio.Ready echo
  released : s.gpio.drives echo = none
  drives : s.gpio.drives trig = d
  calls : s.hist.length = n
  sched : s.sched = r
  vars : s.vars = v

section Program

open ProbeM Prog

variable {e : ProbeEnv} {trig echo n : ℕ} {d : Option Bool} {r : SchedSt} {start : UInt32}
  {x : ℕ → HcsrSample} {v : HcsrVars} {s : ProbeSt HcsrVars}
  {X : Exits LrErrc (ProbeSt HcsrVars)}

/-- A call, by what the pins do after it. -/
theorem HcsrAt.after (hs : HcsrAt trig echo d n r v s) {gp : GpioSt} (hinv : PinInv gp)
    (htrig : gp.Ready trig) (hecho : gp.Ready echo) (hrel : gp.drives echo = none) (ret : LrErrc) :
    HcsrAt trig echo (gp.drives trig) (n + 1) r v (s.after ret gp) :=
  ⟨hinv, htrig, hecho, hrel, rfl, by rw [ProbeSt.after, List.length_append, hs.calls]; rfl,
    hs.sched, hs.vars⟩

/-- A call that is no business of the pins. -/
theorem HcsrAt.after_same (hs : HcsrAt trig echo d n r v s) :
    HcsrAt trig echo d (n + 1) r v (s.after .success s.gpio) :=
  hs.drives ▸ hs.after hs.inv hs.readyTrig hs.readyEcho hs.released _

theorem ensures_hcsrVars (hs : HcsrAt trig echo d n r v s) (f : HcsrVars → HcsrVars) :
    Ensures (setVars f) s (fun _ => HcsrAt trig echo d n r (f v)) X :=
  ensures_modify ⟨hs.inv, hs.readyTrig, hs.readyEcho, hs.released, hs.drives, hs.calls, hs.sched,
    congrArg f hs.vars⟩

theorem ensures_hcsrRaise (hs : HcsrAt trig echo d n r v s) :
    Ensures (raiseMax e) s (fun _ => HcsrAt trig echo d n (r.raised e) v) X :=
  ensures_modify ⟨hs.inv, hs.readyTrig, hs.readyEcho, hs.released, hs.drives, hs.calls,
    congrArg (SchedSt.raised e) hs.sched, hs.vars⟩

theorem ensures_hcsrRestore (hs : HcsrAt trig echo d n r v s) :
    Ensures (restore e) s (fun _ => HcsrAt trig echo d n (r.restored e) v) X :=
  ensures_modify ⟨hs.inv, hs.readyTrig, hs.readyEcho, hs.released, hs.drives, hs.calls,
    congrArg (SchedSt.restored e) hs.sched, hs.vars⟩

variable (htells : HcsrTells e echo start x)

include htells

theorem ensures_hcsrSet (hs : HcsrAt trig echo d n r v s) (val : ℕ) :
    Ensures (execRg (setValue e trig val)) s
      (fun _ => HcsrAt trig echo (d.map fun _ => decide (val ≠ 0)) (n + 1) r v) X := by
  have hpins := gpioSetValue_pins hs.inv true trig val
  have hret := gpioSetValue_of_ready hs.readyTrig val
  have hdrives : (gpioSetValue true s.gpio trig val).2.drives trig =
      d.map fun _ => decide (val ≠ 0) := by
    rw [hpins.done hret, Function.update_self, hs.drives]
  have hrel : (gpioSetValue true s.gpio trig val).2.drives echo = none := by
    rw [hpins.done hret, Function.update_apply]
    split_ifs with heq
    · rw [← heq, hs.released]
      rfl
    · exact hs.released
  have hcall : setValue e trig val s =
      (.val (.success, ()), s.after .success (gpioSetValue true s.gpio trig val).2) := by
    rw [← hret, setValue, ProbeM.call, htells.wr]
  rw [Ensures, execRg_of_success hcall]
  exact hdrives ▸ hs.after hpins.inv (hs.readyTrig.setValue true trig val)
    (hs.readyEcho.setValue true trig val) hrel _

theorem ensures_hcsrSleep (hs : HcsrAt trig echo d n r v s) (usec : ℕ) :
    Ensures (execlkRg e (usleep e usec)) s (fun _ => HcsrAt trig echo d (n + 1) r v) X := by
  have hcall : usleep e usec s = (.val (.success, ()), s.after .success s.gpio) := by
    rw [usleep, ProbeM.call, htells.usleep]
  rw [Ensures, execlkRg_of_success hcall]
  exact hs.after_same

omit htells in
theorem ensures_hcsrTick {tick : UInt32} (hs : HcsrAt trig echo d n r v s)
    (htick : clockGetTicks32 e.sysDriver e.clk (e.call n).clock = (.success, some tick)) :
    Ensures (execlkRg e (getTicks32 e)) s
      (fun a s' => a = tick ∧ HcsrAt trig echo d (n + 1) r v s') X := by
  have hcall : getTicks32 e s = (.val (.success, tick), s.after .success s.gpio) := by
    rw [getTicks32, ProbeM.call, hs.calls, htick]
    rfl
  rw [Ensures, execlkRg_of_success hcall]
  exact ⟨rfl, hs.after_same⟩

theorem ensures_hcsrGet (k : ℕ) (hs : HcsrAt trig echo d (3 * k + 4) r v s) :
    Ensures (execRg (getValue e echo)) s
      (fun a s' => a = (x k).1.toNat ∧ HcsrAt trig echo d (3 * k + 5) r v s') X := by
  have hinv := pinInv_sample hs.inv (e.line s.hist)
  have hready : (s.gpio.sample (e.line s.hist)).Ready echo := hs.readyEcho
  have hret := gpioGetValue_of_ready hready
  have hval := gpioGetValue_sample hs.inv true (e.line s.hist) hret
  rw [hs.released, Option.getD_none, htells.level k _ hs.calls] at hval
  have hcall : getValue e echo s = (.val (.success, (x k).1.toNat),
      s.after .success (s.gpio.sample (e.line s.hist))) := by
    rw [getValue, ProbeM.call, htells.rd]
    dsimp only
    rw [hret, hval, gpioGetValue_snd hinv]
    rfl
  rw [Ensures, execRg_of_success hcall]
  have hsame := drives_sample s.gpio (e.line s.hist)
  have hreleased := (congrFun hsame echo).trans hs.released
  have hafter := hs.after hinv hs.readyTrig hready hreleased .success
  rw [hsame, hs.drives] at hafter
  exact ⟨rfl, hafter⟩

/-- **A round** of the response loop takes the next sample, and does what is done with it. -/
theorem ensures_hcsrRound_next (k : ℕ) (t : ℕ × UInt32)
    (hs : HcsrAt trig echo d (3 * k + 4) r v s) :
    Ensures (hcsrRound e echo start t) s
      (fun res s' => (∃ t', hcsrNext start x (t, k) = .inl (t', k + 1) ∧ res = .inl t' ∧
          HcsrAt trig echo d (3 * (k + 1) + 4) r v s') ∨
        ∃ m n, hcsrNext start x (t, k) = .inr m ∧ res = .inr m ∧
          HcsrAt trig echo d n r v s') X := by
  rw [hcsrRound, hcsrNext]
  by_cases hstate : t.1 < 2
  · rw [if_pos hstate, if_pos hstate]
    refine ensures_bind (ensures_hcsrGet htells k hs) fun lev s1 h1 => ?_
    obtain ⟨rfl, h1⟩ := h1
    refine ensures_bind (ensures_hcsrTick h1 (htells.tick k)) fun tick s2 h2 => ?_
    obtain ⟨rfl, h2⟩ := h2
    dsimp only
    split_ifs
    · exact ensures_pure (Or.inr ⟨t.2, _, rfl, rfl, h2⟩)
    · refine ensures_bind (ensures_hcsrSleep htells h2 _) fun _ s3 h3 => ?_
      exact ensures_pure (Or.inl ⟨_, rfl, rfl, h3⟩)
  · rw [if_neg hstate, if_neg hstate]
    exact ensures_pure (Or.inr ⟨t.2, _, rfl, rfl, hs⟩)

/-- **The loop** of the probe ends as the loop over the samples does, or runs on with it. The
invariant `HcsrAt` counts the calls, by which the next sample is found. -/
theorem ensures_hcsrLoop (fuel k : ℕ) (t : ℕ × UInt32) (hs : HcsrAt trig echo d (3 * k + 4) r v s) :
    Ensures (loop (hcsrRound e echo start) fuel t) s
      (fun m s' => Loop.run (hcsrNext start x) fuel (t, k) = some m ∧
        ∃ n, HcsrAt trig echo d n r v s')
      ⟨fun _ _ => False, fun _ => Loop.run (hcsrNext start x) fuel (t, k) = none⟩ := by
  induction fuel generalizing k t s with
  | zero => exact rfl
  | succ fuel ih =>
    refine ensures_bind (ensures_hcsrRound_next htells k t hs) fun res s' hres => ?_
    obtain ⟨t', hnext, rfl, hs'⟩ | ⟨m, n, hnext, rfl, hs'⟩ := hres
    · rw [Loop.run_succ_of_inl hnext]
      exact ih (k + 1) t' hs'
    · rw [Loop.run_succ_of_inr hnext]
      exact ⟨rfl, n, hs'⟩

/-- What the probe has made of the count, and written. -/
def HcsrTold (m : UInt32) (ret : LrErrc) (v : HcsrVars) : Prop :=
  v.setHigh = false ∧ ((m = 0 ∧ ret = .noResp ∧ v.distCm = none) ∨
    (m ≠ 0 ∧ ret = .success ∧ v.distCm = some m))

theorem ensures_hcsrBody (hs : HcsrAt trig echo d 0 r ⟨false, none⟩ s) (fuel : ℕ) :
    Ensures (hcsrBody e trig echo fuel) s
      (fun ret s' => ∃ m n v, Loop.run (hcsrNext start x) fuel ((0, 0), 0) = some m ∧
        HcsrTold m ret v ∧
        HcsrAt trig echo (d.map fun _ => false) n ((r.raised e).restored e) v s')
      ⟨fun _ _ => False,
        fun _ => Loop.run (hcsrNext start x) fuel ((0, 0), 0) = none⟩ := by
  have hlow : (d.map fun _ => decide (1 ≠ 0)).map (fun _ => decide (0 ≠ 0)) =
      d.map fun _ => false := Option.map_map _ _ d
  rw [hcsrBody]
  refine ensures_bind (ensures_hcsrTick hs htells.start) fun tick s1 h1 => ?_
  obtain ⟨rfl, h1⟩ := h1
  rw [hcsrTimed]
  refine ensures_bind (ensures_hcsrRaise h1) fun _ s2 h2 => ?_
  refine ensures_bind (ensures_hcsrSet htells h2 1) fun _ s3 h3 => ?_
  refine ensures_bind (ensures_hcsrVars h3 _) fun _ s4 h4 => ?_
  refine ensures_bind (ensures_hcsrSleep htells h4 100) fun _ s5 h5 => ?_
  refine ensures_bind (ensures_hcsrSet htells h5 0) fun _ s6 h6 => ?_
  rw [hlow] at h6
  refine ensures_bind (ensures_hcsrVars h6 _) fun _ s7 h7 => ?_
  refine ensures_bind (ensures_hcsrLoop htells fuel 0 (0, 0) h7) fun m s8 h8 => ?_
  obtain ⟨hrun, n, h8⟩ := h8
  refine ensures_bind (ensures_hcsrRestore h8) fun _ s9 h9 => ?_
  by_cases hm : m = 0
  · rw [if_pos hm]
    exact ensures_pure ⟨m, n, _, hrun, ⟨rfl, Or.inl ⟨hm, rfl, rfl⟩⟩, h9⟩
  · rw [if_neg hm]
    refine ensures_bind (ensures_hcsrVars h9 _) fun _ s10 h10 => ?_
    exact ensures_pure ⟨m, n, _, hrun, ⟨rfl, Or.inr ⟨hm, rfl, rfl⟩⟩, h10⟩

/-- **The probe** returns what its loop has counted, with TRIG low and the scheduler restored, or
does not return. -/
theorem ensures_hcsrProbe (hs : HcsrAt trig echo d 0 r ⟨false, none⟩ s) (fuel : ℕ) :
    Ensures (hcsrProbe e trig echo fuel) s
      (fun ret s' => ∃ m n v, Loop.run (hcsrNext start x) fuel ((0, 0), 0) = some m ∧
        HcsrTold m ret v ∧ HcsrAt trig echo (d.map fun _ => false) n (r.done e) v s')
      ⟨fun _ _ => False, fun _ => Loop.run (hcsrNext start x) fuel ((0, 0), 0) = none⟩ := by
  refine ensures_finish (ensures_hcsrBody htells hs fuel) ?_ fun _ _ h => h.elim
  rintro ret s' ⟨m, n, v, hrun, htold, hs'⟩
  obtain ⟨t, ht⟩ : ∃ t, restore e s' = (.val (), t) := ⟨_, rfl⟩
  have hat := ensures_hcsrRestore (e := e) (X := ⟨fun _ _ => False, fun _ => False⟩) hs'
  rw [Ensures, ht] at hat
  rw [bind_of_val ht, undoIf_idle (hat.vars ▸ htold.1)]
  exact ⟨m, n, v, hrun, htold, hat⟩

omit htells in
/-- Before a run and after it. -/
theorem HcsrAt.hasLeft_iff {s' : ProbeSt HcsrVars} {d' : Option Bool} {n' : ℕ} {v' : HcsrVars}
    (hs : HcsrAt trig echo d n r v s) (hs' : HcsrAt trig echo d' n' (r.done e) v' s') :
    s.proc.HasLeft s'.proc ↔ SchedLeaves e.raise (e.restore s.restores) s.proc := by
  have hproc : s'.proc = (s.sched.done e).proc := congrArg SchedSt.proc (hs.sched ▸ hs'.sched)
  rw [hproc]
  exact s.sched.hasLeft_iff e

theorem hcsrReturns_iff_loopEnds (hs : HcsrAt trig echo d 0 r ⟨false, none⟩ s) :
    HcsrReturns e trig echo s ↔
      HcsrLoopEnds start x ∧ SchedLeaves e.raise (e.restore s.restores) s.proc := by
  constructor
  · rintro ⟨fuel, ret, s', hret, hleft, -⟩
    have hprobe := ensures_hcsrProbe htells hs fuel
    rw [Ensures, hret] at hprobe
    obtain ⟨m, n, v, hrun, -, hs'⟩ := hprobe
    exact ⟨⟨fuel, m, hrun⟩, (hs.hasLeft_iff hs').mp hleft⟩
  · rintro ⟨⟨fuel, m, hrun⟩, hleaves⟩
    have hprobe := ensures_hcsrProbe htells hs fuel
    rw [Ensures] at hprobe
    rcases hret : hcsrProbe e trig echo fuel s with ⟨ret | _ | _, s'⟩
    · rw [hret] at hprobe
      obtain ⟨m', n, v, -, ⟨-, hval⟩, hs'⟩ := hprobe
      refine ⟨fuel, ret, s', hret, (hs.hasLeft_iff hs').mpr hleaves, ?_⟩
      rw [hs'.vars]
      rcases hval with ⟨-, hnoResp, hnone⟩ | ⟨hne, hsuccess, hsome⟩
      · exact Or.inr ⟨hnoResp, hnone⟩
      · exact Or.inl ⟨hsuccess, m', hne, hsome⟩
    · rw [hret] at hprobe
      exact hprobe.elim
    · rw [hret] at hprobe
      exact absurd (hprobe.symm.trans hrun) (by simp)

omit htells in
/-- The start of a probe: TRIG and ECHO are in use, and ECHO is an input. -/
theorem hcsrAt_start {gpio : GpioSt} (hinv : PinInv gpio) (htrig : gpio.Ready trig)
    (hecho : gpio.Ready echo) (hin : gpio.drives echo = none) (proc : Process)
    (stack : SchedRt) (v : HcsrVars) :
    HcsrAt trig echo (gpio.drives trig) 0 ⟨proc, stack, 0⟩ v (ProbeSt.start gpio proc stack v) :=
  ⟨hinv, htrig, hecho, hin, rfl, rfl, rfl, rfl⟩

/-- Whatever the ticks do, the probe returns when the loop is broken or ECHO falls. -/
theorem hcsrReturns_iff_ends (hs : HcsrAt trig echo d 0 r ⟨false, none⟩ s) :
    HcsrReturns e trig echo s ↔
      HcsrEnds start x ∧ SchedLeaves e.raise (e.restore s.restores) s.proc :=
  (hcsrReturns_iff_loopEnds htells hs).trans (and_congr_left' hcsrLoopEnds_iff)

/-- While the ticks keep advancing, `hcsr_probe` returns out of its real-time section exactly if
ECHO falls again where it rises, and the section was not entered, or the system takes the nice value
of the process for its old priority. -/
theorem hcsrProbe_returns_iff (hadv : HcsrAdvances start x) {gpio : GpioSt} (hinv : PinInv gpio)
    (htrig : gpio.Ready trig) (hecho : gpio.Ready echo) (hin : gpio.drives echo = none)
    (proc : Process) (stack : SchedRt) :
    HcsrReturns e trig echo (ProbeSt.start gpio proc stack ⟨false, none⟩) ↔
      HcsrFalls start x ∧ SchedLeaves e.raise (e.restore 0) proc :=
  (hcsrReturns_iff_ends htells (hcsrAt_start hinv htrig hecho hin proc stack _)).trans
    (and_congr_left' (hcsrEnds_iff hadv))

end Program

/-! ### A sensor that does not let go -/

section Stuck

/-- All calls are granted, the counter counts the calls, and these are the levels of ECHO. -/
def hcsrEnvOf (level : ℕ → Bool) : ProbeEnv where
  sysDriver := false
  clk := ⟨some .io, true⟩
  call n := ⟨⟨true, true, true, true⟩, true, true, ⟨fun _ => UInt64.ofNat n, none⟩, true, 0⟩
  line hist _ := level ((hist.length - 4) / 3)
  raise := ⟨true, true, true⟩
  restore _ := true
  stack _ := 0

/-- The samples that are told. -/
def hcsrSamplesOf (level : ℕ → Bool) (k : ℕ) : HcsrSample :=
  (level k, stClo (UInt64.ofNat (3 * k + 5)))

/-- The registers after the initialization, with TRIG on GPIO 17 and ECHO on GPIO 27. -/
def hcsrGpioOf : GpioSt :=
  ⟨⟨some .io, true, fun _ => none⟩,
    ⟨fun off => if off = 4 then 0x200000 else 0, [], false⟩,
    ⟨fun _ => false, fun _ => 0, fun _ => false, fun _ => false⟩⟩

theorem hcsrTells_envOf (level : ℕ → Bool) (echo : ℕ) :
    HcsrTells (hcsrEnvOf level) echo 0 (hcsrSamplesOf level) where
  wr _ := rfl
  rd _ := rfl
  usleep _ := rfl
  start := rfl
  tick _ := rfl
  level k hist hlen := by
    rw [hcsrEnvOf, hcsrSamplesOf]
    dsimp only
    rw [hlen, Nat.add_sub_cancel, Nat.mul_div_cancel_left k (by decide)]

theorem hcsrAdvances_samplesOf (level : ℕ → Bool) : HcsrAdvances 0 (hcsrSamplesOf level) := by
  have hmono : Monotone fun k => 3 * k + min (2 * k) 2 := by
    intro k k' hk
    dsimp only
    omega
  have hread : ∀ k, 3 * (k + 1) + min (2 * (k + 1)) 2 = 3 * k + 5 := by
    intro k
    omega
  refine ⟨⟨_, hmono⟩, rfl, fun k => ?_, fun b => ⟨b, ?_⟩, fun k => ?_⟩
  · rw [hcsrSamplesOf, lowReadings]
    exact congrArg (fun n => stClo (UInt64.ofNat n)) (hread k).symm
  · show b ≤ 3 * b + min (2 * b) 2
    omega
  · show 3 * (k + 1) + min (2 * (k + 1)) 2 - (3 * k + min (2 * k) 2) < 2 ^ 32 - 1000
    omega

theorem hcsrAt_gpioOf (proc : Process) (stack : SchedRt) :
    HcsrAt 17 27 (some false) 0 ⟨proc, stack, 0⟩ ⟨false, none⟩
      (ProbeSt.start hcsrGpioOf proc stack ⟨false, none⟩) := by
  have hinv : PinInv hcsrGpioOf := ⟨fun _ => rfl, fun _ _ h => absurd h (by simp [hcsrGpioOf])⟩
  have htrig : hcsrGpioOf.drives 17 = some false := by decide
  exact htrig ▸ hcsrAt_start hinv ⟨by decide, Or.inl (Or.inl rfl)⟩ ⟨by decide, Or.inl (Or.inl rfl)⟩
    (by decide) proc stack _

/-- ECHO is stuck high: the ticks advance, and the probe does not return. -/
theorem hcsrProbe_stuck_high :
    let e := hcsrEnvOf fun _ => true
    let x := hcsrSamplesOf fun _ => true
    HcsrTells e 27 0 x ∧ HcsrAdvances 0 x ∧
      ¬ HcsrReturns e 17 27 (ProbeSt.start hcsrGpioOf
        ⟨0, 0, 0, le_rfl, validPriority_other⟩ ⟨-1, 0⟩ ⟨false, none⟩) := by
  intro e x
  have htells : HcsrTells e 27 0 x := hcsrTells_envOf _ 27
  have hadv : HcsrAdvances 0 x := hcsrAdvances_samplesOf _
  refine ⟨htells, hadv, ?_⟩
  rw [hcsrReturns_iff_ends htells (hcsrAt_gpioOf _ _), hcsrEnds_iff hadv]
  rintro ⟨hfalls, -⟩
  obtain ⟨j, -, hlow⟩ := hfalls 0 ⟨fun i hi => absurd hi (Nat.not_lt_zero i), rfl⟩
  exact Bool.noConfusion (show true = false from hlow)

/-- A sensor that answers with a pulse of one round. -/
theorem hcsrProbe_pulse :
    HcsrReturns (hcsrEnvOf fun k => k == 0) 17 27 (ProbeSt.start hcsrGpioOf
      ⟨0, 0, 0, le_rfl, validPriority_other⟩ ⟨-1, 0⟩ ⟨false, none⟩) := by
  have hfalls : HcsrFalls 0 (hcsrSamplesOf fun k => k == 0) := by
    rintro k ⟨-, hhigh⟩
    exact ⟨k + 1, Nat.lt_succ_self k, rfl⟩
  have hat := hcsrAt_gpioOf ⟨0, 0, 0, le_rfl, validPriority_other⟩ ⟨-1, 0⟩
  exact (hcsrProbe_returns_iff (hcsrTells_envOf _ 27) (hcsrAdvances_samplesOf _) hat.inv
    hat.readyTrig hat.readyEcho hat.released _ _).mpr ⟨hfalls, by decide⟩

end Stuck

end Librasp
