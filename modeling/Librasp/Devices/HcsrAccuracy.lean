import Librasp.Devices.HcsrLoop
import Librasp.Foundation.Sampling

/-!
# `hcsr04.c`: how well the distance is measured

The response loop counts its rounds while ECHO is high, and takes a round for `CM_PULSE_USEC`.
What it does besides sleeping makes the rounds longer, and the distance too short; too long it is
by one round at most.

* `HcsrPaced` is the loop in time: when ECHO is looked at, when the clock is asked, and when the
  pulse rises and falls. The times are those of the counter behind the ticks, in microseconds.
* `run_hcsrNext_pulse`: the count is the number of looks between the rise and the fall, and
  `HcsrPaced.counts` bounds it by the length of the pulse, with the rounds as samples of it.
* `HcsrPaced.breaks`: a pulse that comes too late is not waited for.

**Main result.** `hcsrProbe_measures`: the probe returns the distance within these bounds, or no
response, with TRIG low again and with the process out of the real-time section where that can be
left (`HcsrAnswers`).

The looks at ECHO are those of `Sampling`: their number tells the length of an interval up to one
look on each side, where two looks are a round apart.
-/

namespace Librasp

open Sampling

/-- The response loop in time. ECHO is looked at, the clock is asked, and the sleep takes
`CM_PULSE_USEC`, and `slack` more with all that is done in a round; ECHO is high from `rise` until
`fall`. -/
structure HcsrPaced (slack rise fall t₀ : ℕ) (look ask : ℕ → ℕ) (start : UInt32)
    (x : ℕ → HcsrSample) : Prop where
  start : start = stClo (UInt64.ofNat t₀)
  tick : ∀ k, (x k).2 = stClo (UInt64.ofNat (ask k))
  level : ∀ k, (x k).1 = decide (rise ≤ look k ∧ look k < fall)
  first : t₀ ≤ look 0
  asked : ∀ k, look k ≤ ask k
  slept : ∀ k, ask k + Hcsr.cmPulseUsec ≤ look (k + 1)
  round : ∀ k, look (k + 1) ≤ look k + (Hcsr.cmPulseUsec + slack)

/-- With rounds enough the probe returns, with TRIG low again, and with the process out of the
real-time section if the system lets it. -/
def HcsrAnswers (e : ProbeEnv) (trig echo : ℕ) (s : ProbeSt HcsrVars) (ret : LrErrc)
    (distCm : Option UInt32) : Prop :=
  ∃ fuel₀, ∀ fuel ≥ fuel₀, ∃ s', hcsrProbe e trig echo fuel s = (.val ret, s') ∧
    s'.vars.distCm = distCm ∧ s'.gpio.drives trig = some false ∧
    (s.proc.HasLeft s'.proc ↔ SchedLeaves e.raise (e.restore s.restores) s.proc)

/-! ### The count -/

section Count

variable {start : UInt32} {x : ℕ → HcsrSample} {k n : ℕ}

theorem run_hcsrNext_wait (hk : HcsrQuiet start x k) (fuel : ℕ) :
    Loop.run (hcsrNext start x) (k + fuel) ((0, 0), 0) =
      Loop.run (hcsrNext start x) fuel ((0, 0), k) := by
  induction k generalizing fuel with
  | zero => rw [Nat.zero_add]
  | succ k ih =>
    obtain ⟨hlow, hlt⟩ := hk k (Nat.lt_succ_self k)
    have hnext : hcsrNext start x ((0, 0), k) = .inl ((0, 0), k + 1) :=
      (hcsrNext_wait_low 0 hlow).trans (if_neg hlt)
    rw [show k + 1 + fuel = k + (fuel + 1) by omega,
      ih (fun i hi => hk i (Nat.lt_succ_of_lt hi)), Loop.run_succ_of_inl hnext]

/-- Samples at which ECHO is high are counted, one by one. The sum is that of `UInt32`, as it is
in the code. -/
theorem run_hcsrNext_count (hhigh : ∀ i < n, (x (k + i)).1 = true) (c : UInt32) (fuel : ℕ) :
    Loop.run (hcsrNext start x) (n + fuel) ((1, c), k) =
      Loop.run (hcsrNext start x) fuel ((1, c + UInt32.ofNat n), k + n) := by
  induction n generalizing fuel with
  | zero => simp
  | succ n ih =>
    have hnext : hcsrNext start x ((1, c + UInt32.ofNat n), k + n) =
        .inl ((1, c + UInt32.ofNat n + 1), k + n + 1) := by
      rw [hcsrNext_count, hhigh n (Nat.lt_succ_self n), if_pos rfl]
    have hadd : c + UInt32.ofNat n + 1 = c + UInt32.ofNat (n + 1) := by
      rw [UInt32.ofNat_add, UInt32.add_assoc]
      rfl
    rw [show n + 1 + fuel = n + (fuel + 1) by omega,
      ih fun i hi => hhigh i (Nat.lt_succ_of_lt hi), Loop.run_succ_of_inl hnext, hadd, add_assoc]

/-- **The count** is the number of samples between the rise and the fall. The loop waits up to the
first of them, and none of them is looked at for the time. -/
theorem run_hcsrNext_pulse (hk : HcsrQuiet start x k) (hhigh : ∀ i < n + 1, (x (k + i)).1 = true)
    (hlow : (x (k + (n + 1))).1 = false) :
    Loop.run (hcsrNext start x) (k + (n + 3)) ((0, 0), 0) = some (UInt32.ofNat (n + 1)) := by
  have hrise : hcsrNext start x ((0, 0), k) = .inl ((1, 1), k + 1) :=
    hcsrNext_wait_high 0 (hhigh 0 (Nat.succ_pos n))
  have hlevels : ∀ i < n, (x (k + 1 + i)).1 = true := by
    intro i hi
    rw [add_assoc, add_comm 1 i]
    exact hhigh (i + 1) (Nat.succ_lt_succ hi)
  have hcount : Loop.run (hcsrNext start x) (n + 2) ((1, 1), k + 1) =
      Loop.run (hcsrNext start x) 2 ((1, 1 + UInt32.ofNat n), k + 1 + n) :=
    run_hcsrNext_count hlevels 1 2
  have hfall : ∀ c, hcsrNext start x ((1, c), k + 1 + n) = .inl ((2, c), k + 1 + n + 1) := by
    intro c
    rw [hcsrNext_count, show k + 1 + n = k + (n + 1) by omega, hlow]
    rfl
  have hone : 1 + UInt32.ofNat n = UInt32.ofNat (n + 1) := by
    rw [UInt32.ofNat_add, UInt32.add_comm]
    rfl
  rw [run_hcsrNext_wait hk, Loop.run_succ_of_inl hrise, hcount, Loop.run_succ_of_inl (hfall _),
    Loop.run_succ_of_inr (hcsrNext_done _ _), hone]

theorem run_hcsrNext_timesOut (hk : HcsrTimesOut start x k) :
    Loop.run (hcsrNext start x) (k + 1) ((0, 0), 0) = some 0 := by
  obtain ⟨hquiet, hlow, hbreak⟩ := hk
  have hnext : hcsrNext start x ((0, 0), k) = .inr 0 :=
    (hcsrNext_wait_low 0 hlow).trans (if_pos hbreak)
  rw [run_hcsrNext_wait hquiet, Loop.run_succ_of_inr hnext]

end Count

/-! ### The samples of a pulse -/

section Pulse

variable {slack rise fall t₀ : ℕ} {look ask : ℕ → ℕ} {start : UInt32} {x : ℕ → HcsrSample}
  (h : HcsrPaced slack rise fall t₀ look ask start x)

include h

theorem HcsrPaced.paced : Paced Hcsr.cmPulseUsec (Hcsr.cmPulseUsec + slack) look where
  least k := (Nat.add_le_add_right (h.asked k) _).trans (h.slept k)
  most := h.round

theorem HcsrPaced.ask_le (k : ℕ) : ask k ≤ look k + slack := by
  have hslept := h.slept k
  have hround := h.round k
  omega

theorem HcsrPaced.start_le (k : ℕ) : t₀ ≤ ask k :=
  h.first.trans ((h.paced.monotone (Nat.zero_le k)).trans (h.asked k))

/-- The break threshold, as long as the ticks have not turned. -/
theorem HcsrPaced.break_iff {k : ℕ} (hk : ask k < t₀ + 2 ^ 32) :
    Hcsr.breakThrshd ≤ (x k).2 - start ↔ t₀ + 1000 ≤ ask k := by
  have hthr : Hcsr.breakThrshd.toNat = 1000 := rfl
  have hle := h.start_le k
  rw [UInt32.le_iff_toNat_le, hthr, h.tick, h.start, toNat_stClo_sub hle hk]
  omega

/-- Before the rise, and before the break threshold. -/
theorem HcsrPaced.quiet {k : ℕ} (hrise : ∀ i < k, look i < rise)
    (hearly : ∀ i < k, ask i < t₀ + 1000) : HcsrQuiet start x k := by
  intro i hi
  have hlt := hearly i hi
  refine ⟨?_, fun hbreak => ?_⟩
  · rw [h.level]
    exact decide_eq_false fun hin => absurd hin.1 (not_le.mpr (hrise i hi))
  · exact absurd ((h.break_iff (by omega)).mp hbreak) (not_le.mpr hlt)

/-- A pulse that comes in time, and is not too short to be seen, is counted: by `n` looks, of
which the length of the pulse is bounded by the rounds between them. -/
theorem HcsrPaced.counts (hfirst : look 0 ≤ rise) (htime : rise + slack ≤ t₀ + 1000)
    (hlong : rise + (Hcsr.cmPulseUsec + slack) ≤ fall) :
    ∃ fuel n, Loop.run (hcsrNext start x) fuel ((0, 0), 0) = some (UInt32.ofNat (n + 1)) ∧
      Hcsr.cmPulseUsec * n < fall - rise ∧
      fall - rise ≤ (Hcsr.cmPulseUsec + slack) * (n + 2) := by
  have hpaced := h.paced
  have hpos : 0 < Hcsr.cmPulseUsec := by decide
  obtain ⟨i, hi⟩ := exists_first (hpaced.reaches hpos) rise
  obtain ⟨j, hj⟩ := exists_first (hpaced.reaches hpos) fall
  have hij : i < j := hpaced.first_lt_first hi hj hfirst hlong (Nat.add_pos_left hpos _)
  obtain ⟨n, rfl⟩ : ∃ n, j = i + (n + 1) := ⟨j - i - 1, by omega⟩
  have hlevel : ∀ k, (x k).1 = decide (i ≤ k ∧ k < i + (n + 1)) := by
    intro k
    rw [h.level]
    exact decide_eq_decide.mpr (hi.mem_iff hpaced.monotone hj)
  have hquiet : HcsrQuiet start x i := h.quiet hi.before fun k hk => by
    have hask := h.ask_le k
    have hbefore := hi.before k hk
    omega
  refine ⟨_, n, run_hcsrNext_pulse hquiet (fun k hk => ?_) ?_, ?_, ?_⟩
  · rw [hlevel]
    exact decide_eq_true ⟨Nat.le_add_right i k, Nat.add_lt_add_left hk i⟩
  · rw [hlevel]
    exact decide_eq_false fun hin => absurd hin.2 (lt_irrefl _)
  · have hlow := hpaced.lt_of_first hi hj hij
    rw [show i + (n + 1) - i - 1 = n by omega] at hlow
    omega
  · have hhigh := hpaced.le_of_first hi hj hfirst hij
    rw [show i + (n + 1) - i + 1 = n + 2 by omega] at hhigh
    omega

/-- A pulse that comes too late is not waited for: the round with the first clock reading past the
threshold has looked at ECHO before the pulse rises, and the loop breaks there. -/
theorem HcsrPaced.breaks (hfirst : look 0 ≤ t₀ + 1000) (hslack : slack < 2 ^ 30)
    (hlate : t₀ + 1000 + (Hcsr.cmPulseUsec + slack) < rise) :
    ∃ fuel, Loop.run (hcsrNext start x) fuel ((0, 0), 0) = some 0 := by
  have hpaced := h.paced
  have hpulse : Hcsr.cmPulseUsec = 58 := rfl
  obtain ⟨k, hk⟩ := exists_first
    (fun t => (hpaced.reaches (by decide) t).imp fun k hk => hk.trans (h.asked k)) (t₀ + 1000)
  -- the clock is asked for the first time after the threshold, in the round after the last one
  have hlook : look k ≤ t₀ + 1000 + (Hcsr.cmPulseUsec + slack) := by
    rcases k with _ | k
    · omega
    · have hround := h.round k
      have hasked := h.asked k
      have hbefore := hk.before k (Nat.lt_succ_self k)
      omega
  have hask := h.ask_le k
  have hquiet : HcsrQuiet start x k := by
    refine h.quiet (fun i hi => ?_) hk.before
    have hmono := hpaced.monotone hi.le
    omega
  refine ⟨k + 1, run_hcsrNext_timesOut ⟨hquiet, ?_, (h.break_iff (by omega)).mpr hk.reached⟩⟩
  rw [h.level]
  exact decide_eq_false fun hin => absurd hin.1 (by omega)

end Pulse

/-! ### The probe -/

section Probe

open Prog

variable {e : ProbeEnv} {trig echo : ℕ} {b : Bool} {r : SchedSt} {start : UInt32}
  {x : ℕ → HcsrSample} {s : ProbeSt HcsrVars}

/-- The probe answers what its loop has counted: no response if it counted nothing, and the number
of the rounds with ECHO high otherwise. -/
theorem hcsrAnswers_of_run (htells : HcsrTells e echo start x)
    (hs : HcsrAt trig echo (some b) 0 r ⟨false, none⟩ s) {fuel₀ : ℕ} {m : UInt32}
    (hrun : Loop.run (hcsrNext start x) fuel₀ ((0, 0), 0) = some m) :
    HcsrAnswers e trig echo s (if m = 0 then .noResp else .success)
      (if m = 0 then none else some m) := by
  refine ⟨fuel₀, fun fuel hfuel => ?_⟩
  have hrun' := Loop.run_eq_some_of_le hrun hfuel
  have hprobe := ensures_hcsrProbe htells hs fuel
  rw [Ensures] at hprobe
  rcases hret : hcsrProbe e trig echo fuel s with ⟨ret | _ | _, s'⟩
  · rw [hret] at hprobe
    obtain ⟨m', n, v, hm', ⟨-, hval⟩, hs'⟩ := hprobe
    obtain rfl : m = m' := Option.some.inj (hrun'.symm.trans hm')
    rcases hval with ⟨h0, rfl, hdist⟩ | ⟨hne, rfl, hdist⟩
    · rw [if_pos h0, if_pos h0]
      exact ⟨s', rfl, hs'.vars ▸ hdist, hs'.drives, hs.hasLeft_iff hs'⟩
    · rw [if_neg hne, if_neg hne]
      exact ⟨s', rfl, hs'.vars ▸ hdist, hs'.drives, hs.hasLeft_iff hs'⟩
  · rw [hret] at hprobe
    exact hprobe.elim
  · rw [hret] at hprobe
    exact absurd (hprobe.symm.trans hrun') (by simp)

/-- The distance is the length of the pulse in rounds: one too many at most, as a round is not
shorter than `CM_PULSE_USEC`, and too few by one and by what the rounds take longer. A pulse that
comes too late is no response. Either way TRIG is low in the end, and the process is out of the
real-time section exactly if the system takes its nice value for the priority it had, or has not
let it in. -/
theorem hcsrProbe_measures {slack rise fall t₀ : ℕ} {look ask : ℕ → ℕ} {gpio : GpioSt}
    (htells : HcsrTells e echo start x)
    (hpaced : HcsrPaced slack rise fall t₀ look ask start x) (hinv : PinInv gpio)
    (htrig : gpio.Ready trig) (hecho : gpio.Ready echo) (hout : gpio.drives trig ≠ none)
    (hin : gpio.drives echo = none) (proc : Process) (stack : SchedRt) :
    (look 0 ≤ rise → rise + slack ≤ t₀ + 1000 → rise + (Hcsr.cmPulseUsec + slack) ≤ fall →
      fall - rise < 2 ^ 32 →
      ∃ n : UInt32, HcsrAnswers e trig echo (ProbeSt.start gpio proc stack ⟨false, none⟩)
          .success (some n) ∧
        Hcsr.cmPulseUsec * (n.toNat - 1) < fall - rise ∧
        fall - rise ≤ (Hcsr.cmPulseUsec + slack) * (n.toNat + 1)) ∧
    (look 0 ≤ t₀ + 1000 → t₀ + 1000 + (Hcsr.cmPulseUsec + slack) < rise → slack < 2 ^ 30 →
      HcsrAnswers e trig echo (ProbeSt.start gpio proc stack ⟨false, none⟩) .noResp none) := by
  obtain ⟨b, hb⟩ := Option.ne_none_iff_exists'.mp hout
  have hs := hcsrAt_start hinv htrig hecho hin proc stack ⟨false, none⟩
  rw [hb] at hs
  constructor
  · intro hfirst htime hlong hlen
    obtain ⟨fuel, n, hrun, hlow, hhigh⟩ := hpaced.counts hfirst htime hlong
    have hle : n ≤ Hcsr.cmPulseUsec * n := Nat.le_mul_of_pos_left n (by decide)
    have hn : (UInt32.ofNat (n + 1)).toNat = n + 1 := by
      rw [UInt32.toNat_ofNat', Nat.mod_eq_of_lt (by omega)]
    have hne : UInt32.ofNat (n + 1) ≠ 0 := by
      intro h0
      rw [h0] at hn
      exact absurd hn.symm (Nat.succ_ne_zero n)
    have hanswers := hcsrAnswers_of_run htells hs hrun
    rw [if_neg hne, if_neg hne] at hanswers
    refine ⟨_, hanswers, ?_, ?_⟩
    · rw [hn]
      exact hlow
    · rw [hn]
      exact hhigh
  · intro hfirst hlate hslack
    obtain ⟨fuel, hrun⟩ := hpaced.breaks hfirst hslack hlate
    have hanswers := hcsrAnswers_of_run htells hs hrun
    rw [if_pos rfl, if_pos rfl] at hanswers
    exact hanswers

end Probe

/-! ### A pulse of 900 microseconds -/

section Pulse900

/-- Every call takes 30 ticks, sleeping included, and ECHO is high from the tick 500 on. -/
def hcsrPulseEnv : ProbeEnv :=
  { hcsrEnvOf (fun k => decide (500 ≤ 90 * k + 120 ∧ 90 * k + 120 < 1400)) with
    call := fun n => ⟨⟨true, true, true, true⟩, true, true,
      ⟨fun _ => UInt64.ofNat (30 * n), none⟩, true, 0⟩ }

/-- The samples that are told. -/
def hcsrPulseSamples (k : ℕ) : HcsrSample :=
  (decide (500 ≤ 90 * k + 120 ∧ 90 * k + 120 < 1400), stClo (UInt64.ofNat (30 * (3 * k + 5))))

theorem hcsrTells_pulseEnv : HcsrTells hcsrPulseEnv 27 0 hcsrPulseSamples where
  wr _ := rfl
  rd _ := rfl
  usleep _ := rfl
  start := rfl
  tick _ := rfl
  level k hist hlen := (hcsrTells_envOf
    (fun k => decide (500 ≤ 90 * k + 120 ∧ 90 * k + 120 < 1400)) 27).level k hist hlen

theorem hcsrPaced_pulseSamples : HcsrPaced 32 500 1400 0 (fun k => 90 * k + 120)
    (fun k => 30 * (3 * k + 5)) 0 hcsrPulseSamples where
  start := rfl
  tick _ := rfl
  level _ := rfl
  first := Nat.zero_le _
  asked k := by omega
  slept k := by
    show 30 * (3 * k + 5) + 58 ≤ 90 * (k + 1) + 120
    omega
  round k := by
    show 90 * (k + 1) + 120 ≤ 90 * k + 120 + (58 + 32)
    omega

theorem hcsrProbe_measures_pulse :
    ∃ n : UInt32, HcsrAnswers hcsrPulseEnv 17 27 (ProbeSt.start hcsrGpioOf
        ⟨0, 0, 0, le_rfl, validPriority_other⟩ ⟨-1, 0⟩ ⟨false, none⟩) .success (some n) ∧
      58 * (n.toNat - 1) < 900 ∧ 900 ≤ 90 * (n.toNat + 1) := by
  have hat := hcsrAt_gpioOf ⟨0, 0, 0, le_rfl, validPriority_other⟩ ⟨-1, 0⟩
  have hmeasures := hcsrProbe_measures hcsrTells_pulseEnv hcsrPaced_pulseSamples hat.inv
    hat.readyTrig hat.readyEcho (by decide) hat.released ⟨0, 0, 0, le_rfl, validPriority_other⟩
    ⟨-1, 0⟩
  exact hmeasures.1 (by decide) (by decide) (by decide) (by decide)

end Pulse900

end Librasp
