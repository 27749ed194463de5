import Librasp.Clock
import Librasp.Foundation.Loop
import Librasp.Foundation.Wrapping

/-!
# `clock.c`: the counter while it counts

The I/O driver reads a counter that does not wait for it. `clock_get_ticks64` puts the two words
of the counter together from three or four reads: the high word is read on both sides of the low
one, and the low one once more if the high ones differ. What it returns is the counter at one of
the reads (`bcmTicks64_mem`), so that its calls never go back in time.

`bcm_usleep` adds up the differences of the low word. Its time is the accumulated time of
`Wrapping`, and its ticks are `time` past the first of them, which is what keeps its two measures
of the time that remains in step (`SleepSt.Inv`).

* `StcRun` is a trajectory of the counter: a monotone function of the time, of any type, that does
  not wrap. A call (`TicksCall`) has the times of its four reads, in order.
* `SleepSt` is the state of `bcm_usleep` before a round, with all the calls of `usleep` it has
  made. What a call of `usleep` does is not known but for the counter, which is read after it.

**Main results.** `clockGetTicks64_monotone`: a call returns a value the counter had while it was
reading, and a call made after it returns no less. `bcmUsleep_atLeast`: whatever the readings, a
sleep that ends is at least as long as it was asked for, and no call of `usleep` on the way is
longer than half of what remains.
-/

namespace Librasp

/-! ### Reading both words -/

section Ticks64

variable {T : Type*} [Preorder T]

/-- The counter over time. It does not wrap. -/
structure StcRun (T : Type*) [Preorder T] where
  count : T → UInt64
  mono : Monotone fun t => (count t).toNat

/-- A call of `clock_get_ticks64`: when it makes its register reads. -/
structure TicksCall (T : Type*) [Preorder T] where
  read : ℕ → T
  ordered : Monotone read

namespace TicksCall

variable (c : StcRun T) (call : TicksCall T)

/-- The counter at the reads of a call. -/
def counts (i : ℕ) : UInt64 := c.count (call.read i)

/-- What a call meets, with what `clock_gettime` would tell it. -/
def env (gettime : Option Timespec) : ClockEnv := ⟨call.counts c, gettime⟩

/-- The last read that a call makes. -/
def lastRead : ℕ := if stChi (call.counts c 0) < stChi (call.counts c 2) then 3 else 2

/-- The low word rolls over at most once during a call. -/
def RollsOnce : Prop :=
  (stChi (call.counts c (call.lastRead c))).toNat ≤ (stChi (call.counts c 0)).toNat + 1

end TicksCall

variable {c : StcRun T} {call : TicksCall T}

theorem TicksCall.monotone_counts (c : StcRun T) (call : TicksCall T) :
    Monotone fun i => (call.counts c i).toNat :=
  fun _ _ hij => c.mono (call.ordered hij)

theorem stChi_lt_iff {s s' : UInt64} :
    stChi s < stChi s' ↔ s.toNat / 2 ^ 32 < s'.toNat / 2 ^ 32 := by
  rw [UInt32.lt_iff_toNat_lt, toNat_stChi, toNat_stChi]

theorem toNat_ofWords_words (s s' : UInt64) :
    (ofWords (stChi s) (stClo s')).toNat = Wrapping.join (2 ^ 32) s.toNat s'.toNat := by
  rw [toNat_ofWords, toNat_stChi, toNat_stClo, Wrapping.join]

theorem toNat_bcmTicks64 (stc : ℕ → UInt64) :
    (bcmTicks64 stc).toNat = Wrapping.splitRead (2 ^ 32) fun i => (stc i).toNat := by
  rw [bcmTicks64, Wrapping.splitRead]
  simp only [stChi_lt_iff]
  split_ifs
  · exact toNat_ofWords_words _ _
  · exact toNat_ofWords_words _ _

theorem TicksCall.lastRead_eq (c : StcRun T) (call : TicksCall T) :
    call.lastRead c = Wrapping.lastRead (2 ^ 32) fun i => (call.counts c i).toNat := by
  rw [lastRead, Wrapping.lastRead]
  simp only [stChi_lt_iff]

/-- The result of a call lies between the counter at its first read and at its last. It is the
rule `Wrapping.splitRead_mem` for words of 32 bits. -/
theorem bcmTicks64_mem (hroll : call.RollsOnce c) :
    (call.counts c 0).toNat ≤ (bcmTicks64 (call.counts c)).toNat ∧
      (bcmTicks64 (call.counts c)).toNat ≤ (call.counts c (call.lastRead c)).toNat := by
  rw [TicksCall.RollsOnce, toNat_stChi, toNat_stChi, TicksCall.lastRead_eq] at hroll
  rw [toNat_bcmTicks64, TicksCall.lastRead_eq]
  exact Wrapping.splitRead_mem (call.monotone_counts c) hroll

theorem clockGetTicks64_io {sysDriver : Bool} {h : ClockHndl} (hio : h.drv = some .io)
    (e : ClockEnv) : clockGetTicks64 sysDriver h e = (.success, some (bcmTicks64 e.stc)) :=
  if_pos hio

/-- A call returns a value that the counter had while it was reading it, and a call made after it
returns no less.

The counter may count on between the reads, and turn its low word once: that is seen by the
second read of the high word. -/
theorem clockGetTicks64_monotone (sysDriver : Bool) {h : ClockHndl} (hio : h.drv = some .io)
    (c : StcRun T) :
    (∀ (call : TicksCall T) (gettime : Option Timespec), call.RollsOnce c →
      ∃ t, clockGetTicks64 sysDriver h (call.env c gettime) = (.success, some t) ∧
        call.counts c 0 ≤ t ∧ t ≤ call.counts c (call.lastRead c)) ∧
    ∀ (call call' : TicksCall T) (gettime gettime' : Option Timespec) (t t' : UInt64),
      call.RollsOnce c → call'.RollsOnce c → call.read (call.lastRead c) ≤ call'.read 0 →
      clockGetTicks64 sysDriver h (call.env c gettime) = (.success, some t) →
      clockGetTicks64 sysDriver h (call'.env c gettime') = (.success, some t') → t ≤ t' := by
  constructor
  · intro call gettime hroll
    obtain ⟨hlo, hhi⟩ := bcmTicks64_mem hroll
    exact ⟨_, clockGetTicks64_io hio _, hlo, hhi⟩
  · intro call call' gettime gettime' t t' hroll hroll' hafter ht ht'
    rw [clockGetTicks64_io hio] at ht ht'
    have hval : bcmTicks64 (call.counts c) = t := Option.some.inj (congrArg Prod.snd ht)
    have hval' : bcmTicks64 (call'.counts c) = t' := Option.some.inj (congrArg Prod.snd ht')
    rw [← hval, ← hval', UInt64.le_iff_toNat_le]
    calc (bcmTicks64 (call.counts c)).toNat
        ≤ (call.counts c (call.lastRead c)).toNat := (bcmTicks64_mem hroll).2
      _ ≤ (call'.counts c 0).toNat := c.mono hafter
      _ ≤ (bcmTicks64 (call'.counts c)).toNat := (bcmTicks64_mem hroll').1

/-- A roll-over between the first two reads of the words is seen by the third. -/
theorem clockGetTicks64_rolling :
    let c : StcRun ℕ := ⟨fun t => UInt64.ofNat (min t 9 + 4294967294), fun s t hst => by
      simp only [UInt64.toNat_ofNat']
      omega⟩
    let call : TicksCall ℕ := ⟨id, monotone_id⟩
    ∃ t, clockGetTicks64 true ⟨some .io, true⟩ (call.env c none) = (.success, some t) ∧
      call.counts c 0 ≤ t ∧ t ≤ call.counts c (call.lastRead c) := by
  intro c call
  have hroll : call.RollsOnce c := by
    rw [TicksCall.RollsOnce]
    decide
  exact (clockGetTicks64_monotone true rfl c).1 call none hroll

end Ticks64

/-! ### Sleeping by the counter -/

/-- The variables of `bcm_usleep`, and how often it has read the counter after the first time. -/
structure SleepVars where
  ticks : UInt32
  time : UInt32
  reads : ℕ
  deriving DecidableEq, Repr

/-- A call of `usleep`, and the variables it is made with. -/
structure SleepCall where
  vars : SleepVars
  asked : UInt32
  deriving DecidableEq, Repr

/-- `bcm_usleep` while it runs: its calls of `usleep` so far, and its variables. -/
structure SleepSt where
  calls : List SleepCall
  vars : SleepVars
  deriving DecidableEq, Repr

section Usleep

variable (clo : ℕ → UInt32) (usec thrshd : UInt32)

/-- `stop`, the tick to sleep to; `clo k` is what the `k`-th reading of `ST_CLO` tells. -/
def usleepStop : UInt32 := clo 0 + usec

/-- The call of `usleep` in a round, if there is one. -/
def usleepCall (v : SleepVars) : Option SleepCall :=
  -- don't waste CPU time for long sleeps
  if thrshd ≤ usleepStop clo usec - v.ticks then some ⟨v, (usec - v.time) >>> 1⟩ else none

/-- What a round makes of its variables. The counter is read after the call of `usleep`. -/
def usleepNext (v : SleepVars) : SleepVars :=
  let delta := clo (v.reads + 1) - v.ticks
  if delta ≠ 0 then
    ⟨v.ticks + delta, if v.time + delta < v.time then 0xFFFFFFFF else v.time + delta, v.reads + 1⟩
  else { v with reads := v.reads + 1 }

/-- A round of the loop. -/
def usleepRound (s : SleepSt) : SleepSt ⊕ SleepSt :=
  if s.vars.time < usec then
    .inl ⟨s.calls ++ (usleepCall clo usec thrshd s.vars).toList, usleepNext clo s.vars⟩
  else .inr s

/-- The variables before the loop. -/
def usleepStart : SleepSt := ⟨[], ⟨clo 0, 0, 0⟩⟩

/-- `bcm_usleep`, within some rounds of its loop. -/
def bcmUsleep (fuel : ℕ) : Option SleepSt :=
  Loop.run (usleepRound clo usec thrshd) fuel (usleepStart clo)

end Usleep

/-- What `ST_CLO` tells at each reading, of a counter whose ticks are not bounded. -/
def lowReadings (n : ℕ →o ℕ) (k : ℕ) : UInt32 := stClo (UInt64.ofNat (n k))

/-- The ticks that have gone by since the first reading. -/
def elapsed (n : ℕ →o ℕ) (v : SleepVars) : ℕ := n v.reads - n 0

/-- A call of `usleep` is for half of the time that remains, which is not below the threshold, and
does not go past the deadline. -/
structure SleepCall.Fits (n : ℕ →o ℕ) (usec thrshd : UInt32) (c : SleepCall) : Prop where
  threshold : thrshd ≤ usec - c.vars.time
  half : c.asked.toNat = (usec.toNat - c.vars.time.toNat) / 2
  before : c.vars.time.toNat + c.asked.toNat ≤ usec.toNat
  /-- The deadline itself, unless a turn of the low word has been hidden. -/
  deadline : Wrapping.Unhidden (2 ^ 32) n c.vars.reads →
    elapsed n c.vars + c.asked.toNat ≤ usec.toNat

/-- What holds of `bcm_usleep` before each of its rounds. -/
structure SleepSt.Ok (n : ℕ →o ℕ) (usec thrshd : UInt32) (s : SleepSt) : Prop where
  behind : s.vars.time.toNat ≤ elapsed n s.vars
  inStep : s.vars.time < usec →
    usleepStop (lowReadings n) usec - s.vars.ticks = usec - s.vars.time
  calls : ∀ c ∈ s.calls, c.Fits n usec thrshd

section Proofs

variable {n : ℕ →o ℕ} {usec thrshd : UInt32} {v : SleepVars} {s : SleepSt}

theorem toNat_lowReadings (n : ℕ →o ℕ) (k : ℕ) : (lowReadings n k).toNat = n k % 2 ^ 32 := by
  rw [lowReadings, toNat_stClo, UInt64.toNat_ofNat']
  exact Nat.mod_mod_of_dvd (n k) (by norm_num)

/-- The variables are the last reading, and the accumulated time. -/
structure SleepVars.Inv (n : ℕ →o ℕ) (v : SleepVars) : Prop where
  ticks : v.ticks = lowReadings n v.reads
  time : v.time.toNat = Wrapping.accum (2 ^ 32) n v.reads

theorem toNat_delta (n : ℕ →o ℕ) (k : ℕ) :
    (lowReadings n (k + 1) - lowReadings n k).toNat = (n (k + 1) - n k) % 2 ^ 32 := by
  have hstep : n k ≤ n (k + 1) := n.monotone (Nat.le_succ k)
  rw [UInt32.toNat_sub, toNat_lowReadings, toNat_lowReadings]
  omega

/-- The saturating addition. -/
theorem toNat_saturate (t d : UInt32) :
    (if t + d < t then 0xFFFFFFFF else t + d).toNat = min (2 ^ 32 - 1) (t.toNat + d.toNat) := by
  have ht := t.toNat_lt
  have hd := d.toNat_lt
  have hlt : t + d < t ↔ 2 ^ 32 ≤ t.toNat + d.toNat := by
    rw [UInt32.lt_iff_toNat_lt, UInt32.toNat_add]
    omega
  have hmax : (0xFFFFFFFF : UInt32).toNat = 2 ^ 32 - 1 := rfl
  split_ifs with hwrap
  · rw [hlt] at hwrap
    rw [hmax]
    omega
  · rw [hlt] at hwrap
    rw [UInt32.toNat_add]
    omega

theorem SleepVars.Inv.next (hv : v.Inv n) : (usleepNext (lowReadings n) v).Inv n := by
  have hdelta := toNat_delta n v.reads
  have hpred := Wrapping.accum_le_pred (2 ^ 32) n v.reads
  rw [usleepNext, hv.ticks]
  by_cases hmoved : lowReadings n (v.reads + 1) - lowReadings n v.reads = 0
  · -- the counter has not moved, as far as the register shows
    rw [if_neg (not_not.mpr hmoved)]
    rw [hmoved, UInt32.toNat_zero] at hdelta
    have htime : Wrapping.accum (2 ^ 32) n (v.reads + 1) = v.time.toNat := by
      rw [Wrapping.accum, ← hdelta, Nat.add_zero, min_eq_right hpred, hv.time]
    have hsame : lowReadings n (v.reads + 1) = lowReadings n v.reads := by
      rw [UInt32.sub_eq_iff_eq_add.mp hmoved, UInt32.zero_add]
    exact ⟨hsame.symm, htime.symm⟩
  · rw [if_pos hmoved]
    have htime := toNat_saturate v.time (lowReadings n (v.reads + 1) - lowReadings n v.reads)
    rw [hv.time, hdelta] at htime
    have hticks : lowReadings n v.reads + (lowReadings n (v.reads + 1) - lowReadings n v.reads) =
        lowReadings n (v.reads + 1) := by
      rw [UInt32.add_comm, UInt32.sub_add_cancel]
    exact ⟨hticks, htime⟩

theorem SleepVars.Inv.time_le (hv : v.Inv n) : v.time.toNat ≤ elapsed n v := by
  rw [hv.time]
  exact Wrapping.accum_le n.monotone v.reads

/-- Before the end of the loop the ticks are `time` past the first of them. -/
theorem SleepVars.Inv.ticks_eq (hv : v.Inv n) (hlt : v.time < usec) :
    v.ticks = lowReadings n 0 + v.time := by
  have husec := usec.toNat_lt
  have hstart := n.monotone (Nat.zero_le v.reads)
  rw [UInt32.lt_iff_toNat_lt, hv.time] at hlt
  have hmod := Wrapping.accum_modEq n.monotone (lt_of_lt_of_le hlt (Nat.le_sub_one_of_lt husec))
  rw [Nat.ModEq] at hmod
  rw [hv.ticks, ← UInt32.toNat_inj, UInt32.toNat_add, toNat_lowReadings, toNat_lowReadings,
    hv.time]
  omega

/-- The two measures of the time that remains are in step. -/
theorem SleepVars.Inv.stop_sub (hv : v.Inv n) (hlt : v.time < usec) :
    usleepStop (lowReadings n) usec - v.ticks = usec - v.time := by
  rw [usleepStop, hv.ticks_eq hlt, UInt32.sub_eq_iff_eq_add, UInt32.add_comm _ v.time,
    ← UInt32.add_assoc, UInt32.sub_add_cancel, UInt32.add_comm]

theorem SleepVars.Inv.fits (hv : v.Inv n) (hlt : v.time < usec) {c : SleepCall}
    (hc : c ∈ usleepCall (lowReadings n) usec thrshd v) : c.Fits n usec thrshd := by
  rw [usleepCall, hv.stop_sub hlt] at hc
  split_ifs at hc with hthr
  · obtain rfl := Option.some.inj hc
    have hle := UInt32.lt_iff_toNat_lt.mp hlt
    have husec := usec.toNat_lt
    have hhalf : ((usec - v.time) >>> 1).toNat = (usec.toNat - v.time.toNat) / 2 := by
      rw [UInt32.toNat_shiftRight, UInt32.toNat_sub_of_le _ _ hle.le]
      exact Nat.shiftRight_one _
    have hbefore : v.time.toNat + (usec.toNat - v.time.toNat) / 2 ≤ usec.toNat := by omega
    refine ⟨hthr, hhalf, (congrArg (v.time.toNat + ·) hhalf).trans_le hbefore, fun hhid => ?_⟩
    have hexact : v.time.toNat = min (2 ^ 32 - 1) (elapsed n v) :=
      hv.time.trans (Wrapping.accum_eq n.monotone hhid)
    have helapsed : elapsed n v = v.time.toNat := by omega
    rw [helapsed]
    exact (congrArg (v.time.toNat + ·) hhalf).trans_le hbefore
  · exact absurd hc (by simp)

/-- What holds before each round. -/
structure SleepSt.Inv (n : ℕ →o ℕ) (usec thrshd : UInt32) (s : SleepSt) : Prop where
  vars : s.vars.Inv n
  calls : ∀ c ∈ s.calls, c.Fits n usec thrshd

theorem usleepStart_inv (n : ℕ →o ℕ) (usec thrshd : UInt32) :
    (usleepStart (lowReadings n)).Inv n usec thrshd :=
  ⟨⟨rfl, rfl⟩, fun _ hc => absurd hc List.not_mem_nil⟩

/-- A round that stays in the loop keeps the invariant: its call of `usleep`, if it makes one, is
for half of the time that remains. -/
theorem SleepSt.Inv.round (hs : s.Inv n usec thrshd) {s' : SleepSt}
    (h : usleepRound (lowReadings n) usec thrshd s = .inl s') : s'.Inv n usec thrshd := by
  rw [usleepRound] at h
  split_ifs at h with hlt
  obtain rfl := Sum.inl.inj h
  refine ⟨hs.vars.next, fun c hc => ?_⟩
  rcases List.mem_append.mp hc with hold | hnew
  · exact hs.calls c hold
  · exact hs.vars.fits hlt (Option.mem_toList.mp hnew)

theorem SleepSt.Inv.of_reached
    (h : Loop.Reached (usleepRound (lowReadings n) usec thrshd) (usleepStart (lowReadings n)) s) :
    s.Inv n usec thrshd :=
  h.invariant (fun _ _ ht hstay => ht.round hstay) (usleepStart_inv n usec thrshd)

/-- `bcm_usleep` sleeps at least as long as it is asked to, however it is preempted and however
often the register turns; before each round its time is behind the time elapsed, its two measures
of the time that remains agree, and every call of `usleep` has been within it. -/
theorem bcmUsleep_atLeast (n : ℕ →o ℕ) (usec thrshd : UInt32) :
    (∀ fuel s, bcmUsleep (lowReadings n) usec thrshd fuel = some s →
      usec.toNat ≤ elapsed n s.vars ∧ s.Ok n usec thrshd) ∧
    ∀ s, Loop.Reached (usleepRound (lowReadings n) usec thrshd) (usleepStart (lowReadings n)) s →
      s.Ok n usec thrshd := by
  have hok : ∀ s, Loop.Reached (usleepRound (lowReadings n) usec thrshd)
      (usleepStart (lowReadings n)) s → s.Ok n usec thrshd := by
    intro s hs
    have hinv := SleepSt.Inv.of_reached hs
    exact ⟨hinv.vars.time_le, hinv.vars.stop_sub, hinv.calls⟩
  refine ⟨fun fuel s h => ?_, hok⟩
  obtain ⟨s', hs', hleave⟩ := Loop.exists_reached_of_run h
  rw [usleepRound] at hleave
  split_ifs at hleave with hlt
  obtain rfl := Sum.inr.inj hleave
  have hdone : usec.toNat ≤ s'.vars.time.toNat := UInt32.le_iff_toNat_le.mp (UInt32.not_lt.mp hlt)
  exact ⟨hdone.trans (hok s' hs').behind, hok s' hs'⟩

/-- On a counter that counts on, and is not kept from it for a whole turn, it does return. -/
theorem bcmUsleep_returns (hhid : ∀ k, Wrapping.Unhidden (2 ^ 32) n k) (hinf : ∀ b, ∃ k, b ≤ n k)
    (usec thrshd : UInt32) : ∃ fuel s, bcmUsleep (lowReadings n) usec thrshd fuel = some s := by
  obtain ⟨K, hK⟩ := hinf (n 0 + usec.toNat)
  have hround : ∀ s s', s.Inv n usec thrshd →
      usleepRound (lowReadings n) usec thrshd s = .inl s' →
      s'.Inv n usec thrshd ∧ True ∧ K - s'.vars.reads < K - s.vars.reads := by
    intro s s' hs hstay
    refine ⟨hs.round hstay, trivial, ?_⟩
    have hexact : s.vars.time.toNat = min (2 ^ 32 - 1) (elapsed n s.vars) :=
      hs.vars.time.trans (Wrapping.accum_eq n.monotone (hhid s.vars.reads))
    have husec := usec.toNat_lt
    rw [usleepRound] at hstay
    split_ifs at hstay with hlt
    obtain rfl := Sum.inl.inj hstay
    have hreads : (usleepNext (lowReadings n) s.vars).reads = s.vars.reads + 1 := by
      rw [usleepNext]
      split_ifs <;> rfl
    -- the time would be over at the reading `K`
    have hK' : s.vars.reads < K := by
      by_contra hge
      have hmono := n.monotone (Nat.not_lt.mp hge)
      rw [UInt32.lt_iff_toNat_lt] at hlt
      rw [elapsed] at hexact
      omega
    rw [hreads]
    omega
  exact (Loop.ends_of_invariant (fun s => K - s.vars.reads) hround
    (usleepStart_inv n usec thrshd)).leaves

end Proofs

end Librasp
