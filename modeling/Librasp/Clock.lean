import Librasp.Common

/-!
# `clock.c`: the system clock

The I/O driver reads the free-running 64-bit counter of the BCM system timer, a 32-bit register at
a time. The SYS driver asks `clock_gettime`, if the library is configured for it. Both are behind
`clock_get_ticks32` and `clock_get_ticks64`, and the header has the first as the low half of the
second.

* The handle is `ClockHndl`; `ClockHndl.Usable` is what `clock_init`, `clock_set_driver` and
  `clock_free` keep, so that an active driver always has its timer mapped.
* `ClockEnv` is what a call meets: the counter at each of its register reads, and the time the
  system tells.

**Main results.** `Ticks32Follow` says that the two widths are one clock at an instant, and
`Ticks32Elapse` that 32-bit ticks tell times between two instants. `ticks32_follow_iff` has the
exact condition: the I/O driver always, the SYS driver only in a second that is a multiple of `2 ^
23`, as its 32-bit ticks are the nanoseconds of the current second and start over with every
second (`ticks32_sys_one_second_fails`).

How the words of the moving counter are put together is the subject of `Ticks`.
-/

namespace Librasp

/-! ### The handle -/

/-- `clock_driver_t`. -/
inductive ClockDriver
  | io
  | sys
  deriving DecidableEq, Repr

/-- `clock_hndl_t`. -/
structure ClockHndl where
  /-- The active driver, `none` for -1. -/
  drv : Option ClockDriver
  /-- Whether `io.p_stc_io` is a mapping. -/
  stcIo : Bool
  deriving DecidableEq, Repr

/-- What `clock_set_driver` meets: the platform, and whether its timer can be mapped. -/
structure StcEnv where
  platform : Bool
  mmap : Bool

/-- `clock_set_driver`; `sysDriver` is `CONFIG_CLOCK_SYS_DRIVER`. -/
def clockSetDriver (sysDriver : Bool) (e : StcEnv) (h : ClockHndl) :
    ClockDriver → LrErrc × ClockHndl
  | .io =>
    if h.stcIo then (.success, { h with drv := some .io })
    else if !e.platform then (.platErr, h)
    else if !e.mmap then (.mmapErr, h)
    else (.success, ⟨some .io, true⟩)
  | .sys => if sysDriver then (.success, { h with drv := some .sys }) else (.notSupp, h)

/-- `clock_init`. -/
def clockInit (sysDriver : Bool) (e : StcEnv) (drv : ClockDriver) : LrErrc × ClockHndl :=
  clockSetDriver sysDriver e ⟨none, false⟩ drv

/-- `clock_free`. -/
def clockFree (h : ClockHndl) : ClockHndl := if h.drv.isSome then ⟨none, false⟩ else h

/-- A handle whose active driver has what it needs. -/
def ClockHndl.Usable (sysDriver : Bool) (h : ClockHndl) : Prop :=
  (h.drv = some .io → h.stcIo = true) ∧ (h.drv = some .sys → sysDriver = true)

theorem clockSetDriver_usable {sysDriver : Bool} {h : ClockHndl} (hh : h.Usable sysDriver)
    (e : StcEnv) (drv : ClockDriver) : (clockSetDriver sysDriver e h drv).2.Usable sysDriver := by
  rcases drv with _ | _
  · rw [clockSetDriver]
    split_ifs with hstc hplat hmap
    · exact ⟨fun _ => hstc, fun hdrv => absurd hdrv (by simp)⟩
    · exact hh
    · exact hh
    · exact ⟨fun _ => rfl, fun hdrv => absurd hdrv (by simp)⟩
  · rw [clockSetDriver]
    split_ifs with hsys
    · exact ⟨fun hdrv => absurd hdrv (by simp), fun _ => hsys⟩
    · exact hh

theorem clockFree_usable {sysDriver : Bool} {h : ClockHndl} (hh : h.Usable sysDriver) :
    (clockFree h).Usable sysDriver := by
  rw [clockFree]
  split_ifs
  · exact ⟨nofun, nofun⟩
  · exact hh

/-! ### The ticks -/

/-- `struct timespec`, as `clock_gettime` fills it. -/
structure Timespec where
  sec : ℕ
  nsec : ℕ
  sec_lt : sec < 2 ^ 63
  nsec_lt : nsec < 10 ^ 9

/-- What a call meets: the counter of the system timer at each of its register reads, and what
`clock_gettime` tells, `none` for its failure. -/
structure ClockEnv where
  stc : ℕ → UInt64
  gettime : Option Timespec

/-- `ST_CLO`. -/
def stClo (stc : UInt64) : UInt32 := stc.toUInt32

/-- `ST_CHI`. -/
def stChi (stc : UInt64) : UInt32 := (stc >>> 32).toUInt32

/-- The SYS driver's part of reading the ticks, by the conversion `f` of the time. -/
def sysTicks {α : Type} (sysDriver : Bool) (f : Timespec → α) (e : ClockEnv) : LrErrc × Option α :=
  if sysDriver then
    match e.gettime with
    | some tp => (.success, some (f tp))
    | none => (.clkErr, none)
  else (.notSupp, none)

/-- `clock_get_ticks32`: the result, and the value written to `*p_ticks`, if any. -/
def clockGetTicks32 (sysDriver : Bool) (h : ClockHndl) (e : ClockEnv) : LrErrc × Option UInt32 :=
  if h.drv = some .io then (.success, some (stClo (e.stc 0)))
  else sysTicks sysDriver (fun tp => UInt32.ofNat tp.nsec) e

/-- `((uint64_t)chi<<32)|clo`. -/
def ofWords (chi clo : UInt32) : UInt64 := chi.toUInt64 <<< 32 ||| clo.toUInt64

/-- What the I/O driver of `clock_get_ticks64` makes of its three or four register reads. -/
def bcmTicks64 (stc : ℕ → UInt64) : UInt64 :=
  let chi := stChi (stc 0)
  let clo := stClo (stc 1)
  let chi2 := stChi (stc 2)
  -- the low word rolled over: it is read once more
  if chi < chi2 then ofWords chi2 (stClo (stc 3)) else ofWords chi clo

/-- `clock_get_ticks64`. -/
def clockGetTicks64 (sysDriver : Bool) (h : ClockHndl) (e : ClockEnv) : LrErrc × Option UInt64 :=
  if h.drv = some .io then (.success, some (bcmTicks64 e.stc))
  else sysTicks sysDriver
    (fun tp => UInt64.ofNat tp.sec * 1000000000 + UInt64.ofNat tp.nsec) e

/-- `clock_usleep`; `ok` is the outcome of its `usleep`. How long it takes is up to the clock. -/
def clockUsleep (sysDriver : Bool) (h : ClockHndl) (ok : Bool) : LrErrc :=
  if h.drv = some .io then .success
  else if sysDriver then if ok then .success else .clkErr
  else .notSupp

/-! ### One clock -/

/-- An instant: the counter does not move, and the time is asked once. -/
structure Instant where
  stc : UInt64
  gettime : Option Timespec

/-- What a call at an instant meets. -/
def Instant.env (i : Instant) : ClockEnv := ⟨fun _ => i.stc, i.gettime⟩

section OneClock

variable (sysDriver : Bool) (h : ClockHndl)

/-- At an instant the 32-bit ticks are the 64-bit ticks modulo `2 ^ 32`. -/
def Ticks32Follow (i : Instant) : Prop :=
  (clockGetTicks32 sysDriver h i.env).1 = (clockGetTicks64 sysDriver h i.env).1 ∧
    (clockGetTicks32 sysDriver h i.env).2.map UInt32.toNat =
      (clockGetTicks64 sysDriver h i.env).2.map fun t => t.toNat % 2 ^ 32

/-- Between two instants less than `2 ^ 32` ticks apart the difference of the 32-bit ticks is the
time elapsed. -/
def Ticks32Elapse (i j : Instant) : Prop :=
  ∀ s s' t t', (clockGetTicks32 sysDriver h i.env).2 = some s →
    (clockGetTicks32 sysDriver h j.env).2 = some s' →
    (clockGetTicks64 sysDriver h i.env).2 = some t →
    (clockGetTicks64 sysDriver h j.env).2 = some t' →
    (t' - t).toNat < 2 ^ 32 → (s' - s).toNat = (t' - t).toNat

end OneClock

section Proofs

variable {sysDriver : Bool} {h : ClockHndl}

theorem toNat_stClo (stc : UInt64) : (stClo stc).toNat = stc.toNat % 2 ^ 32 :=
  UInt64.toNat_toUInt32 stc

/-- The low word tells how far two counts are apart, unless it has turned between them more than
once: the difference of two readings is taken modulo `2 ^ 32`. -/
theorem toNat_stClo_sub {m n : ℕ} (hle : m ≤ n) (hlt : n < m + 2 ^ 32) :
    (stClo (UInt64.ofNat n) - stClo (UInt64.ofNat m)).toNat = n - m := by
  rw [UInt32.toNat_sub, toNat_stClo, toNat_stClo, UInt64.toNat_ofNat', UInt64.toNat_ofNat']
  omega

theorem toNat_stChi (stc : UInt64) : (stChi stc).toNat = stc.toNat / 2 ^ 32 := by
  have hlt := stc.toNat_lt
  rw [stChi, UInt64.toNat_toUInt32, UInt64.toNat_shiftRight, Nat.shiftRight_eq_div_pow,
    show UInt64.toNat 32 % 64 = 32 from rfl]
  exact Nat.mod_eq_of_lt (by omega)

theorem toNat_ofWords (chi clo : UInt32) :
    (ofWords chi clo).toNat = chi.toNat * 2 ^ 32 + clo.toNat := by
  have hhi := chi.toNat_lt
  have hlo := clo.toNat_lt
  have hor : chi.toNat <<< 32 ||| clo.toNat = chi.toNat <<< 32 + clo.toNat :=
    (Nat.shiftLeft_add_eq_or_of_lt hlo chi.toNat).symm
  rw [ofWords, UInt64.toNat_or, UInt64.toNat_shiftLeft, UInt32.toNat_toUInt64,
    UInt32.toNat_toUInt64, show UInt64.toNat 32 % 64 = 32 from rfl,
    Nat.mod_eq_of_lt (by rw [Nat.shiftLeft_eq]; omega), hor, Nat.shiftLeft_eq]

/-- While the counter stands still its two words are the counter. -/
theorem bcmTicks64_const (stc : UInt64) : bcmTicks64 (fun _ => stc) = stc := by
  have hlt : ¬ stChi stc < stChi stc := Nat.lt_irrefl (stChi stc).toNat
  rw [bcmTicks64, if_neg hlt]
  apply UInt64.toNat_inj.mp
  rw [toNat_ofWords, toNat_stChi, toNat_stClo]
  omega

/-- The two widths of the I/O driver are one clock. -/
theorem ticks32Follow_io (hio : h.drv = some .io) (i : Instant) : Ticks32Follow sysDriver h i := by
  rw [Ticks32Follow, clockGetTicks32, clockGetTicks64, if_pos hio, if_pos hio]
  exact ⟨rfl, congrArg some (by rw [Instant.env, bcmTicks64_const, toNat_stClo])⟩

/-- The 64-bit ticks of the SYS driver, modulo `2 ^ 32`. -/
theorem timespec_toNat_mod (tp : Timespec) :
    (UInt64.ofNat tp.sec * 1000000000 + UInt64.ofNat tp.nsec).toNat % 2 ^ 32 =
      (tp.sec * 10 ^ 9 + tp.nsec) % 2 ^ 32 := by
  have h1 : (1000000000 : UInt64).toNat = 10 ^ 9 := rfl
  rw [UInt64.toNat_add, UInt64.toNat_mul, UInt64.toNat_ofNat', UInt64.toNat_ofNat', h1]
  omega

/-- The seconds leave no trace modulo `2 ^ 32` when they are a multiple of `2 ^ 23`, as
`10 ^ 9 = 2 ^ 9 * 5 ^ 9`. -/
theorem two_pow_dvd_sec_iff (sec : ℕ) : 2 ^ 32 ∣ sec * 10 ^ 9 ↔ 2 ^ 23 ∣ sec := by
  have hcop : Nat.Coprime (2 ^ 23) (5 ^ 9) := by norm_num
  have hfac : sec * 10 ^ 9 = 2 ^ 9 * (sec * 5 ^ 9) := by ring
  have hpow : (2 : ℕ) ^ 32 = 2 ^ 9 * 2 ^ 23 := by norm_num
  rw [hfac, hpow, mul_dvd_mul_iff_left (by norm_num)]
  exact hcop.dvd_mul_right

theorem nsec_eq_add_mod_iff {k nsec : ℕ} (hlt : nsec < 10 ^ 9) :
    nsec = (k + nsec) % 2 ^ 32 ↔ 2 ^ 32 ∣ k := by
  omega

/-- The SYS driver is one clock in those seconds only. -/
theorem ticks32Follow_sys_iff (hio : h.drv ≠ some .io) (i : Instant) :
    Ticks32Follow true h i ↔ ∀ tp, i.gettime = some tp → 2 ^ 23 ∣ tp.sec := by
  rw [Ticks32Follow, clockGetTicks32, clockGetTicks64, if_neg hio, if_neg hio, sysTicks, sysTicks,
    if_pos rfl, if_pos rfl, Instant.env]
  rcases i.gettime with _ | tp
  · exact iff_of_true ⟨rfl, rfl⟩ nofun
  · have hnsec : (UInt32.ofNat tp.nsec).toNat = tp.nsec :=
      Nat.mod_eq_of_lt (lt_trans tp.nsec_lt (by norm_num))
    simp only [Option.map_some, Option.some.injEq, true_and, forall_eq', hnsec,
      timespec_toNat_mod]
    exact (nsec_eq_add_mod_iff tp.nsec_lt).trans (two_pow_dvd_sec_iff tp.sec)

/-- A driver that is not configured for tells nothing, in either width. -/
theorem ticks32Follow_notSupp (hio : h.drv ≠ some .io) (i : Instant) :
    Ticks32Follow false h i := by
  rw [Ticks32Follow, clockGetTicks32, clockGetTicks64, if_neg hio, if_neg hio]
  exact ⟨rfl, rfl⟩

/-- Where the two widths are one clock, their differences agree. -/
theorem ticks32Elapse_of_follow {i j : Instant} (hi : Ticks32Follow sysDriver h i)
    (hj : Ticks32Follow sysDriver h j) : Ticks32Elapse sysDriver h i j := by
  intro s s' t t' hs hs' ht ht' hlt
  have his := hi.2
  have hjs := hj.2
  rw [hs, ht] at his
  rw [hs', ht'] at hjs
  have h1 : s.toNat = t.toNat % 2 ^ 32 := Option.some.inj his
  have h2 : s'.toNat = t'.toNat % 2 ^ 32 := Option.some.inj hjs
  rw [UInt64.toNat_sub] at hlt ⊢
  rw [UInt32.toNat_sub]
  have hs32 := s.toNat_lt
  have ht64 := t.toNat_lt
  omega

/-- The two widths are one clock at two instants exactly when the I/O driver is active, or the
system's time (if it is told) is in a second that is a multiple of `2 ^ 23`.

A second is `10 ^ 9` ticks, of which the 32-bit reading of the SYS driver keeps nothing. -/
theorem ticks32_follow_iff (sysDriver : Bool) (h : ClockHndl) (i j : Instant) :
    (Ticks32Follow sysDriver h i ∧ Ticks32Follow sysDriver h j ∧ Ticks32Elapse sysDriver h i j) ↔
      h.drv = some .io ∨ sysDriver = false ∨
        ∀ tp, i.gettime = some tp ∨ j.gettime = some tp → 2 ^ 23 ∣ tp.sec := by
  have helapse : (Ticks32Follow sysDriver h i ∧ Ticks32Follow sysDriver h j ∧
      Ticks32Elapse sysDriver h i j) ↔
      Ticks32Follow sysDriver h i ∧ Ticks32Follow sysDriver h j :=
    ⟨fun hh => ⟨hh.1, hh.2.1⟩, fun hh => ⟨hh.1, hh.2, ticks32Elapse_of_follow hh.1 hh.2⟩⟩
  rw [helapse]
  by_cases hio : h.drv = some .io
  · exact iff_of_true ⟨ticks32Follow_io hio i, ticks32Follow_io hio j⟩ (Or.inl hio)
  rcases sysDriver with _ | _
  · exact iff_of_true ⟨ticks32Follow_notSupp hio i, ticks32Follow_notSupp hio j⟩
      (Or.inr (Or.inl rfl))
  · rw [ticks32Follow_sys_iff hio, ticks32Follow_sys_iff hio]
    simp only [hio, Bool.true_eq_false, false_or, or_imp, forall_and]

/-- Half a second on the clock, then a whole one: the 32-bit ticks of the SYS driver have gone
back to 0. -/
theorem ticks32_sys_one_second_fails :
    let h : ClockHndl := ⟨some .sys, false⟩
    let i : Instant := ⟨0, some ⟨0, 500000000, of_decide_eq_true rfl, of_decide_eq_true rfl⟩⟩
    let j : Instant := ⟨0, some ⟨1, 0, of_decide_eq_true rfl, of_decide_eq_true rfl⟩⟩
    ¬ Ticks32Follow true h j ∧ ¬ Ticks32Elapse true h i j := by
  intro h i j
  constructor
  · intro hj
    have hdvd := (ticks32Follow_sys_iff (by decide) j).mp hj _ rfl
    exact absurd hdvd (by decide)
  · intro hij
    have helapse := hij 500000000 0 500000000 1000000000 rfl rfl rfl rfl (by decide)
    exact absurd helapse (by decide)

end Proofs

end Librasp
