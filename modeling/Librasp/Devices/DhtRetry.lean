import Librasp.Devices.DhtFrame

/-!
# `dht.c`: probing with retries

`dht_probe_retried` repeats a probe after no response, and after corrupted data. One counter
counts the tries, the other counts ten probes without a response down, and is off from the first
corrupted response on.

* The loop is that of the code for any probe, and so for every sequence of results
  (`dhtRetryLoop`); `dhtProbeRetried` is this loop over the probes of a sensor, each with its own
  environment.
* `DhtRetried` says with what the results so far are to end. The three ways are a result that is
  not repeated, ten probes without a response from the first one on, and no retries left.
* Before each further probe the counters are those of `DhtRetrying`: the invariant, with the
  countdown as a relation of its own (`RetryCountdown`). Also with `UINT_MAX` retries the loop
  comes to an end: `n_tries` is 0 then, and the number of tries is counted down from its whole
  range.

**Main result.** `dhtProbeRetried_spec`: the loop ends as it is to end, after at most so many
probes; the values are written just with a success.
-/

namespace Librasp

/-! ### The model -/

/-- The counters of `dht_probe_retried`. -/
structure DhtRetry where
  nTries : UInt32
  cdNoResp : UInt32
  deriving DecidableEq, Repr

/-- The `switch` over the result of a probe: the counters, or what is returned. -/
def dhtRetrySwitch (t : DhtRetry) : LrErrc → DhtRetry ⊕ LrErrc
  | .noResp =>
    if t.cdNoResp ≠ 0 then
      let t' := { t with cdNoResp := t.cdNoResp - 1 }
      if t'.cdNoResp = 0 then .inr .noDev else .inl t'
    else .inl t
  | .dtaCrpt => .inl { t with cdNoResp := 0 }
  | ret => .inr ret

/-- What a round of the retry loop makes of the result of its probe. -/
def dhtRetryStep (nRetries : UInt32) (t : DhtRetry) (ret : LrErrc) : DhtRetry ⊕ LrErrc :=
  match dhtRetrySwitch { t with nTries := t.nTries + 1 } ret with
  | .inl t' => if t'.nTries - 1 < nRetries then .inl t' else .inr .devErr
  | .inr ret => .inr ret

/-- A round of the retry loop. -/
def dhtRetryRound {σ : Type} (probe : Prog LrErrc σ LrErrc) (nRetries : UInt32) (t : DhtRetry) :
    Prog LrErrc σ (DhtRetry ⊕ LrErrc) := do
  let ret ← probe
  pure (dhtRetryStep nRetries t ret)

/-- The retry loop, for at most so many rounds. -/
def dhtRetryLoop {σ : Type} (probe : Prog LrErrc σ LrErrc) (nRetries : UInt32) (rounds : ℕ) :
    Prog LrErrc σ LrErrc :=
  Prog.loop (dhtRetryRound probe nRetries) rounds ⟨0, 10⟩

/-- Between the probes. -/
structure DhtRetrySt where
  gpio : GpioSt
  proc : Process
  /-- What was written to `*p_rh` and `*p_temp`. -/
  out : Option (UInt32 × Int32)
  /-- The results so far. -/
  results : List LrErrc

/-- What the probes meet: each its own environment, and what is on its stack. -/
abbrev DhtTries := ℕ → ProbeEnv × SchedRt

/-- `__dht_probe`, as one of several probes: its variables are its own. -/
def dhtProbeNext (tries : DhtTries) (gpio : ℕ) (model : DhtModel) (fuel : ℕ) :
    Prog LrErrc DhtRetrySt LrErrc := fun s =>
  let meets := tries s.results.length
  match dhtProbe meets.1 gpio model fuel (.start s.gpio s.proc meets.2 ⟨false, none⟩) with
  | (.val ret, s') =>
    (.val ret, ⟨s'.gpio, s'.proc, s'.vars.out.or s.out, s.results ++ [ret]⟩)
  | (.exit err, s') => (.exit err, ⟨s'.gpio, s'.proc, s'.vars.out.or s.out, s.results⟩)
  | (.more, s') => (.more, ⟨s'.gpio, s'.proc, s'.vars.out.or s.out, s.results⟩)

/-- `dht_probe_retried`. -/
def dhtProbeRetried (tries : DhtTries) (gpio : ℕ) (model : DhtModel) (fuel : ℕ)
    (nRetries : UInt32) (rounds : ℕ) : Prog LrErrc DhtRetrySt LrErrc :=
  dhtRetryLoop (dhtProbeNext tries gpio model fuel) nRetries rounds

/-! ### Results -/

/-- The results after which a probe is repeated. -/
def Retryable (ret : LrErrc) : Prop := ret = .noResp ∨ ret = .dtaCrpt

instance (ret : LrErrc) : Decidable (Retryable ret) := inferInstanceAs (Decidable (_ ∨ _))

/-- With what the results of the probes that were made are to end. -/
structure DhtRetried (n : ℕ) (rs : List LrErrc) (ret : LrErrc) : Prop where
  length_le : rs.length ≤ n + 1
  before : ∀ r ∈ rs.dropLast, Retryable r
  other : ∀ r, rs.getLast? = some r → ¬ Retryable r → ret = r
  noDev : (∀ r ∈ rs, Retryable r) → rs.take 10 = List.replicate 10 .noResp →
    rs.length = 10 ∧ ret = .noDev
  devErr : (∀ r ∈ rs, Retryable r) → rs.take 10 ≠ List.replicate 10 .noResp →
    rs.length = n + 1 ∧ ret = .devErr

/-- The countdown after some results: it is on while there was no response at all. -/
inductive RetryCountdown : List LrErrc → UInt32 → Prop
  | on {m : ℕ} (hm : m < 10) :
    RetryCountdown (List.replicate m .noResp) (UInt32.ofNat (10 - m))
  | off {m : ℕ} (hm : m < 10) (rest : List LrErrc) :
    RetryCountdown (List.replicate m .noResp ++ .dtaCrpt :: rest) 0

/-- The counters before a further probe. -/
structure DhtRetrying (n : ℕ) (rs : List LrErrc) (t : DhtRetry) : Prop where
  retryable : ∀ r ∈ rs, Retryable r
  length_le : rs.length ≤ n
  tries : t.nTries.toNat = rs.length
  countdown : RetryCountdown rs t.cdNoResp

section Results

variable {n : ℕ} {rs : List LrErrc} {r ret : LrErrc} {t : DhtRetry} {cd : UInt32}

theorem DhtRetried.of_other (hrs : ∀ r ∈ rs, Retryable r) (hlen : rs.length ≤ n)
    (hr : ¬ Retryable r) : DhtRetried n (rs ++ [r]) r where
  length_le := by
    rw [List.length_append, List.length_singleton]
    omega
  before := by
    rw [List.dropLast_concat]
    exact hrs
  other r' hlast _ := by
    rw [List.getLast?_concat] at hlast
    exact Option.some.inj hlast
  noDev hall := absurd (hall r (List.mem_append_right _ (List.mem_singleton_self r))) hr
  devErr hall := absurd (hall r (List.mem_append_right _ (List.mem_singleton_self r))) hr

theorem DhtRetried.of_noDev (hn : 9 ≤ n) :
    DhtRetried n (List.replicate 10 .noResp) .noDev where
  length_le := by
    rw [List.length_replicate]
    omega
  before _ hr := Or.inl (List.eq_of_mem_replicate (List.mem_of_mem_dropLast hr))
  other r hlast hr := by
    have hmem := List.mem_of_getLast? hlast
    exact absurd (Or.inl (List.eq_of_mem_replicate hmem)) hr
  noDev _ _ := ⟨List.length_replicate, rfl⟩
  devErr _ htake := absurd rfl htake

theorem DhtRetried.of_devErr (hrs : ∀ r ∈ rs, Retryable r) (hlen : rs.length = n + 1)
    (htake : rs.take 10 ≠ List.replicate 10 .noResp) : DhtRetried n rs .devErr where
  length_le := hlen.le
  before r hr := hrs r (List.mem_of_mem_dropLast hr)
  other r hlast hr := absurd (hrs r (List.mem_of_getLast? hlast)) hr
  noDev _ h := absurd h htake
  devErr _ _ := ⟨hlen, rfl⟩

/-- The loop's own errors are those after results that are repeated. -/
theorem DhtRetried.of_all (h : DhtRetried n rs ret) (hall : ∀ r ∈ rs, Retryable r) :
    ret = .noDev ∨ ret = .devErr := by
  by_cases htake : rs.take 10 = List.replicate 10 .noResp
  · exact Or.inl (h.noDev hall htake).2
  · exact Or.inr (h.devErr hall htake).2

/-- A result that is not repeated can only be the last: all the results before the last one are of
those after which a probe is repeated. -/
theorem DhtRetried.all_or_last (h : DhtRetried n rs ret) :
    (∀ r ∈ rs, Retryable r) ∨ rs.getLast? = some ret := by
  by_cases hall : ∀ r ∈ rs, Retryable r
  · exact Or.inl hall
  · push Not at hall
    obtain ⟨r, hr, hnot⟩ := hall
    have hne : rs ≠ [] := List.ne_nil_of_mem hr
    rw [← List.dropLast_append_getLast hne, List.mem_append, List.mem_singleton] at hr
    obtain hr | rfl := hr
    · exact absurd (h.before r hr) hnot
    · have hlast := List.getLast?_eq_some_getLast hne
      exact Or.inr (hlast.trans (congrArg some (h.other _ hlast hnot).symm))

/-- After a corrupted response, only a probe itself could say that there is no device. -/
theorem DhtRetried.ne_noDev (h : DhtRetried n rs ret) (hcrpt : .dtaCrpt ∈ rs)
    (hrs : .noDev ∉ rs) : ret ≠ .noDev := by
  rintro rfl
  obtain hall | hlast := h.all_or_last
  · by_cases htake : rs.take 10 = List.replicate 10 .noResp
    · rw [← List.take_of_length_le (h.noDev hall htake).1.le, htake] at hcrpt
      cases List.eq_of_mem_replicate hcrpt
    · cases (h.devErr hall htake).2
  · exact hrs (List.mem_of_getLast? hlast)

theorem DhtRetried.success_iff (h : DhtRetried n rs ret) :
    ret = .success ↔ rs.getLast? = some .success := by
  refine ⟨?_, fun hlast => h.other _ hlast (by decide)⟩
  rintro rfl
  obtain hall | hlast := h.all_or_last
  · obtain hret | hret := h.of_all hall <;> cases hret
  · exact hlast

/-- The countdown has not come to its end. -/
theorem RetryCountdown.take_ne (h : RetryCountdown rs cd) :
    rs.take 10 ≠ List.replicate 10 .noResp := by
  intro htake
  cases h with
  | @on m hm =>
    have hlen := congrArg List.length htake
    simp only [List.length_take, List.length_replicate] at hlen
    omega
  | @off m hm rest =>
    have hmem : LrErrc.dtaCrpt ∈ List.replicate 10 LrErrc.noResp := by
      rw [← htake, List.mem_iff_getElem?]
      exact ⟨m, by simp [hm]⟩
    cases List.eq_of_mem_replicate hmem

/-- Another probe without a response: it was the tenth, or the countdown goes on. A countdown that
was turned off by another result stays off. -/
theorem RetryCountdown.noResp (h : RetryCountdown rs cd) (nTries : UInt32) :
    (dhtRetrySwitch ⟨nTries, cd⟩ .noResp = .inr .noDev ∧
      rs ++ [.noResp] = List.replicate 10 .noResp) ∨
    ∃ cd', dhtRetrySwitch ⟨nTries, cd⟩ .noResp = .inl ⟨nTries, cd'⟩ ∧
      RetryCountdown (rs ++ [.noResp]) cd' := by
  cases h with
  | @on m hm =>
    have hcounts : ∀ m < 10, UInt32.ofNat (10 - m) ≠ 0 ∧
        UInt32.ofNat (10 - m) - 1 = UInt32.ofNat (10 - (m + 1)) := by decide
    obtain ⟨hne, hsub⟩ := hcounts m hm
    rw [dhtRetrySwitch, if_pos hne]
    dsimp only
    rw [hsub, ← List.replicate_succ']
    by_cases hlast : m = 9
    · subst hlast
      exact Or.inl ⟨rfl, rfl⟩
    · have hm' : m + 1 < 10 := by omega
      refine Or.inr ⟨UInt32.ofNat (10 - (m + 1)), ?_, .on hm'⟩
      rw [if_neg (hcounts (m + 1) hm').1]
  | @off m hm rest =>
    refine Or.inr ⟨0, rfl, ?_⟩
    rw [List.append_assoc, List.cons_append]
    exact .off hm _

/-- A corrupted response turns the countdown off. -/
theorem RetryCountdown.dtaCrpt (h : RetryCountdown rs cd) :
    RetryCountdown (rs ++ [.dtaCrpt]) 0 := by
  cases h with
  | on hm => exact .off hm []
  | off hm rest =>
    rw [List.append_assoc, List.cons_append]
    exact .off hm _

theorem dhtRetrySwitch_of_not (t : DhtRetry) (hr : ¬ Retryable r) :
    dhtRetrySwitch t r = .inr r := by
  rw [Retryable, not_or] at hr
  cases r <;> first | rfl | exact absurd rfl hr.1 | exact absurd rfl hr.2

end Results

section Loop

open Prog

variable {nRetries : UInt32} {rs : List LrErrc} {t : DhtRetry}

theorem dhtRetrying_start : DhtRetrying nRetries.toNat [] ⟨0, 10⟩ where
  retryable := List.forall_mem_nil _
  length_le := Nat.zero_le _
  tries := rfl
  countdown := .on (Nat.succ_pos 9)

/-- The test after a result that is repeated. The count of the tries is that of the results, and
the code compares it after it was increased. -/
theorem DhtRetrying.test (h : DhtRetrying nRetries.toNat rs t) {r : LrErrc} (hr : Retryable r)
    {cd : UInt32} (hcd : RetryCountdown (rs ++ [r]) cd) :
    Sum.elim (DhtRetrying nRetries.toNat (rs ++ [r])) (DhtRetried nRetries.toNat (rs ++ [r]))
      (if t.nTries + 1 - 1 < nRetries then .inl ⟨t.nTries + 1, cd⟩ else .inr .devErr) := by
  have hall : ∀ r' ∈ rs ++ [r], Retryable r' := by
    rw [List.forall_mem_append, List.forall_mem_singleton]
    exact ⟨h.retryable, hr⟩
  have hlen : (rs ++ [r]).length = rs.length + 1 := by
    rw [List.length_append, List.length_singleton]
  have hle := h.length_le
  have htries := h.tries
  -- that `n_tries` may have come round to 0 is no matter
  rw [UInt32.add_sub_cancel]
  by_cases hlt : t.nTries < nRetries
  · have hlt' : t.nTries.toNat < nRetries.toNat := hlt
    rw [if_pos hlt]
    refine ⟨hall, by omega, ?_, hcd⟩
    have hbound := nRetries.toNat_lt
    rw [UInt32.toNat_add, htries, hlen]
    exact Nat.mod_eq_of_lt (show rs.length + 1 < 2 ^ 32 by omega)
  · have hge : nRetries.toNat ≤ t.nTries.toNat := UInt32.not_lt.mp hlt
    rw [if_neg hlt]
    exact .of_devErr hall (by omega) hcd.take_ne

/-- **A round.** After a result that is repeated the counters are those before the next probe, or
the loop returns what the results are to end with. -/
theorem DhtRetrying.step (h : DhtRetrying nRetries.toNat rs t) (r : LrErrc) :
    Sum.elim (DhtRetrying nRetries.toNat (rs ++ [r])) (DhtRetried nRetries.toNat (rs ++ [r]))
      (dhtRetryStep nRetries t r) := by
  rw [dhtRetryStep]
  by_cases hr : Retryable r
  · obtain rfl | rfl := id hr
    · obtain ⟨hswitch, hten⟩ | ⟨cd, hswitch, hcd⟩ := h.countdown.noResp (t.nTries + 1)
      · have hlen : rs.length + 1 = 10 := by
          simpa using congrArg List.length hten
        have hle := h.length_le
        rw [hswitch, hten]
        exact .of_noDev (by omega)
      · rw [hswitch]
        exact h.test hr hcd
    · exact h.test hr h.countdown.dtaCrpt
  · rw [dhtRetrySwitch_of_not _ hr]
    exact .of_other h.retryable h.length_le hr

variable {σ : Type} {probe : Prog LrErrc σ LrErrc} {I : List LrErrc → σ → Prop}
  {X : Exits LrErrc σ}

/-- What the probes keep, with their results, holds at the end, and the results end as they
should. The induction is on the rounds that are left, which are as many as there can be tries. -/
theorem ensures_dhtRetryRounds
    (hprobe : ∀ rs s, rs.length ≤ nRetries.toNat → (∀ r ∈ rs, Retryable r) → I rs s →
      Ensures probe s (fun r s' => I (rs ++ [r]) s') X)
    {rounds : ℕ} (hrounds : nRetries.toNat < rs.length + rounds)
    (ht : DhtRetrying nRetries.toNat rs t) {s : σ} (hs : I rs s) :
    Ensures (loop (dhtRetryRound probe nRetries) rounds t) s
      (fun ret s' => ∃ rs, I rs s' ∧ DhtRetried nRetries.toNat rs ret) X := by
  induction rounds generalizing rs t s with
  | zero => exact absurd ht.length_le (not_le.mpr hrounds)
  | succ rounds ih =>
    have hround : Ensures (dhtRetryRound probe nRetries t) s
        (fun next s' => ∃ r, I (rs ++ [r]) s' ∧ Sum.elim (DhtRetrying nRetries.toNat (rs ++ [r]))
          (DhtRetried nRetries.toNat (rs ++ [r])) next) X :=
      ensures_bind (hprobe rs s ht.length_le ht.retryable hs) fun r s' hr =>
        ensures_pure ⟨r, hr, ht.step r⟩
    refine ensures_bind hround fun next s' hnext => ?_
    obtain ⟨r, hI, hnext⟩ := hnext
    rcases next with t' | ret
    · refine ih ?_ hnext hI
      rw [List.length_append, List.length_singleton]
      omega
    · exact ⟨_, hI, hnext⟩

/-- **The retry loop.** -/
theorem ensures_dhtRetryLoop
    (hprobe : ∀ rs s, rs.length ≤ nRetries.toNat → (∀ r ∈ rs, Retryable r) → I rs s →
      Ensures probe s (fun r s' => I (rs ++ [r]) s') X)
    {rounds : ℕ} (hrounds : nRetries.toNat < rounds) {s : σ} (hs : I [] s) :
    Ensures (dhtRetryLoop probe nRetries rounds) s
      (fun ret s' => ∃ rs, I rs s' ∧ DhtRetried nRetries.toNat rs ret) X :=
  ensures_dhtRetryRounds hprobe (hrounds.trans_eq (Nat.zero_add rounds).symm) dhtRetrying_start hs

/-- Whatever the probes result in, the loop ends, after so many of them. The code it ends with is
the one that goes with the results so far. -/
theorem dhtRetryLoop_results {st : ℕ → σ} {res : ℕ → LrErrc}
    (hprobe : ∀ k ≤ nRetries.toNat, probe (st k) = (.val (res k), st (k + 1)))
    {rounds : ℕ} (hrounds : nRetries.toNat < rounds) :
    ∃ k ret, dhtRetryLoop probe nRetries rounds (st 0) = (.val ret, st k) ∧
      DhtRetried nRetries.toNat ((List.range k).map res) ret := by
  have hnext : ∀ rs s, rs.length ≤ nRetries.toNat → (∀ r ∈ rs, Retryable r) →
      rs = (List.range rs.length).map res ∧ s = st rs.length →
      Ensures probe s (fun r s' => rs ++ [r] = (List.range (rs ++ [r]).length).map res ∧
        s' = st (rs ++ [r]).length) ⟨fun _ _ => False, fun _ => False⟩ := by
    rintro rs s hlen - ⟨hrs, rfl⟩
    rw [Ensures, hprobe _ hlen]
    dsimp only
    rw [List.length_append, List.length_singleton, List.range_succ, List.map_append, ← hrs]
    exact ⟨rfl, rfl⟩
  have hends := ensures_dhtRetryLoop
    (I := fun rs s => rs = (List.range rs.length).map res ∧ s = st rs.length) hnext hrounds
    (s := st 0) ⟨rfl, rfl⟩
  obtain ⟨ret, s', hrun, rs, ⟨hrs, rfl⟩, hret⟩ := hends.exists_val
  exact ⟨rs.length, ret, hrun, hrs ▸ hret⟩

end Loop

/-! ### The probes -/

section Probes

open Prog ProbeM

variable {e : ProbeEnv} {g : ℕ}

theorem ensures_dhtRound_code (t : DhtLoop) (s : ProbeSt DhtVars) :
    Ensures (dhtRound e g t) s (fun _ _ => True) codeExits := by
  rw [dhtRound]
  split_ifs
  · refine ensures_bind (coded_getValue g s).execRg fun level s₁ _ => ?_
    refine ensures_bind (coded_getTicks32 s₁).execlkRg fun tick s₂ _ => ?_
    rcases dhtSwitch t level tick <;> exact ensures_pure trivial
  · exact ensures_pure trivial

/-- The code for no device is the one of the retries: a single probe never returns it, however it
is left. Each call on the way has a code of its own. -/
theorem ensures_dhtBody_code (model : DhtModel) (fuel : ℕ) (s : ProbeSt DhtVars) :
    Ensures (dhtBody e g model fuel) s (fun ret _ => ret ≠ .noDev) codeExits := by
  have hloop : ∀ t s, Ensures (loop (dhtRound e g) fuel t) s (fun _ _ => True) codeExits :=
    fun t s => ensures_loop (I := fun _ _ => True)
      (fun t s _ => (ensures_dhtRound_code t s).mono fun r _ _ => by cases r <;> trivial)
      (fun _ _ _ => trivial) fuel trivial
  rw [dhtBody]
  refine ensures_bind (Q := fun _ _ => True) (ensures_modify trivial) fun _ s₁ _ => ?_
  refine ensures_bind (coded_opndrnSetValue g 0 s₁).execRg fun _ s₂ _ => ?_
  rw [dhtResponse]
  refine ensures_bind (Q := fun _ _ => True) (ensures_modify trivial) fun _ s₃ _ => ?_
  refine ensures_bind (coded_usleep 20000 s₃).execlkRg fun _ s₄ _ => ?_
  refine ensures_bind (coded_opndrnSetValue g 1 s₄).execRg fun _ s₅ _ => ?_
  refine ensures_bind (Q := fun _ _ => True) (ensures_modify trivial) fun _ s₆ _ => ?_
  refine ensures_bind (coded_usleep 30 s₆).execlkRg fun _ s₇ _ => ?_
  refine ensures_bind (coded_getTicks32 s₇).execlkRg fun start s₈ _ => ?_
  refine ensures_bind (hloop _ s₈) fun t s₉ _ => ?_
  exact (dhtDecode_code (Prod.eta (dhtDecode model t.i t.siglens)).symm).1

/-- No probe says that there is no device. -/
theorem ensures_dhtProbe_code (model : DhtModel) (fuel : ℕ) (s : ProbeSt DhtVars) :
    Ensures (dhtProbe e g model fuel) s (fun ret _ => ret ≠ .noDev)
      ⟨fun _ _ => False, fun _ => True⟩ := by
  refine ensures_finish (ensures_dhtBody_code model fuel s) (fun _ _ hret => hret) ?_
  rintro ret s' hret rfl
  have hmem : LrErrc.noDev ∈ callCodes := hret
  exact absurd hmem (by decide)

variable {tries : DhtTries}

/-- One of several probes. Its result is noted behind those before, and the values are written
just if it succeeds. -/
theorem ensures_dhtProbeNext (model : DhtModel) (fuel : ℕ) {s : DhtRetrySt}
    (hout : s.out = none) :
    Ensures (dhtProbeNext tries g model fuel) s
      (fun ret s' => s'.results = s.results ++ [ret] ∧ ret ≠ .noDev ∧
        (s'.out ≠ none ↔ ret = .success))
      ⟨fun _ _ => False, fun s' => s'.out = none⟩ := by
  obtain ⟨meets, hmeets⟩ : ∃ meets, meets = tries s.results.length := ⟨_, rfl⟩
  obtain ⟨s₀, hs₀⟩ : ∃ s₀, s₀ = ProbeSt.start s.gpio s.proc meets.2 (⟨false, none⟩ : DhtVars) :=
    ⟨_, rfl⟩
  have hno : NoOutput s₀ := hs₀ ▸ rfl
  have hends := ensures_dhtProbe (e := meets.1) (g := g) model fuel hno
  have hcode := ensures_dhtProbe_code (e := meets.1) (g := g) model fuel s₀
  rw [Ensures] at hends hcode
  rw [Ensures, dhtProbeNext, ← hmeets]
  dsimp only
  rw [← hs₀]
  rcases hrun : dhtProbe meets.1 g model fuel s₀ with ⟨ret | err | _, s'⟩
  · rw [hrun] at hends hcode
    dsimp only
    rw [hout, Option.or_none]
    exact ⟨rfl, hcode, hends.out_iff⟩
  · rw [hrun] at hends
    exact hends.elim
  · rw [hrun] at hends
    dsimp only
    rw [hout, Option.or_none]
    exact hends.1

end Probes

/-- **Probing with retries.** Whatever the probes result in, up to `UINT_MAX` retries: the loop
ends, as `DhtRetried` says, and so does `dht_probe_retried` with its own probes, if each of them
returns. Of the probes of a sensor, the values are written just with a success, and after a
corrupted response there is a device. -/
theorem dhtProbeRetried_spec :
    (∀ (σ : Type) (probe : Prog LrErrc σ LrErrc) (nRetries : UInt32) (st : ℕ → σ)
      (res : ℕ → LrErrc), (∀ k ≤ nRetries.toNat, probe (st k) = (.val (res k), st (k + 1))) →
      ∀ rounds, nRetries.toNat < rounds →
        ∃ k ret, dhtRetryLoop probe nRetries rounds (st 0) = (.val ret, st k) ∧
          DhtRetried nRetries.toNat ((List.range k).map res) ret) ∧
    (∀ tries g model fuel (nRetries : UInt32) (st : ℕ → DhtRetrySt) (res : ℕ → LrErrc),
      (∀ k ≤ nRetries.toNat,
        dhtProbeNext tries g model fuel (st k) = (.val (res k), st (k + 1))) →
      ∀ rounds, nRetries.toNat < rounds →
        ∃ k ret, dhtProbeRetried tries g model fuel nRetries rounds (st 0) = (.val ret, st k) ∧
          DhtRetried nRetries.toNat ((List.range k).map res) ret) ∧
    ∀ tries g model fuel (nRetries : UInt32) rounds, nRetries.toNat < rounds →
      ∀ gpio proc, Prog.Ensures (dhtProbeRetried tries g model fuel nRetries rounds)
        ⟨gpio, proc, none, []⟩
        (fun ret s' => DhtRetried nRetries.toNat s'.results ret ∧
          (.dtaCrpt ∈ s'.results → ret ≠ .noDev) ∧ (s'.out ≠ none ↔ ret = .success))
        ⟨fun _ _ => False, fun s' => s'.out = none⟩ := by
  refine ⟨fun σ probe nRetries st res hprobe rounds hrounds =>
    dhtRetryLoop_results hprobe hrounds, fun tries g model fuel nRetries st res hprobe rounds
    hrounds => dhtRetryLoop_results hprobe hrounds, ?_⟩
  intro tries g model fuel nRetries rounds hrounds gpio proc
  refine (ensures_dhtRetryLoop (I := fun rs s => s.results = rs ∧ .noDev ∉ rs ∧
    (s.out ≠ none ↔ rs.getLast? = some .success)) ?_ hrounds ?_).mono ?_
  · rintro rs s - hrs ⟨rfl, hno, hout⟩
    -- of the results that are repeated, none comes with values
    have hnone : s.out = none := by
      by_contra hsome
      have hlast := hrs _ (List.mem_of_getLast? (hout.mp hsome))
      exact absurd hlast (by decide)
    refine (ensures_dhtProbeNext model fuel hnone).mono fun ret s' ⟨hres, hret, hiff⟩ => ?_
    refine ⟨hres, ?_, ?_⟩
    · rw [List.mem_append, List.mem_singleton, not_or]
      exact ⟨hno, fun h => hret h.symm⟩
    · rw [hiff, List.getLast?_concat, Option.some_inj]
  · exact ⟨rfl, List.not_mem_nil, by simp⟩
  · rintro ret s' ⟨rs, ⟨rfl, hno, hout⟩, hret⟩
    exact ⟨hret, fun hcrpt => hret.ne_noDev hcrpt hno, hout.trans hret.success_iff.symm⟩

end Librasp
