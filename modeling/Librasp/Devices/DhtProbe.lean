import Librasp.Devices.DhtFrame
import Librasp.Devices.Granted

/-!
# `dht.c`: probing a sensor

What `dht_probe` returns, by the samples that its response loop takes.

* Whatever becomes of its calls: the probe ends with the error of a call that has failed, or with
  what the samples of its own loop are decoded to (`DhtEnds`). As long as it has done neither, it
  has taken a sample in every round it was given (`DhtRunsOn`); so it is still running only for
  samples that do not end the loop.
* Where the calls are granted, and tell these ticks and samples (`DhtTells`): the loop takes the
  samples in turn, two calls to a round (`DhtAt`), and the probe returns if and only if the loop
  over the samples ends, with the result of the pulses that are complete by then.

The invariant of the second part is `DhtAt`: before the call with the number `n`, what the pin
does, what the scheduler calls have come to, and the variables. Each call has one lemma about it
(`ensures_dhtPull`, `dhtSample_tells` and the like), and the parts of the probe are put together
from these.

**Main result.** `dhtProbe_spec` has both, with what the loop does over any samples
(`dhtRun_spec`), and that a frame which is sent is what the probe writes.
-/

namespace Librasp

/-! ### Granted calls -/

/-- What `dht_probe` meets when its calls are granted and these are the ticks and the samples that
it is told. -/
structure DhtTells (e : ProbeEnv) (g : ℕ) (start : UInt32) (x : ℕ → DhtSample) : Prop where
  dir : ∀ k, (e.call k).dir = .granted
  rd : ∀ k, (e.call k).rd = true
  usleep : ∀ k, clockUsleep e.sysDriver e.clk (e.call k).usleep = .success
  start : clockGetTicks32 e.sysDriver e.clk (e.call 4).clock = (.success, some start)
  tick : ∀ k,
    clockGetTicks32 e.sysDriver e.clk (e.call (2 * k + 6)).clock = (.success, some (x k).2)
  level : ∀ k hist, hist.length = 2 * k + 5 → (e.line hist g).toNat = (x k).1

/-- Before the call with the number `n`, while the pin does `d`. -/
structure DhtAt (g : ℕ) (d : Option Bool) (n : ℕ) (r : SchedSt) (v : DhtVars)
    (s : ProbeSt DhtVars) : Prop where
  inv : PinInv s.gpio
  ready : s.gpio.Ready g
  drives : s.gpio.drives g = d
  calls : s.hist.length = n
  sched : s.sched = r
  vars : s.vars = v

section Program

open ProbeM Prog

variable {e : ProbeEnv} {g n : ℕ} {r : SchedSt} {start : UInt32} {x : ℕ → DhtSample}
  {d : Option Bool} {v : DhtVars} {o : Option (UInt32 × Int32)} {s : ProbeSt DhtVars}
  {X : Exits LrErrc (ProbeSt DhtVars)}

/-- The start of a probe: the pin is in use. -/
theorem dhtAt_start {gpio : GpioSt} (hinv : PinInv gpio) (hg : gpio.Ready g) (proc : Process)
    (stack : SchedRt) (v : DhtVars) :
    DhtAt g (gpio.drives g) 0 ⟨proc, stack, 0⟩ v (ProbeSt.start gpio proc stack v) :=
  ⟨hinv, hg, rfl, rfl, rfl, rfl⟩

/-- A call that leaves the pin to what it does now. -/
theorem DhtAt.after (hs : DhtAt g d n r v s) {gp : GpioSt} (hinv : PinInv gp) (hg : gp.Ready g)
    (ret : LrErrc) : DhtAt g (gp.drives g) (n + 1) r v (s.after ret gp) :=
  ⟨hinv, hg, rfl, by rw [ProbeSt.after, List.length_append, hs.calls]; rfl, hs.sched, hs.vars⟩

theorem ensures_dhtVars (hs : DhtAt g d n r v s) (f : DhtVars → DhtVars) :
    Ensures (setVars f) s (fun _ => DhtAt g d n r (f v)) X :=
  ensures_modify ⟨hs.inv, hs.ready, hs.drives, hs.calls, hs.sched, congrArg f hs.vars⟩

theorem ensures_dhtRaise (hs : DhtAt g d n r v s) :
    Ensures (raiseMax e) s (fun _ => DhtAt g d n (r.raised e) v) X :=
  ensures_modify ⟨hs.inv, hs.ready, hs.drives, hs.calls, congrArg (SchedSt.raised e) hs.sched,
    hs.vars⟩

theorem ensures_dhtRestore (hs : DhtAt g d n r v s) :
    Ensures (restore e) s (fun _ => DhtAt g d n (r.restored e) v) X :=
  ensures_modify ⟨hs.inv, hs.ready, hs.drives, hs.calls, congrArg (SchedSt.restored e) hs.sched,
    hs.vars⟩

theorem ensures_dhtTick {tick : UInt32} (hs : DhtAt g d n r v s)
    (htick : clockGetTicks32 e.sysDriver e.clk (e.call n).clock = (.success, some tick)) :
    Ensures (execlkRg e (getTicks32 e)) s
      (fun a s' => a = tick ∧ DhtAt g d (n + 1) r v s') X := by
  have hcall : getTicks32 e s = (.val (.success, tick), s.after .success s.gpio) := by
    rw [getTicks32, ProbeM.call, hs.calls, htick]
    rfl
  rw [Ensures, execlkRg_of_success hcall]
  exact ⟨rfl, hs.drives ▸ hs.after hs.inv hs.ready _⟩

variable (htells : DhtTells e g start x)

include htells

theorem ensures_dhtSleep (hs : DhtAt g d n r v s) (usec : ℕ) :
    Ensures (execlkRg e (usleep e usec)) s (fun _ => DhtAt g d (n + 1) r v) X := by
  have hcall : usleep e usec s = (.val (.success, ()), s.after .success s.gpio) := by
    rw [usleep, ProbeM.call, htells.usleep]
  rw [Ensures, execlkRg_of_success hcall]
  exact hs.drives ▸ hs.after hs.inv hs.ready _

/-- The line is pulled down. -/
theorem ensures_dhtPull (hs : DhtAt g d n r v s) :
    Ensures (execRg (opndrnSetValue e g 0)) s (fun _ => DhtAt g (some false) (n + 1) r v) X := by
  obtain ⟨hret, hready⟩ := gpioDirectionOutput_of_ready hs.inv hs.ready 0
  have hpins := gpioDirectionOutput_pins hs.inv .granted g 0
  have hcall : opndrnSetValue e g 0 s = (.val (.success, ()),
      s.after .success (gpioDirectionOutput .granted s.gpio g 0).2) := by
    rw [← hret, opndrnSetValue, ProbeM.call, htells.dir]
    rfl
  have hdrives : (gpioDirectionOutput .granted s.gpio g 0).2.drives g = some false := by
    rw [hpins.done hret, Function.update_self]
    rfl
  rw [Ensures, execRg_of_success hcall]
  exact hdrives ▸ hs.after hpins.inv hready _

/-- The line is released. -/
theorem ensures_dhtLetGo (hs : DhtAt g d n r v s) :
    Ensures (execRg (opndrnSetValue e g 1)) s (fun _ => DhtAt g none (n + 1) r v) X := by
  obtain ⟨hret, hready⟩ := gpioDirectionInput_of_ready hs.inv hs.ready
  have hpins := gpioDirectionInput_pins hs.inv .granted g
  have hcall : opndrnSetValue e g 1 s = (.val (.success, ()),
      s.after .success (gpioDirectionInput .granted s.gpio g).2) := by
    rw [← hret, opndrnSetValue, ProbeM.call, htells.dir]
    rfl
  have hdrives : (gpioDirectionInput .granted s.gpio g).2.drives g = none := by
    rw [hpins.done hret, Function.update_self]
  rw [Ensures, execRg_of_success hcall]
  exact hdrives ▸ hs.after hpins.inv hready _

/-- **A sample** of a line that is released. The call reads the level that the sensor has on the
line, and the clock the tick that goes with it. -/
theorem dhtSample_tells (k : ℕ) (hs : DhtAt g none (2 * k + 5) r v s) :
    ∃ s', dhtSample e g s = (.val (x k), s') ∧ DhtAt g none (2 * (k + 1) + 5) r v s' := by
  have hinv := pinInv_sample hs.inv (e.line s.hist)
  have hready : (s.gpio.sample (e.line s.hist)).Ready g := hs.ready
  have hret := gpioGetValue_of_ready hready
  have hval := gpioGetValue_sample hs.inv true (e.line s.hist) hret
  rw [hs.drives, Option.getD_none, htells.level k _ hs.calls] at hval
  have hget : getValue e g s = (.val (.success, (x k).1),
      s.after .success (s.gpio.sample (e.line s.hist))) := by
    rw [getValue, ProbeM.call, htells.rd]
    dsimp only
    rw [hret, hval, gpioGetValue_snd hinv]
    rfl
  have hafter := hs.after hinv hready .success
  rw [drives_sample, hs.drives] at hafter
  have htick := ensures_dhtTick (X := ⟨fun _ _ => False, fun _ => False⟩) hafter (htells.tick k)
  obtain ⟨tick, s', hclock, rfl, hs'⟩ := htick.exists_val
  refine ⟨s', ?_, hs'⟩
  rw [dhtSample, bind_of_val (execRg_of_success hget), bind_of_val hclock]
  rfl

/-- **The loop** ends as the loop over the samples does. The induction is on the samples that are
left; the last pulse is noticed by one more round, which takes no sample. -/
theorem loop_dhtRound_tells {m fuel : ℕ} (k : ℕ) {t t' : DhtLoop} (hi : t.i < Dht.dtaBits + 1)
    (hs : DhtAt g none (2 * k + 5) r v s)
    (hrun : dhtRun t ((List.range' k m).map x) = .inr t') (hfuel : m < fuel) :
    ∃ s' n, loop (dhtRound e g) fuel t s = (.val t', s') ∧ DhtAt g none n r v s' := by
  induction m generalizing k t s fuel with
  | zero => exact absurd hrun (by simp [dhtRun])
  | succ m ih =>
    obtain ⟨fuel, rfl⟩ : ∃ f, fuel = f + 1 := ⟨fuel - 1, by omega⟩
    obtain ⟨s', hsample, hs'⟩ := dhtSample_tells htells k hs
    rw [List.range'_succ, List.map_cons] at hrun
    obtain ⟨t₁, hstep, hround, hlt⟩ | ⟨t₁, hstep, hround⟩ := dhtRound_of_sample hi hsample
    · rw [dhtRun_cons_inl hstep] at hrun
      obtain ⟨s'', n, hloop, hs''⟩ := ih (k + 1) hlt hs' hrun (Nat.lt_of_succ_lt_succ hfuel)
      exact ⟨s'', n, (loop_of_stay hround fuel).trans hloop, hs''⟩
    · rw [dhtRun_cons_inr hstep] at hrun
      obtain rfl := Sum.inr.inj hrun
      rcases hround with hround | ⟨hround, hlt⟩
      · exact ⟨s', _, loop_of_leave hround fuel, hs'⟩
      · -- the pulse that was the last one is noticed by the next round
        obtain ⟨fuel, rfl⟩ : ∃ f, fuel = f + 1 := ⟨fuel - 1, by omega⟩
        have hleave : dhtRound e g t₁ s' = (.val (.inr t₁), s') := by
          rw [dhtRound, if_neg hlt]
          rfl
        exact ⟨s', _, (loop_of_stay hround _).trans (loop_of_leave hleave fuel), hs'⟩

/-- A loop whose samples do not end it runs on. So with too few of them the function has not
returned, and it is no answer that it has none. -/
theorem loop_dhtRound_runsOn {fuel : ℕ} (k : ℕ) {t t' : DhtLoop} (hi : t.i < Dht.dtaBits + 1)
    (hs : DhtAt g none (2 * k + 5) r v s)
    (hrun : dhtRun t ((List.range' k fuel).map x) = .inl t') :
    (loop (dhtRound e g) fuel t s).1 = .more := by
  induction fuel generalizing k t s with
  | zero => rfl
  | succ fuel ih =>
    obtain ⟨s', hsample, hs'⟩ := dhtSample_tells htells k hs
    rw [List.range'_succ, List.map_cons] at hrun
    obtain ⟨t₁, hstep, hround, hlt⟩ | ⟨t₁, hstep, -⟩ := dhtRound_of_sample hi hsample
    · rw [dhtRun_cons_inl hstep] at hrun
      rw [loop_of_stay hround]
      exact ih (k + 1) hlt hs' hrun
    · rw [dhtRun_cons_inr hstep] at hrun
      exact absurd hrun (by simp)

omit htells in
/-- The part behind the loop. -/
theorem dhtAnswer_tells (model : DhtModel) (t : DhtLoop) (hs : DhtAt g d n r v s) :
    ∃ s', dhtAnswer e model t s = (.val (dhtDecode model t.i t.siglens).1, s') ∧
      DhtAt g d n (r.restored e) { v with out := (dhtDecode model t.i t.siglens).2 } s' :=
  ⟨_, rfl, hs.inv, hs.ready, hs.drives, hs.calls, congrArg (SchedSt.restored e) hs.sched,
    congrArg (fun v : DhtVars => { v with out := (dhtDecode model t.i t.siglens).2 }) hs.vars⟩

/-- The part before the loop: the line is pulled for 20 ms and let go, and the first tick is read
after another 30 us. The two calls for the line, the two sleeps and the clock reading are
counted. -/
theorem dhtWake_tells (hs : DhtAt g d 0 r ⟨false, o⟩ s) :
    ∃ s₀, dhtWake e g s = (.val start, s₀) ∧ DhtAt g none 5 (r.raised e) ⟨false, o⟩ s₀ := by
  have hwake : Ensures (dhtWake e g) s
      (fun tick s₀ => tick = start ∧ DhtAt g none 5 (r.raised e) ⟨false, o⟩ s₀)
      ⟨fun _ _ => False, fun _ => False⟩ := by
    refine ensures_bind (ensures_dhtRaise hs) fun _ s₁ h₁ => ?_
    refine ensures_bind (ensures_dhtPull htells h₁) fun _ s₂ h₂ => ?_
    refine ensures_bind (ensures_dhtVars h₂ _) fun _ s₃ h₃ => ?_
    refine ensures_bind (ensures_dhtSleep htells h₃ 20000) fun _ s₄ h₄ => ?_
    refine ensures_bind (ensures_dhtLetGo htells h₄) fun _ s₅ h₅ => ?_
    refine ensures_bind (ensures_dhtVars h₅ _) fun _ s₆ h₆ => ?_
    refine ensures_bind (ensures_dhtSleep htells h₆ 30) fun _ s₇ h₇ => ?_
    exact ensures_dhtTick h₇ htells.start
  obtain ⟨tick, s₀, hrun, rfl, h₀⟩ := hwake.exists_val
  exact ⟨s₀, hrun, h₀⟩

/-- **The probe** decodes what its loop records, and leaves the line released. The scheduler has
been raised and restored twice by then. -/
theorem ensures_dhtProbe_tells {m fuel : ℕ} (model : DhtModel) {t : DhtLoop}
    (hs : DhtAt g d 0 r ⟨false, o⟩ s)
    (hrun : dhtRun (dhtStart start e.stack) ((List.range m).map x) = .inr t)
    (hfuel : m < fuel) :
    ∃ s' n, dhtProbe e g model fuel s = (.val (dhtDecode model t.i t.siglens).1, s') ∧
      DhtAt g none n (r.done e) ⟨false, (dhtDecode model t.i t.siglens).2⟩ s' := by
  obtain ⟨s₀, hwake, h₀⟩ := dhtWake_tells htells hs
  rw [List.range_eq_range'] at hrun
  obtain ⟨s₁, n, hloop, h₁⟩ := loop_dhtRound_tells htells 0 (Nat.succ_pos _) h₀ hrun hfuel
  obtain ⟨s₂, hanswer, h₂⟩ := dhtAnswer_tells (e := e) model t h₁
  have hbody : dhtBody e g model fuel s = (.val (dhtDecode model t.i t.siglens).1, s₂) := by
    rw [dhtBody_eq, bind_of_val hwake, bind_of_val hloop, hanswer]
  -- the cleanup restores once more, and has nothing to make up for
  obtain ⟨s₃, h₃⟩ : ∃ s₃, restore e s₂ = (.val (), s₃) := ⟨_, rfl⟩
  have hat := ensures_dhtRestore (e := e) (X := ⟨fun _ _ => False, fun _ => False⟩) h₂
  rw [Ensures, h₃] at hat
  refine ⟨s₃, n, ?_, hat⟩
  rw [dhtProbe, finish_of_val hbody, bind_of_val h₃,
    undoIf_idle (congrArg DhtVars.setLow hat.vars)]

/-- While the loop over the samples is not at its end, the probe is running. -/
theorem dhtProbe_runsOn {fuel : ℕ} (model : DhtModel) {t : DhtLoop}
    (hs : DhtAt g d 0 r ⟨false, o⟩ s)
    (hrun : dhtRun (dhtStart start e.stack) ((List.range fuel).map x) = .inl t) :
    (dhtProbe e g model fuel s).1 = .more := by
  obtain ⟨s₀, hwake, h₀⟩ := dhtWake_tells htells hs
  rw [List.range_eq_range'] at hrun
  have hloop := loop_dhtRound_runsOn htells 0 (Nat.succ_pos _) h₀ hrun
  obtain ⟨s₁, hs₁⟩ : ∃ s₁, loop (dhtRound e g) fuel (dhtStart start e.stack) s₀ = (.more, s₁) :=
    ⟨_, Prod.ext hloop rfl⟩
  have hbody : dhtBody e g model fuel s = (.more, s₁) := by
    rw [dhtBody_eq, bind_of_val hwake, bind_of_more hs₁]
  rw [dhtProbe, finish, hbody]

end Program

/-! ### The probe -/

/-- **The response of a sensor.** Whatever is sampled, `siglens` is accessed in bounds, and the
pulses that are recorded result in what they say; a frame is decoded to its bytes, whether or not
the pulse before it is seen.

A probe ends with a call that fails or with what the samples of its loop are decoded to, and the
values are written only on success. Where the calls are granted it returns, given rounds enough, if
and only if the loop over the samples they tell comes to its end: with what the pulses recorded by
then result in, and so with the values of a frame that was sent. -/
theorem dhtProbe_spec :
    (∀ start stack xs,
      let cs := (dhtRounds (dhtStart start stack) xs).filterMap dhtChange
      cs.length ≤ 83 ∧ (∀ m ∈ dhtIndices (dhtStart start stack) xs, m ≤ 40) ∧
        ∀ model t, dhtRun (dhtStart start stack) xs = .inr t →
          DhtResult model (dhtWidths start stack xs) (dhtDecode model t.i t.siglens)) ∧
    (∀ start stack data xs, DhtSends start data xs →
      ((data 0).toNat + (data 1).toNat + (data 2).toNat + (data 3).toNat) % 256 =
        (data 4).toNat →
      ∀ model, ∃ t, dhtRun (dhtStart start stack) xs = .inr t ∧
        dhtDecode model t.i t.siglens = (.success, some (dhtValues data model))) ∧
    ∀ e g model gpio proc stack,
      let s := ProbeSt.start gpio proc stack ⟨false, none⟩
      (∀ fuel, Prog.Ensures (dhtProbe e g model fuel) s
        (fun ret s' => DhtEnds e g model fuel s ret s' ∧ (¬ NoOutput s' → ret = .success))
        ⟨fun _ _ => False, fun s' => NoOutput s' ∧ DhtRunsOn e g fuel s⟩) ∧
      ∀ start x, DhtTells e g start x → PinInv gpio → gpio.Ready g →
        (∀ m t, dhtRun (dhtStart start e.stack) ((List.range m).map x) = .inr t →
          ∀ fuel > m, ∃ ret s', dhtProbe e g model fuel s = (.val ret, s') ∧
            DhtResult model (dhtWidths start e.stack ((List.range m).map x)) (ret, s'.vars.out)) ∧
        (∀ fuel t, dhtRun (dhtStart start e.stack) ((List.range fuel).map x) = .inl t →
          (dhtProbe e g model fuel s).1 = .more) ∧
        ∀ data m, DhtSends start data ((List.range m).map x) →
          ((data 0).toNat + (data 1).toNat + (data 2).toNat + (data 3).toNat) % 256 =
            (data 4).toNat →
          ∀ fuel > m, ∃ s', dhtProbe e g model fuel s = (.val .success, s') ∧
            s'.vars.out = some (dhtValues data model) := by
  refine ⟨dhtRun_spec, fun start stack data xs h hsum model => dhtDecode_of_sends h hsum model,
    fun e g model gpio proc stack => ⟨fun fuel => ?_, ?_⟩⟩
  · have hno : NoOutput (ProbeSt.start gpio proc stack ⟨false, none⟩) := rfl
    exact (ensures_dhtProbe model fuel hno).mono fun ret s' hends => ⟨hends, hends.out_iff.mp⟩
  · intro start x htells hinv hg
    have hs := dhtAt_start hinv hg proc stack ⟨false, none⟩
    refine ⟨fun m t hrun fuel hfuel => ?_, fun fuel t => dhtProbe_runsOn htells model hs,
      fun data m hsends hsum fuel hfuel => ?_⟩
    · obtain ⟨s', n, hprobe, hs'⟩ := ensures_dhtProbe_tells htells model hs hrun hfuel
      refine ⟨_, s', hprobe, ?_⟩
      rw [hs'.vars]
      exact (dhtRun_spec start e.stack _).2.2 model t hrun
    · obtain ⟨t, hrun, hdecode⟩ := dhtDecode_of_sends hsends hsum model
      obtain ⟨s', n, hprobe, hs'⟩ := ensures_dhtProbe_tells htells model hs hrun hfuel
      rw [hdecode] at hprobe hs'
      exact ⟨s', hprobe, congrArg DhtVars.out hs'.vars⟩

end Librasp
