import Librasp.Devices.Probe

/-!
# Probes whose calls are granted

What a probe measures is a matter of what it is told by the calls it makes. This is about a probe
none of whose GPIO and clock calls fails.

* A GPIO is ready (`GpioSt.Ready`) when nothing but the system stands in the way of setting and
  reading it. The calls of a driver succeed for such a GPIO if the system calls they make are
  granted, and leave it ready.
* What the scheduler calls of a probe have come to (`SchedSt`) is no business of the other calls.
  In the end a probe has raised its process and restored it twice; `SchedSt.hasLeft_iff` tells
  when the process is out of the real-time section then.

That a call succeeds is one lemma for each function of the GPIO driver, for both drivers at once
(`gpioSetValue_of_ready`, `gpioDirectionOutput_of_ready` and the others). The invariants of the
probes (`DhtAt`, `HcsrAt`) are kept by them.
-/

namespace Librasp

/-! ### Pins -/

/-- A GPIO can be set and read, if the system calls for it are granted. -/
def GpioSt.Ready (s : GpioSt) (g : ℕ) : Prop :=
  g < gpioNum ∧ (s.hndl.Mapped ∨ ∃ fd, s.hndl.valfds g = some fd ∧ s.sysfs.Live fd)

/-- All system calls of a direction call are granted. -/
def DirEnv.granted : DirEnv := ⟨true, true, true, true⟩

section Ready

variable {s : GpioSt} {g : ℕ}

/-- A value is set on a pin that is ready: with the mapped registers in any case, and with sysfs
through the descriptor that is there. -/
theorem gpioSetValue_of_ready (hg : s.Ready g) (val : ℕ) :
    (gpioSetValue true s g val).1 = .success := by
  obtain ⟨hlt, hready⟩ := hg
  rw [gpioSetValue, if_neg (not_le.mpr hlt)]
  by_cases hm : s.hndl.Mapped
  · rw [if_pos hm]
  · obtain ⟨fd, hfd, hlive⟩ := hready.resolve_left hm
    rw [if_neg hm, hfd]
    dsimp only
    rw [if_pos ⟨rfl, hlive⟩]

theorem gpioGetValue_of_ready (hg : s.Ready g) : (gpioGetValue true s g).1.1 = .success := by
  obtain ⟨hlt, hready⟩ := hg
  rw [gpioGetValue, if_neg (not_le.mpr hlt)]
  by_cases hm : s.hndl.Mapped
  · rw [if_pos hm]
  · obtain ⟨fd, hfd, hlive⟩ := hready.resolve_left hm
    rw [if_neg hm, hfd]
    dsimp only
    rw [if_pos ⟨rfl, hlive⟩]

/-- What is set on one GPIO does not matter to another. -/
theorem GpioSt.Ready.setValue (hg : s.Ready g) (wr : Bool) (g' val : ℕ) :
    (gpioSetValue wr s g' val).2.Ready g := by
  obtain ⟨hhndl, hexp, hera⟩ := gpioSetValue_frame wr s g' val
  obtain ⟨hlt, hm | ⟨fd, hfd, hlive⟩⟩ := hg
  · exact ⟨hlt, Or.inl (hhndl ▸ hm)⟩
  · refine ⟨hlt, Or.inr ⟨fd, hhndl ▸ hfd, ?_⟩⟩
    rw [Sysfs.Live, hexp, hera]
    exact hlive

theorem GpioSt.Ready.of_frame (hg : s.Ready g) {s' : GpioSt} (hhndl : s'.hndl = s.hndl)
    (hexp : s'.sysfs.exported = s.sysfs.exported) (hera : s'.sysfs.era = s.sysfs.era) :
    s'.Ready g := by
  rw [GpioSt.Ready, hhndl]
  refine ⟨hg.1, hg.2.imp_right fun ⟨fd, hfd, hlive⟩ => ⟨fd, hfd, ?_⟩⟩
  rw [Sysfs.Live, hexp, hera]
  exact hlive

theorem gpioBcmSetFunc_frame (s : GpioSt) (g : ℕ) (func : GpioBcmFunc) :
    (gpioBcmSetFunc s g func).2.hndl = s.hndl ∧ (gpioBcmSetFunc s g func).2.sysfs = s.sysfs := by
  rw [gpioBcmSetFunc]
  split_ifs
  · exact ⟨rfl, rfl⟩
  · exact ⟨GpioSt.hndl_ioWrite .., GpioSt.sysfs_ioWrite ..⟩
  · exact ⟨rfl, rfl⟩

/-- A pin that is ready can be set to a function. -/
theorem gpioBcmSetFunc_of_ready (hinv : PinInv s) (hg : s.Ready g) (hm : s.hndl.Mapped)
    (func : GpioBcmFunc) :
    (gpioBcmSetFunc s g func).1 = .success ∧ (gpioBcmSetFunc s g func).2.Ready g := by
  obtain ⟨hhndl, hsysfs⟩ := gpioBcmSetFunc_frame s g func
  exact ⟨(gpioBcmSetFunc_pins hinv hm hg.1 func).1,
    hg.of_frame hhndl (congrArg Sysfs.exported hsysfs) (congrArg Sysfs.era hsysfs)⟩

theorem sysfsSetDirection_of_ready (hinv : PinInv s) (hg : s.Ready g) (hm : ¬ s.hndl.Mapped)
    (asOut : Bool) : sysfsSetDirection .granted s g asOut =
      (.success, { s with sysfs := s.sysfs.setDirection g asOut }) := by
  obtain ⟨fd, hfd, hlive⟩ := hg.2.resolve_left hm
  have hexp : s.sysfs.exported g = true := by
    rw [← hinv.own g fd hfd]
    exact hlive.1
  rw [sysfsSetDirection, if_neg (not_le.mpr hg.1), if_pos (by rw [hfd]; rfl), sysfsWriteDirection,
    hexp]
  rfl

theorem gpioDirectionInput_of_ready (hinv : PinInv s) (hg : s.Ready g) :
    (gpioDirectionInput .granted s g).1 = .success ∧
      (gpioDirectionInput .granted s g).2.Ready g := by
  rw [gpioDirectionInput]
  by_cases hm : s.hndl.Mapped
  · rw [if_pos hm]
    exact gpioBcmSetFunc_of_ready hinv hg hm .in
  · rw [if_neg hm, sysfsSetDirection_of_ready hinv hg hm]
    exact ⟨rfl, hg.of_frame rfl rfl rfl⟩

theorem gpioDirectionOutput_of_ready (hinv : PinInv s) (hg : s.Ready g) (val : ℕ) :
    (gpioDirectionOutput .granted s g val).1 = .success ∧
      (gpioDirectionOutput .granted s g val).2.Ready g := by
  rw [gpioDirectionOutput]
  by_cases hm : s.hndl.Mapped
  · have hset : (gpioSetValue DirEnv.granted.writeVal s g val).1 = .success :=
      gpioSetValue_of_ready hg val
    have hinv' := (gpioSetValue_pins hinv DirEnv.granted.writeVal g val).inv
    have hm' : (gpioSetValue DirEnv.granted.writeVal s g val).2.hndl.Mapped := by
      rwa [(gpioSetValue_frame ..).1]
    rw [if_pos hm]
    dsimp only
    rw [if_pos hset]
    exact gpioBcmSetFunc_of_ready hinv' (hg.setValue _ g val) hm' .out
  · rw [if_neg hm, sysfsSetDirection_of_ready hinv hg hm]
    dsimp only
    rw [if_pos rfl]
    have hg' : GpioSt.Ready { s with sysfs := s.sysfs.setDirection g true } g :=
      hg.of_frame rfl rfl rfl
    exact ⟨gpioSetValue_of_ready hg' val, hg'.setValue _ g val⟩

end Ready

/-! ### Calls of a probe -/

section Calls

open ProbeM Prog

theorem execlkRg_of_success {μ α : Type} {m : ProbeM μ (LrErrc × α)} {a : α} {s s' : ProbeSt μ}
    (h : m s = (.val (.success, a), s')) : execlkRg e m s = (.val a, s') := by
  rw [execlkRg]
  split_ifs
  · exact execRg_of_success h
  · rw [bind_of_val h]
    rfl

end Calls

/-! ### The real-time section -/

/-- What the scheduler calls of a probe have come to: the process, the handle, and the number of
restores. -/
structure SchedSt where
  proc : Process
  hndl : SchedRt
  restores : ℕ

/-- Of the state of a probe. -/
def ProbeSt.sched {μ : Type} (s : ProbeSt μ) : SchedSt := ⟨s.proc, s.schedH, s.restores⟩

namespace SchedSt

variable (e : ProbeEnv) (r : SchedSt)

/-- After `sched_rt_raise_max`. -/
def raised : SchedSt :=
  ⟨(schedRtRaiseMax e.raise r.proc).proc, (schedRtRaiseMax e.raise r.proc).hndl, r.restores⟩

/-- After `sched_restore`. -/
def restored : SchedSt :=
  ⟨(schedRestore (e.restore r.restores) r.hndl r.proc).proc,
    (schedRestore (e.restore r.restores) r.hndl r.proc).hndl, r.restores + 1⟩

/-- After all of the calls a probe makes. -/
def done : SchedSt := ((r.raised e).restored e).restored e

/-- After all of its scheduler calls the process of a probe is out of the real-time section
exactly if the section can be left (`SchedLeaves`). -/
theorem hasLeft_iff :
    r.proc.HasLeft (r.done e).proc ↔ SchedLeaves e.raise (e.restore r.restores) r.proc :=
  hasLeft_schedSection_iff e.raise e.restore r.restores r.proc

end SchedSt

end Librasp
