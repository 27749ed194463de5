import Librasp.Foundation.Run
import Librasp.Gpio.Driver

/-!
# Exporting and the cached descriptors

On the SYSFS driver the descriptor of a value file is opened by the first direction call on the
GPIO, and used by all that follow. It should be there exactly while the GPIO is exported and set
as an input or an output (`SysfsSt.IsSet`).

The descriptor is not given up by `gpio_sysfs_unexport`, nor by a direction call that opens it and
then fails:

* After an unexport the descriptor does not work anymore, also not in the next export of the GPIO,
  whose direction calls do not open another one. A value is then not accessed, where the header
  says that it is, or that `LREC_NOINIT` is returned.
* After a direction call that fails there is a descriptor of a GPIO that was not set.

**Main results.** `SysfsGood` is what a call should do, and `SysfsOk` the condition under which it
does; `sysfs_run_iff` says, over all runs from the initialization, that each call is as it should
be exactly if each meets its condition, and so that there is nothing else that goes wrong. The
invariant is `SysfsInv`: what is cached is set, and works.
-/

namespace Librasp

/-! ### Runs -/

/-- A call on the SYSFS driver, with the outcome of its system calls. -/
inductive SysfsCall
  | sysfsExport (e : ExportEnv) (gpio : ℕ)
  | sysfsUnexport (e : ExportEnv) (gpio : ℕ)
  | directionInput (e : DirEnv) (gpio : ℕ)
  | directionOutput (e : DirEnv) (gpio val : ℕ)
  | setValue (wr : Bool) (gpio val : ℕ)
  | getValue (rd : Bool) (gpio : ℕ)
  deriving DecidableEq, Repr

/-- What a call does. -/
def SysfsCall.exec (s : GpioSt) : SysfsCall → LrErrc × GpioSt
  | sysfsExport e gpio => gpioSysfsExport e s gpio
  | sysfsUnexport e gpio => gpioSysfsUnexport e s gpio
  | directionInput e gpio => gpioDirectionInput e s gpio
  | directionOutput e gpio val => gpioDirectionOutput e s gpio val
  | setValue wr gpio val => gpioSetValue wr s gpio val
  | getValue rd gpio => ((gpioGetValue rd s gpio).1.1, (gpioGetValue rd s gpio).2)

/-- The GPIO of a direction call. -/
def SysfsCall.direction : SysfsCall → Option ℕ
  | directionInput _ gpio => some gpio
  | directionOutput _ gpio _ => some gpio
  | _ => none

/-- A state of the SYSFS driver, and for each GPIO the export in which a direction call on it last
succeeded. -/
structure SysfsSt where
  st : GpioSt
  setIn : ℕ → Option ℕ

namespace SysfsSt

/-- The GPIO is exported, and a direction call on it has succeeded since. -/
def IsSet (s : SysfsSt) (g : ℕ) : Prop :=
  s.st.sysfs.exported g = true ∧ s.setIn g = some (s.st.sysfs.era g)

/-- The state after a call. -/
def after (s : SysfsSt) (c : SysfsCall) : SysfsSt where
  st := (c.exec s.st).2
  setIn := match c.direction with
    | some g => if (c.exec s.st).1 = .success then
        Function.update s.setIn g (some (s.st.sysfs.era g)) else s.setIn
    | none => s.setIn

/-- The descriptors are those of the GPIOs that are set. -/
def Cached (s : SysfsSt) : Prop := ∀ g < gpioNum, (s.st.hndl.valfds g).isSome = true ↔ s.IsSet g

end SysfsSt

/-- The calls as a transition system. -/
def sysfsStep (s : SysfsSt) (c : SysfsCall) : Option SysfsSt := some (s.after c)

/-- How the value of a GPIO is accessed: there is no access to one that is not set, and one that
is set is accessed unless the system refuses. -/
def SysfsAccess (s : SysfsSt) : SysfsCall → Prop
  | .setValue wr g val => g < gpioNum →
    (¬ s.IsSet g → gpioSetValue wr s.st g val = (.noinit, s.st)) ∧
    (s.IsSet g → wr = true → (gpioSetValue wr s.st g val).1 = .success ∧
      (gpioSetValue wr s.st g val).2.sysfs.level g = decide (val ≠ 0))
  | .getValue rd g => g < gpioNum →
    (¬ s.IsSet g → gpioGetValue rd s.st g = ((.noinit, none), s.st)) ∧
    (s.IsSet g → rd = true →
      (gpioGetValue rd s.st g).1 = (.success, some (s.st.sysfs.level g).toNat))
  | _ => True

/-- A call is as it should be. -/
def SysfsGood (s : SysfsSt) (c : SysfsCall) (s' : SysfsSt) : Prop := s'.Cached ∧ SysfsAccess s c

/-- A direction call opens the value file. -/
def DirEnv.Opens (e : DirEnv) (s : GpioSt) (g : ℕ) : Prop :=
  g < gpioNum ∧ s.hndl.valfds g = none ∧ e.openVal = true ∧ s.sysfs.exported g = true

/-- A direction call is granted all that follows the opening of the value file. -/
def DirEnv.grants (e : DirEnv) (asOut : Bool) : Bool :=
  e.openDir && e.writeDir && (!asOut || e.writeVal)

/-- When a call is as it should be: a GPIO is not unexported while its value file is open, and a
direction call that opens the value file succeeds. -/
def SysfsOk (s : SysfsSt) : SysfsCall → Prop
  | .sysfsUnexport e g => g < gpioNum → e.openExp = true → e.write = .done →
    s.st.sysfs.exported g = true → s.st.hndl.valfds g = none
  | .directionInput e g => e.Opens s.st g → e.grants false = true
  | .directionOutput e g _ => e.Opens s.st g → e.grants true = true
  | _ => True

/-! ### The direction calls -/

/-- What a direction call does to the descriptors and to the exports. -/
structure DirSpec (e : DirEnv) (asOut : Bool) (s : GpioSt) (g : ℕ) (r : LrErrc × GpioSt) :
    Prop where
  drv : r.2.hndl.drv = s.hndl.drv
  exported : r.2.sysfs.exported = s.sysfs.exported
  era : r.2.sysfs.era = s.sysfs.era
  opens : e.Opens s g → r.2.hndl.valfds = (s.openValue g).hndl.valfds
  keeps : ¬ e.Opens s g → r.2.hndl.valfds = s.hndl.valfds
  granted : e.Opens s g → (r.1 = .success ↔ e.grants asOut = true)
  set : r.1 = .success → g < gpioNum ∧ s.sysfs.exported g = true ∧
    (r.2.hndl.valfds g).isSome = true

section Direction

variable {e : DirEnv} {s : GpioSt} {g : ℕ}

theorem not_mapped_sysfs {h : GpioHndl} (hdrv : h.drv = some .sysfs) : ¬ h.Mapped := by
  rw [GpioHndl.Mapped, hdrv]
  decide

/-- Writing the direction needs nothing but the system. -/
theorem sysfsWriteDirection_spec (e : DirEnv) (s : GpioSt) (g : ℕ) (asOut : Bool) :
    ((sysfsWriteDirection e s g asOut).1 = .success ↔
      e.openDir = true ∧ e.writeDir = true ∧ s.sysfs.exported g = true) ∧
    (sysfsWriteDirection e s g asOut).2.hndl = s.hndl ∧
    (sysfsWriteDirection e s g asOut).2.sysfs.exported = s.sysfs.exported ∧
    (sysfsWriteDirection e s g asOut).2.sysfs.era = s.sysfs.era := by
  rw [sysfsWriteDirection]
  rcases e.openDir with _ | _ <;> rcases e.writeDir with _ | _ <;>
    rcases s.sysfs.exported g with _ | _ <;> simp [Sysfs.setDirection]

/-- `sysfs_set_direction` opens the value file if it has to, and then writes the direction. The
descriptor stays where the second fails. -/
theorem sysfsSetDirection_spec (e : DirEnv) (s : GpioSt) (g : ℕ) (asOut : Bool) :
    DirSpec e false s g (sysfsSetDirection e s g asOut) := by
  have hgrants : e.grants false = true ↔ e.openDir = true ∧ e.writeDir = true := by
    simp [DirEnv.grants]
  rw [sysfsSetDirection]
  split_ifs with hg hval hopen
  · exact ⟨rfl, rfl, rfl, fun ho => absurd ho.1 (not_lt.mpr hg), fun _ => rfl,
      fun ho => absurd ho.1 (not_lt.mpr hg), nofun⟩
  · -- the value file is open already
    have hno : ¬ e.Opens s g := fun ho => by rw [ho.2.1] at hval; exact absurd hval (by decide)
    obtain ⟨hret, hh, hexp, hera⟩ := sysfsWriteDirection_spec e s g asOut
    exact ⟨by rw [hh], hexp, hera, fun ho => absurd ho hno, fun _ => by rw [hh],
      fun ho => absurd ho hno, fun h => ⟨not_le.mp hg, (hret.mp h).2.2, by rwa [hh]⟩⟩
  · have hno : ¬ e.Opens s g := fun ho => by simp [ho.2.2.1, ho.2.2.2] at hopen
    exact ⟨rfl, rfl, rfl, fun ho => absurd ho hno, fun _ => rfl, fun ho => absurd ho hno, nofun⟩
  · simp only [Bool.not_eq_true', Bool.and_eq_false_iff, not_or, Bool.not_eq_false] at hopen
    have ho : e.Opens s g := ⟨not_le.mp hg, by simpa using hval, hopen.1, hopen.2⟩
    obtain ⟨hret, hh, hexp, hera⟩ := sysfsWriteDirection_spec e (s.openValue g) g asOut
    have hexp' : (s.openValue g).sysfs.exported g = true := ho.2.2.2
    refine ⟨by rw [hh]; rfl, hexp, hera, fun _ => by rw [hh], fun hno => absurd ho hno,
      fun _ => ?_, fun _ => ⟨ho.1, ho.2.2.2, ?_⟩⟩
    · rw [hret, hgrants]
      exact ⟨fun h => ⟨h.1, h.2.1⟩, fun h => ⟨h.1, h.2, hexp'⟩⟩
    · rw [hh]
      simp [GpioSt.openValue]

/-- A value is written through a descriptor that works when the system allows it. -/
theorem gpioSetValue_live {fd : ValFd} (hdrv : s.hndl.drv = some .sysfs) (hg : g < gpioNum)
    (hfd : s.hndl.valfds g = some fd) (hlive : s.sysfs.Live fd) (wr : Bool) (val : ℕ) :
    gpioSetValue wr s g val = if wr then
      (.success, { s with sysfs := { s.sysfs with
        level := Function.update s.sysfs.level fd.gpio (decide (val ≠ 0)) } })
      else (.writeErr, s) := by
  rw [gpioSetValue, if_neg (not_le.mpr hg), if_neg (not_mapped_sysfs hdrv), hfd]
  simp only [hlive, and_true]

theorem gpioDirectionInput_spec (hdrv : s.hndl.drv = some .sysfs) (e : DirEnv) (g : ℕ) :
    DirSpec e false s g (gpioDirectionInput e s g) := by
  rw [gpioDirectionInput, if_neg (not_mapped_sysfs hdrv)]
  exact sysfsSetDirection_spec e s g false

theorem DirEnv.grants_true_iff (e : DirEnv) :
    e.grants true = true ↔ e.grants false = true ∧ e.writeVal = true := by
  simp [grants]

/-- An output also has its value written, through a descriptor that works if it was opened just
now. -/
theorem gpioDirectionOutput_spec (hdrv : s.hndl.drv = some .sysfs) (e : DirEnv) (g val : ℕ) :
    DirSpec e true s g (gpioDirectionOutput e s g val) := by
  have hdir := sysfsSetDirection_spec e s g true
  rw [gpioDirectionOutput, if_neg (not_mapped_sysfs hdrv)]
  obtain ⟨r, hr⟩ : ∃ r, r = sysfsSetDirection e s g true := ⟨_, rfl⟩
  rw [← hr] at hdir ⊢
  dsimp only
  by_cases hok : r.1 = .success
  · rw [if_pos hok]
    obtain ⟨hh, hexp, hera⟩ := gpioSetValue_frame e.writeVal r.2 g val
    refine ⟨by rw [hh, hdir.drv], by rw [hexp, hdir.exported], by rw [hera, hdir.era],
      fun ho => by rw [hh, hdir.opens ho], fun hno => by rw [hh, hdir.keeps hno], fun ho => ?_,
      fun _ => ?_⟩
    · have hfd : r.2.hndl.valfds g = some ⟨g, s.sysfs.era g⟩ := by
        rw [hdir.opens ho, GpioSt.openValue]
        exact Function.update_self ..
      have hlive : r.2.sysfs.Live ⟨g, s.sysfs.era g⟩ := by
        refine ⟨?_, ?_⟩
        · rw [hdir.exported]
          exact ho.2.2.2
        · rw [hdir.era]
      rw [gpioSetValue_live (hdir.drv.trans hdrv) ho.1 hfd hlive, e.grants_true_iff,
        ← hdir.granted ho]
      rcases e.writeVal with _ | _ <;> simp [hok]
    · obtain ⟨hg, hexpg, hsome⟩ := hdir.set hok
      exact ⟨hg, hexpg, by rwa [hh]⟩
  · rw [if_neg hok]
    refine ⟨hdir.drv, hdir.exported, hdir.era, hdir.opens, hdir.keeps, fun ho => ?_, hdir.set⟩
    rw [e.grants_true_iff, ← hdir.granted ho]
    exact ⟨fun h => absurd h hok, fun h => absurd h.1 hok⟩

end Direction

/-! ### One call -/

/-- What holds of the states that are as they should be: besides, a cached descriptor is one of the
current export, and no direction call has succeeded in an export to come. -/
structure SysfsInv (s : SysfsSt) : Prop where
  drv : s.st.hndl.drv = some .sysfs
  cached : s.Cached
  live : ∀ g < gpioNum, ∀ fd, s.st.hndl.valfds g = some fd →
    fd.gpio = g ∧ s.st.sysfs.Live fd
  setIn_le : ∀ g n, s.setIn g = some n → n ≤ s.st.sysfs.era g

section Step

variable {s : SysfsSt}

/-- A GPIO that is not set has no descriptor, so that its access is refused. One that is set has a
descriptor that works, and the access is done if the kernel grants it. -/
theorem SysfsInv.access (hs : SysfsInv s) (c : SysfsCall) : SysfsAccess s c := by
  have hnone : ∀ g < gpioNum, ¬ s.IsSet g → s.st.hndl.valfds g = none := fun g hg hset =>
    Option.not_isSome_iff_eq_none.mp fun h => hset ((hs.cached g hg).mp h)
  have hsome : ∀ g < gpioNum, s.IsSet g → ∃ fd, s.st.hndl.valfds g = some fd :=
    fun g hg hset => Option.isSome_iff_exists.mp ((hs.cached g hg).mpr hset)
  rcases c with _ | _ | _ | _ | ⟨wr, g, val⟩ | ⟨rd, g⟩
  · trivial
  · trivial
  · trivial
  · trivial
  · refine fun hg => ⟨fun hset => ?_, fun hset hwr => ?_⟩
    · rw [gpioSetValue, if_neg (not_le.mpr hg), if_neg (not_mapped_sysfs hs.drv),
        hnone g hg hset]
    · obtain ⟨fd, hfd⟩ := hsome g hg hset
      obtain ⟨hgpio, hlive⟩ := hs.live g hg fd hfd
      rw [gpioSetValue_live hs.drv hg hfd hlive, if_pos hwr, hgpio]
      exact ⟨rfl, Function.update_self ..⟩
  · refine fun hg => ⟨fun hset => ?_, fun hset hrd => ?_⟩
    · rw [gpioGetValue, if_neg (not_le.mpr hg), if_neg (not_mapped_sysfs hs.drv),
        hnone g hg hset]
    · obtain ⟨fd, hfd⟩ := hsome g hg hset
      obtain ⟨hgpio, hlive⟩ := hs.live g hg fd hfd
      rw [gpioGetValue, if_neg (not_le.mpr hg), if_neg (not_mapped_sysfs hs.drv), hfd]
      dsimp only
      rw [if_pos ⟨hrd, hlive⟩, hgpio]

/-- The state after a direction call on `g` that ended with `r`. -/
def SysfsSt.afterDir (s : SysfsSt) (g : ℕ) (r : LrErrc × GpioSt) : SysfsSt :=
  ⟨r.2, if r.1 = .success then Function.update s.setIn g (some (s.st.sysfs.era g)) else s.setIn⟩

section AfterDir

variable {e : DirEnv} {asOut : Bool} {g : ℕ} {r : LrErrc × GpioSt}

/-- A direction call sets its GPIO if it succeeds. If not, and for all other GPIOs, nothing
changes about what is set. -/
theorem isSet_afterDir (hr : DirSpec e asOut s.st g r) (g' : ℕ) :
    (s.afterDir g r).IsSet g' ↔ s.IsSet g' ∨ (g' = g ∧ r.1 = .success) := by
  rw [SysfsSt.IsSet, SysfsSt.IsSet, SysfsSt.afterDir, hr.exported, hr.era]
  by_cases hok : r.1 = .success
  · rw [if_pos hok]
    dsimp only
    by_cases hg : g' = g
    · subst hg
      rw [Function.update_self]
      exact iff_of_true ⟨(hr.set hok).2.1, rfl⟩ (Or.inr ⟨rfl, hok⟩)
    · rw [Function.update_of_ne hg]
      exact ⟨Or.inl, fun h => h.resolve_right fun h => hg h.1⟩
  · rw [if_neg hok]
    exact ⟨Or.inl, fun h => h.resolve_right fun h => hok h.2⟩

/-- A direction call opens no descriptor but its own. -/
theorem valfds_afterDir (hr : DirSpec e asOut s.st g r) {g' : ℕ} (hne : g' ≠ g) :
    r.2.hndl.valfds g' = s.st.hndl.valfds g' := by
  by_cases ho : e.Opens s.st g
  · rw [hr.opens ho]
    exact Function.update_of_ne hne _ _
  · rw [hr.keeps ho]

theorem valfds_afterDir_self (hr : DirSpec e asOut s.st g r) (ho : e.Opens s.st g) :
    r.2.hndl.valfds g = some ⟨g, s.st.sysfs.era g⟩ := by
  rw [hr.opens ho]
  exact Function.update_self ..

/-- After a direction call all is as it should be unless it opens the value file and fails. A call
that does not open it leaves the descriptors, and one that succeeds has set its GPIO. -/
theorem cached_afterDir_iff (hs : SysfsInv s) (hr : DirSpec e asOut s.st g r) :
    (s.afterDir g r).Cached ↔ (e.Opens s.st g → e.grants asOut = true) := by
  constructor
  · intro hc ho
    have hset : (s.afterDir g r).IsSet g := (hc g ho.1).mp (by
      rw [SysfsSt.afterDir, valfds_afterDir_self hr ho]
      rfl)
    rcases (isSet_afterDir hr g).mp hset with hold | ⟨-, hok⟩
    · have hsome := (hs.cached g ho.1).mpr hold
      rw [ho.2.1] at hsome
      exact absurd hsome (by decide)
    · exact (hr.granted ho).mp hok
  · intro hgr g' hg'
    rw [isSet_afterDir hr]
    by_cases hne : g' = g
    · subst hne
      by_cases ho : e.Opens s.st g'
      · rw [SysfsSt.afterDir, valfds_afterDir_self hr ho]
        exact iff_of_true rfl (Or.inr ⟨rfl, (hr.granted ho).mpr (hgr ho)⟩)
      · constructor
        · intro hsome
          rw [SysfsSt.afterDir, hr.keeps ho] at hsome
          exact Or.inl ((hs.cached g' hg').mp hsome)
        · rintro (hold | ⟨-, hok⟩)
          · rw [SysfsSt.afterDir, hr.keeps ho]
            exact (hs.cached g' hg').mpr hold
          · exact (hr.set hok).2.2
    · rw [SysfsSt.afterDir, valfds_afterDir hr hne, hs.cached g' hg']
      exact ⟨Or.inl, fun h => h.resolve_right fun h => hne h.1⟩

/-- A direction call keeps the invariant if it keeps the descriptors in step: one that it opens is
of the current export, and the others are as they were. -/
theorem sysfsInv_afterDir (hs : SysfsInv s) (hr : DirSpec e asOut s.st g r)
    (hc : (s.afterDir g r).Cached) : SysfsInv (s.afterDir g r) := by
  refine ⟨hr.drv.trans hs.drv, hc, fun g' hg' fd hfd => ?_, fun g' n hn => ?_⟩
  · rw [Sysfs.Live, SysfsSt.afterDir, hr.exported, hr.era]
    by_cases hopen : g' = g ∧ e.Opens s.st g
    · obtain ⟨rfl, ho⟩ := hopen
      obtain rfl : (⟨g', s.st.sysfs.era g'⟩ : ValFd) = fd :=
        Option.some.inj ((valfds_afterDir_self hr ho).symm.trans hfd)
      exact ⟨rfl, ho.2.2.2, rfl⟩
    · refine hs.live g' hg' fd ?_
      rw [← hfd]
      by_cases hne : g' = g
      · rw [SysfsSt.afterDir, hr.keeps fun ho => hopen ⟨hne, ho⟩]
      · exact (valfds_afterDir hr hne).symm
  · have hera : (s.afterDir g r).st.sysfs.era = s.st.sysfs.era := hr.era
    rw [hera]
    rw [SysfsSt.afterDir] at hn
    dsimp only at hn
    split_ifs at hn with hok
    · by_cases hg : g' = g
      · subst hg
        rw [Function.update_self] at hn
        exact (Option.some.inj hn).symm.le
      · rw [Function.update_of_ne hg] at hn
        exact hs.setIn_le g' n hn
    · exact hs.setIn_le g' n hn

end AfterDir

/-- What an export or unexport of `g` that takes effect does to the kernel. -/
structure ExportSpec (k : Sysfs) (g : ℕ) (k' : Sysfs) : Prop where
  exported : ∀ g', g' ≠ g → k'.exported g' = k.exported g'
  era : ∀ g', g' ≠ g → k'.era g' = k.era g'
  era_le : ∀ g', k.era g' ≤ k'.era g'
  unset : k'.exported g = false ∨ k.era g < k'.era g

theorem exportSpec_doExport (k : Sysfs) (g : ℕ) : ExportSpec k g (k.doExport g) := by
  have hera : (k.doExport g).era g = k.era g + 1 := Function.update_self ..
  refine ⟨fun g' hne => Function.update_of_ne hne _ _, fun g' hne => Function.update_of_ne hne _ _,
    fun g' => ?_, Or.inr (by omega)⟩
  by_cases hg : g' = g
  · rw [hg]
    omega
  · exact (Function.update_of_ne hg _ _).ge

theorem exportSpec_doUnexport (k : Sysfs) (g : ℕ) : ExportSpec k g (k.doUnexport g) :=
  ⟨fun _ hne => Function.update_of_ne hne _ _, fun _ _ => rfl, fun _ => le_rfl,
    Or.inl (Function.update_self ..)⟩

section AfterExport

variable {g : ℕ} {k : Sysfs}

/-- The state after the kernel has exported or unexported a GPIO. -/
def SysfsSt.withSysfs (s : SysfsSt) (k : Sysfs) : SysfsSt := ⟨{ s.st with sysfs := k }, s.setIn⟩

/-- An export or unexport leaves all as it should be exactly if there is no descriptor. A GPIO
that is exported starts as one that is not set, and one that is not exported is not set
either. -/
theorem cached_withSysfs_iff (hs : SysfsInv s) (hk : ExportSpec s.st.sysfs g k)
    (hg : g < gpioNum) : (s.withSysfs k).Cached ↔ s.st.hndl.valfds g = none := by
  have hunset : ¬ (s.withSysfs k).IsSet g := by
    rintro ⟨hexp, hera⟩
    rcases hk.unset with hno | hlt
    · exact absurd (hno.symm.trans hexp) (by decide)
    · exact absurd (hs.setIn_le g _ hera) (not_le.mpr hlt)
  constructor
  · intro hc
    exact Option.not_isSome_iff_eq_none.mp fun h => hunset ((hc g hg).mp h)
  · intro hnone g' hg'
    by_cases hne : g' = g
    · subst hne
      refine iff_of_false ?_ hunset
      rw [SysfsSt.withSysfs, hnone]
      decide
    · have hset : (s.withSysfs k).IsSet g' ↔ s.IsSet g' := by
        rw [SysfsSt.IsSet, SysfsSt.withSysfs, hk.exported g' hne, hk.era g' hne]
        exact Iff.rfl
      rw [hset]
      exact hs.cached g' hg'

theorem sysfsInv_withSysfs (hs : SysfsInv s) (hk : ExportSpec s.st.sysfs g k) (hg : g < gpioNum)
    (hnone : s.st.hndl.valfds g = none) : SysfsInv (s.withSysfs k) := by
  refine ⟨hs.drv, (cached_withSysfs_iff hs hk hg).mpr hnone, fun g' hg' fd hfd => ?_,
    fun g' n hn => (hs.setIn_le g' n hn).trans (hk.era_le g')⟩
  have hne : g' ≠ g := by
    rintro rfl
    exact absurd (hnone.symm.trans hfd) nofun
  obtain ⟨rfl, hexp, hera⟩ := hs.live g' hg' fd hfd
  exact ⟨rfl, (hk.exported _ hne).trans hexp, hera.trans (hk.era _ hne).symm⟩

end AfterExport

/-- An `export` or `unexport` takes effect. -/
def ExportEnv.Effective (e : ExportEnv) (s : GpioSt) (g : ℕ) (exp : Bool) : Prop :=
  g < gpioNum ∧ e.openExp = true ∧ e.write = .done ∧ s.sysfs.exported g ≠ exp

theorem sysfsSetExport_effective {e : ExportEnv} {s : GpioSt} {g : ℕ} {exp : Bool}
    (h : e.Effective s g exp) : (sysfsSetExport e s g exp).2 =
      { s with sysfs := (if exp then s.sysfs.doExport g else s.sysfs.doUnexport g) } := by
  obtain ⟨hg, hopen, hdone, hexp⟩ := h
  rw [sysfsSetExport, if_neg (not_le.mpr hg), hopen, hdone]
  simp [hexp]

theorem sysfsSetExport_ineffective {e : ExportEnv} {s : GpioSt} {g : ℕ} {exp : Bool}
    (h : ¬ e.Effective s g exp) : (sysfsSetExport e s g exp).2 = s := by
  rw [sysfsSetExport]
  by_cases hg : gpioNum ≤ g
  · rw [if_pos hg]
  rw [if_neg hg]
  rcases hopen : e.openExp with _ | _
  · rfl
  rcases hdone : e.write with _ | _ | _
  · have hexp : s.sysfs.exported g = exp :=
      by_contra fun hne => h ⟨not_le.mp hg, hopen, hdone, hne⟩
    simp [hexp]
  · rfl
  · rfl

/-- A call that changes neither descriptors nor exports leaves all as it should be. -/
theorem sysfsInv_of_frame (hs : SysfsInv s) {st : GpioSt} (hh : st.hndl = s.st.hndl)
    (hexp : st.sysfs.exported = s.st.sysfs.exported) (hera : st.sysfs.era = s.st.sysfs.era) :
    SysfsInv ⟨st, s.setIn⟩ := by
  refine ⟨by rw [hh]; exact hs.drv, fun g hg => ?_, fun g hg fd hfd => ?_, fun g n hn => ?_⟩
  · rw [SysfsSt.IsSet, hh, hexp, hera]
    exact hs.cached g hg
  · rw [hh] at hfd
    rw [Sysfs.Live, hexp, hera]
    exact hs.live g hg fd hfd
  · rw [hera]
    exact hs.setIn_le g n hn

theorem gpioGetValue_sysfs (hdrv : s.st.hndl.drv = some .sysfs) (rd : Bool) (g : ℕ) :
    (gpioGetValue rd s.st g).2 = s.st := by
  rw [gpioGetValue, if_neg (not_mapped_sysfs hdrv)]
  split_ifs
  · rfl
  · rcases s.st.hndl.valfds g with _ | fd
    · rfl
    · dsimp only
      split_ifs <;> rfl

/-- An export leaves all as it should be: there is no descriptor of a GPIO that is not exported. -/
theorem sysfsInv_export (hs : SysfsInv s) (e : ExportEnv) (g : ℕ) :
    SysfsInv (s.after (.sysfsExport e g)) := by
  have hafter : s.after (.sysfsExport e g) = ⟨(sysfsSetExport e s.st g true).2, s.setIn⟩ := rfl
  rw [hafter]
  by_cases he : e.Effective s.st g true
  · obtain ⟨hg, -, -, hexp⟩ := id he
    have hnone : s.st.hndl.valfds g = none :=
      Option.not_isSome_iff_eq_none.mp fun h => hexp ((hs.cached g hg).mp h).1
    rw [sysfsSetExport_effective he, if_pos rfl]
    exact sysfsInv_withSysfs hs (exportSpec_doExport ..) hg hnone
  · rw [sysfsSetExport_ineffective he]
    exact hs

/-- An unexport keeps the descriptors in step with what is set exactly if it takes no effect, or
there is no descriptor. One that takes effect leaves the descriptor open, and the GPIO is no
longer set. -/
theorem cached_unexport_iff (hs : SysfsInv s) (e : ExportEnv) (g : ℕ) :
    ((s.after (.sysfsUnexport e g)).Cached ↔ SysfsOk s (.sysfsUnexport e g)) ∧
      (SysfsOk s (.sysfsUnexport e g) → SysfsInv (s.after (.sysfsUnexport e g))) := by
  have hafter : s.after (.sysfsUnexport e g) = ⟨(sysfsSetExport e s.st g false).2, s.setIn⟩ := rfl
  rw [hafter]
  by_cases he : e.Effective s.st g false
  · obtain ⟨hg, hopen, hdone, hexp⟩ := id he
    have hok : SysfsOk s (.sysfsUnexport e g) ↔ s.st.hndl.valfds g = none :=
      ⟨fun h => h hg hopen hdone (Bool.eq_true_of_not_eq_false hexp), fun h _ _ _ _ => h⟩
    rw [sysfsSetExport_effective he, hok]
    exact ⟨cached_withSysfs_iff hs (exportSpec_doUnexport ..) hg,
      sysfsInv_withSysfs hs (exportSpec_doUnexport ..) hg⟩
  · have hok : SysfsOk s (.sysfsUnexport e g) := fun hg hopen hdone hexp =>
      absurd ⟨hg, hopen, hdone, by rw [hexp]; decide⟩ he
    rw [sysfsSetExport_ineffective he]
    exact ⟨iff_of_true hs.cached hok, fun _ => hs⟩

/-- **One call** is as it should be exactly if it meets the condition. -/
theorem cached_after_iff (hs : SysfsInv s) (c : SysfsCall) :
    ((s.after c).Cached ↔ SysfsOk s c) ∧ (SysfsOk s c → SysfsInv (s.after c)) := by
  rcases c with ⟨e, g⟩ | ⟨e, g⟩ | ⟨e, g⟩ | ⟨e, g, val⟩ | ⟨wr, g, val⟩ | ⟨rd, g⟩
  · have hinv := sysfsInv_export hs e g
    exact ⟨iff_of_true hinv.cached trivial, fun _ => hinv⟩
  · exact cached_unexport_iff hs e g
  · have hdir := gpioDirectionInput_spec hs.drv e g
    have hiff := cached_afterDir_iff hs hdir
    exact ⟨hiff, fun hok => sysfsInv_afterDir hs hdir (hiff.mpr hok)⟩
  · have hdir := gpioDirectionOutput_spec hs.drv e g val
    have hiff := cached_afterDir_iff hs hdir
    exact ⟨hiff, fun hok => sysfsInv_afterDir hs hdir (hiff.mpr hok)⟩
  · obtain ⟨hh, hexp, hera⟩ := gpioSetValue_frame wr s.st g val
    have hinv : SysfsInv (s.after (.setValue wr g val)) := sysfsInv_of_frame hs hh hexp hera
    exact ⟨iff_of_true hinv.cached trivial, fun _ => hinv⟩
  · have hst := gpioGetValue_sysfs hs.drv rd g
    have hinv : SysfsInv (s.after (.getValue rd g)) :=
      sysfsInv_of_frame hs (congrArg GpioSt.hndl hst) (congrArg (fun t => t.sysfs.exported) hst)
        (congrArg (fun t => t.sysfs.era) hst)
    exact ⟨iff_of_true hinv.cached trivial, fun _ => hinv⟩

end Step

/-! ### Runs of calls -/

/-- A handle just initialized for the SYSFS driver, on any kernel. -/
def sysfsInit (e : MapEnv) (bcm : Bcm) (k : Sysfs) : SysfsSt :=
  ⟨⟨(gpioInit e (some .sysfs)).2, bcm, k⟩, fun _ => none⟩

theorem sysfsInv_init (e : MapEnv) (bcm : Bcm) (k : Sysfs) : SysfsInv (sysfsInit e bcm k) := by
  refine ⟨rfl, fun g _ => iff_of_false Bool.false_ne_true ?_, fun _ _ _ => nofun,
    fun _ _ => nofun⟩
  rintro ⟨-, hset⟩
  exact absurd hset nofun

/-- After every call the descriptors are those of the GPIOs that are set, and values are accessed
as they should be: exactly if no GPIO is unexported while its value file is open, and every
direction call that opens a value file succeeds. -/
theorem sysfs_run_iff (e : MapEnv) (bcm : Bcm) (k : Sysfs) (cs : List SysfsCall) :
    Run.Each sysfsStep SysfsGood (sysfsInit e bcm k) cs ↔
      Run.Meets sysfsStep SysfsOk (sysfsInit e bcm k) cs := by
  refine Run.each_iff_meets (I := SysfsInv) ?_ ?_ (sysfsInv_init e bcm k) cs
  · intro s c hs
    have hc := (cached_after_iff hs c).1
    constructor
    · intro hok s' h
      rw [← Option.some.inj h]
      exact ⟨hc.mpr hok, hs.access c⟩
    · intro h
      exact hc.mp (h _ rfl).1
  · intro s c s' hs hok h
    rw [← Option.some.inj h]
    exact (cached_after_iff hs c).2 hok

/-- A GPIO that is exported, set as an input and unexported, every call granted: its descriptor is
still there. -/
theorem sysfs_run_unexport_fails :
    ¬ Run.Each sysfsStep SysfsGood
      (sysfsInit ⟨true, true⟩ ⟨fun _ => 0, [], false⟩
        ⟨fun _ => false, fun _ => 0, fun _ => false, fun _ => false⟩)
      [.sysfsExport ⟨true, .done⟩ 4, .directionInput ⟨true, true, true, true⟩ 4,
        .sysfsUnexport ⟨true, .done⟩ 4] := by
  intro h
  have hgood := (((h _ rfl).2 _ rfl).2 _ rfl).1
  have hset := (hgood.1 4 (by decide)).mp rfl
  exact absurd hset.1 (by decide)

end Librasp
