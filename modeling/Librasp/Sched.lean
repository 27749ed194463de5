import Librasp.Common

/-!
# `common.c`: the real-time scheduler

`schedRtRaiseMax` saves the scheduling policy of the process and puts the process in the real-time
policy `RT_SCHED`; `schedRestore` is to bring it back. Every system call may be refused, and the
system refuses a priority that is not one of the policy.

Two slips of the source are behind the results:

* The test of `sched_restore` on the result of `sched_setscheduler` has the wrong sign: the first
  restore after a successful raise reports the opposite of what happened.
* The handle keeps the nice value, and the restore asks for it as the real-time priority. With an
  ordinary policy the system takes no priority but 0.

**Main results.** `RestoresAsPromised` is what the header promises of the restores that follow a
raise, and `raiseAndRestore_iff` tells when they do it. A probe raises the process, restores it
and restores it again in its cleanup (`schedSection`); `hasLeft_schedSection_iff` tells when it is
out of the section then.

The section is stated of the process itself (`Process.HasLeft`), by its policy and priority, and
not of the calls: a restore that is made and refused does not take a process out of it.
-/

namespace Librasp

/-! ### The system -/

/-- `SCHED_RR`. -/
def schedRr : ℤ := 2

/-- `RT_SCHED`. -/
def rtSched : ℤ := schedRr

/-- The real-time policies: `SCHED_FIFO` and `SCHED_RR`. -/
def IsRealTime (policy : ℤ) : Prop := policy = 1 ∨ policy = schedRr

instance (policy : ℤ) : Decidable (IsRealTime policy) := inferInstanceAs (Decidable (_ ∨ _))

/-- The priorities the system takes for a policy. -/
def ValidPriority (policy prio : ℤ) : Prop :=
  if IsRealTime policy then 1 ≤ prio ∧ prio ≤ 99 else prio = 0

instance (policy prio : ℤ) : Decidable (ValidPriority policy prio) := by
  unfold ValidPriority
  infer_instance

/-- `sched_get_priority_max`. -/
def schedGetPriorityMax (policy : ℤ) : ℤ := if IsRealTime policy then 99 else 0

/-- The scheduling state of a process. -/
structure Process where
  policy : ℤ
  /-- The real-time priority. -/
  prio : ℤ
  nice : ℤ
  policy_nonneg : 0 ≤ policy
  prio_valid : ValidPriority policy prio

namespace Process

/-- `sched_setscheduler`, with its success. The system may refuse the call (`ok = false`), and it
refuses what is not valid. -/
def schedSetscheduler (p : Process) (ok : Bool) (policy prio : ℤ) : Bool × Process :=
  if h : ok = true ∧ 0 ≤ policy ∧ ValidPriority policy prio then
    (true, ⟨policy, prio, p.nice, h.2.1, h.2.2⟩)
  else (false, p)

end Process

/-! ### The model -/

/-- `sched_rt_t`. -/
structure SchedRt where
  sched : ℤ
  prio : ℤ
  deriving DecidableEq, Repr

/-- Which of the system calls of `sched_rt_raise_max` the system grants. -/
structure RaiseEnv where
  getscheduler : Bool
  getpriority : Bool
  setscheduler : Bool

/-- How a call of `sched_rt_raise_max` or `sched_restore` ends. -/
structure SchedRes where
  ret : LrErrc
  hndl : SchedRt
  proc : Process
  /-- The result of `sched_setscheduler`, `none` if it was not called. -/
  call : Option Bool

/-- `sched_rt_raise_max`. The handle is filled whatever it held. -/
def schedRtRaiseMax (e : RaiseEnv) (p : Process) : SchedRes :=
  let sched := if e.getscheduler then p.policy else -1
  -- `getpriority` tells the nice value; -1 is one, unless `errno` is set too
  let prio := if e.getpriority then p.nice else -1
  if 0 ≤ sched ∧ (prio ≠ -1 ∨ e.getpriority) then
    let r := p.schedSetscheduler e.setscheduler rtSched (schedGetPriorityMax rtSched)
    if r.1 then ⟨.success, ⟨sched, prio⟩, r.2, some r.1⟩
    else ⟨.schedErr, ⟨-1, prio⟩, r.2, some r.1⟩
  else ⟨.schedErr, ⟨-1, prio⟩, p, none⟩

/-- `sched_restore`. -/
def schedRestore (ok : Bool) (h : SchedRt) (p : Process) : SchedRes :=
  if 0 ≤ h.sched then
    let r := p.schedSetscheduler ok h.sched h.prio
    -- the source compares with `!=-1` here, as it does where the call is to succeed
    if r.1 then ⟨.schedErr, h, r.2, some r.1⟩
    else ⟨.success, { h with sched := -1 }, r.2, some r.1⟩
  else ⟨.success, h, p, none⟩

/-! ### What is promised -/

/-- What a series of restores does when every restore does what it is to do. `saved` is the
policy and the priority that are to come back, `none` when nothing is to be restored (anymore);
`oks` tells which of the calls of `sched_setscheduler` the system grants. -/
def RestoresAsPromised : Option (ℤ × ℤ) → SchedRt → Process → List Bool → Prop
  | _, _, _, [] => True
  | none, h, p, ok :: oks =>
    schedRestore ok h p = ⟨.success, h, p, none⟩ ∧ RestoresAsPromised none h p oks
  | some saved, h, p, ok :: oks =>
    let r := schedRestore ok h p
    (r.call = some true ∧ r.ret = .success ∧ r.hndl.sched < 0 ∧
      (r.proc.policy, r.proc.prio) = saved ∧ RestoresAsPromised none r.hndl r.proc oks) ∨
    (r.call = some false ∧ r.ret = .schedErr ∧ r.hndl = h ∧
      RestoresAsPromised (some saved) r.hndl r.proc oks)

/-- A raise and the restores that follow it: a successful raise is undone, and after a failed
one there is nothing to restore. -/
def RaiseAndRestore (e : RaiseEnv) (p : Process) (oks : List Bool) : Prop :=
  let r := schedRtRaiseMax e p
  RestoresAsPromised (if r.ret = .success then some (p.policy, p.prio) else none) r.hndl r.proc oks

/-! ### What the code does -/

section Restore

variable {e : RaiseEnv} {p : Process} {h : SchedRt}

theorem validPriority_rtSched : ValidPriority rtSched (schedGetPriorityMax rtSched) := by decide

/-- The raise succeeds when no call is refused, and saves the nice value as the priority. -/
theorem schedRtRaiseMax_granted (hs : e.getscheduler = true) (hp : e.getpriority = true)
    (hset : e.setscheduler = true) (p : Process) :
    (schedRtRaiseMax e p).ret = .success ∧ (schedRtRaiseMax e p).hndl = ⟨p.policy, p.nice⟩ := by
  have hcall : (p.schedSetscheduler true rtSched (schedGetPriorityMax rtSched)).1 = true := by
    rw [Process.schedSetscheduler, dif_pos ⟨rfl, by decide, validPriority_rtSched⟩]
  simp only [schedRtRaiseMax, hs, hp, hset, if_true, p.policy_nonneg, or_true, and_self, hcall]

/-- A raise that is refused a call fails, and marks the handle as unable to restore. -/
theorem schedRtRaiseMax_refused
    (hno : e.getscheduler = false ∨ e.getpriority = false ∨ e.setscheduler = false) (p : Process) :
    (schedRtRaiseMax e p).ret = .schedErr ∧ (schedRtRaiseMax e p).hndl.sched = -1 := by
  rcases hno with hno | hno | hno
  · simp [schedRtRaiseMax, hno]
  · simp [schedRtRaiseMax, hno]
  · have hcall : (p.schedSetscheduler false rtSched (schedGetPriorityMax rtSched)).1 = false := by
      rw [Process.schedSetscheduler, dif_neg fun hok => absurd hok.1 (by decide)]
    simp only [schedRtRaiseMax, hno, hcall, Bool.false_eq_true, if_false]
    generalize (if e.getscheduler = true then p.policy else -1) = sched
    split_ifs <;> exact ⟨rfl, rfl⟩

/-- A handle that is not to be restored is left alone, and so is the process. -/
theorem schedRestore_of_neg (hneg : h.sched < 0) (ok : Bool) (p : Process) :
    schedRestore ok h p = ⟨.success, h, p, none⟩ := if_neg (by omega)

theorem restoresAsPromised_of_neg (hneg : h.sched < 0) (p : Process) (oks : List Bool) :
    RestoresAsPromised none h p oks := by
  induction oks with
  | nil => trivial
  | cons ok oks ih => exact ⟨schedRestore_of_neg hneg ok p, ih⟩

/-- **The slip.** A handle that is to be restored is reported the wrong way round: an error where
the system took the policy back, and a success where it did not. The handle is marked as
restored in the second case only: after a restore that worked a further one asks again. -/
theorem schedRestore_of_nonneg (hpos : 0 ≤ h.sched) (ok : Bool) (p : Process) :
    ((schedRestore ok h p).call = some true ∧ (schedRestore ok h p).ret = .schedErr) ∨
      ((schedRestore ok h p).call = some false ∧ (schedRestore ok h p).ret = .success) := by
  rw [schedRestore, if_pos hpos]
  dsimp only
  split_ifs with hr
  · exact Or.inl ⟨congrArg some hr, rfl⟩
  · exact Or.inr ⟨congrArg some (eq_false_of_ne_true hr), rfl⟩

theorem not_restoresAsPromised_of_nonneg (hpos : 0 ≤ h.sched) (saved : ℤ × ℤ) (p : Process)
    (ok : Bool) (oks : List Bool) : ¬ RestoresAsPromised (some saved) h p (ok :: oks) := by
  rintro (⟨hcall, hret, -⟩ | ⟨hcall, hret, -⟩)
  · rcases schedRestore_of_nonneg hpos ok p with h' | h'
    · exact absurd (h'.2.symm.trans hret) (by decide)
    · exact absurd (h'.1.symm.trans hcall) (by decide)
  · rcases schedRestore_of_nonneg hpos ok p with h' | h'
    · exact absurd (h'.1.symm.trans hcall) (by decide)
    · exact absurd (h'.2.symm.trans hret) (by decide)

theorem not_raiseAndRestore_of_granted (hs : e.getscheduler = true) (hp : e.getpriority = true)
    (hset : e.setscheduler = true) (p : Process) (ok : Bool) (oks : List Bool) :
    ¬ RaiseAndRestore e p (ok :: oks) := by
  obtain ⟨hret, hh⟩ := schedRtRaiseMax_granted hs hp hset p
  rw [RaiseAndRestore, hret, if_pos rfl, hh]
  exact not_restoresAsPromised_of_nonneg p.policy_nonneg _ _ _ _

/-- The restores that follow a raise do what is promised exactly when the raise is refused one of
its calls, so that there is nothing to restore. After a raise that is granted already the
first restore breaks the promise, whatever the system does with it. -/
theorem raiseAndRestore_iff (e : RaiseEnv) (p : Process) (oks : List Bool) :
    RaiseAndRestore e p oks ↔
      oks = [] ∨ e.getscheduler = false ∨ e.getpriority = false ∨ e.setscheduler = false := by
  rcases oks with _ | ⟨ok, oks⟩
  · exact iff_of_true trivial (Or.inl rfl)
  by_cases hno : e.getscheduler = false ∨ e.getpriority = false ∨ e.setscheduler = false
  · obtain ⟨hret, hneg⟩ := schedRtRaiseMax_refused hno p
    refine iff_of_true ?_ (Or.inr hno)
    rw [RaiseAndRestore, hret, if_neg (by decide)]
    exact restoresAsPromised_of_neg (by omega) _ _
  · simp only [not_or, Bool.not_eq_false] at hno
    exact iff_of_false (not_raiseAndRestore_of_granted hno.1 hno.2.1 hno.2.2 p ok oks)
      (by simp [hno])

theorem validPriority_other : ValidPriority 0 0 := by decide

/-- A process of the default policy, when every call is granted. -/
theorem raiseAndRestore_default_fails :
    ¬ RaiseAndRestore ⟨true, true, true⟩ ⟨0, 0, 0, le_rfl, validPriority_other⟩ [true] :=
  not_raiseAndRestore_of_granted rfl rfl rfl _ _ _

end Restore

/-! ### A real-time section -/

namespace Process

/-- The policy and the priority. -/
def sched (p : Process) : ℤ × ℤ := (p.policy, p.prio)

/-- In the real-time policy, at its highest priority. -/
def Raised (p : Process) : Prop := p.sched = (rtSched, schedGetPriorityMax rtSched)

instance (p : Process) : Decidable p.Raised := inferInstanceAs (Decidable (p.sched = _))

/-- What was `p` is out of the real-time section as `p'`: at the highest priority it is only if it
was before. -/
def HasLeft (p p' : Process) : Prop := p'.Raised → p.Raised

end Process

/-- The process after a section as the probes have it: raised, restored at the end of the timing
critical part, and restored by the cleanup. Of the restores, `restore` tells which are granted. -/
def schedSection (e : RaiseEnv) (restore : ℕ → Bool) (k : ℕ) (p : Process) : Process :=
  let r := schedRtRaiseMax e p
  let r₁ := schedRestore (restore k) r.hndl r.proc
  (schedRestore (restore (k + 1)) r₁.hndl r₁.proc).proc

/-- When a section is left: it was not entered, or the first restore is granted, with a nice value
that the system takes for a priority of the old policy. -/
def SchedLeaves (e : RaiseEnv) (ok : Bool) (p : Process) : Prop :=
  p.Raised ∨ (e.getscheduler = false ∨ e.getpriority = false ∨ e.setscheduler = false) ∨
    (ok = true ∧ ValidPriority p.policy p.nice ∧
      (p.policy, p.nice) ≠ (rtSched, schedGetPriorityMax rtSched))

instance (e : RaiseEnv) (ok : Bool) (p : Process) : Decidable (SchedLeaves e ok p) :=
  inferInstanceAs (Decidable (_ ∨ (_ ∨ _ ∨ _) ∨ (_ ∧ _ ∧ _)))

section Leaving

variable {e : RaiseEnv} {p : Process} {h : SchedRt}

theorem Process.schedSetscheduler_sched (p : Process) (ok : Bool) (policy prio : ℤ) :
    (p.schedSetscheduler ok policy prio).2.sched =
      if ok = true ∧ 0 ≤ policy ∧ ValidPriority policy prio then (policy, prio) else p.sched := by
  rw [Process.schedSetscheduler]
  split_ifs <;> rfl

/-- A restore. -/
theorem schedRestore_sched (hpos : 0 ≤ h.sched) (ok : Bool) (p : Process) :
    (schedRestore ok h p).proc.sched =
      if ok = true ∧ ValidPriority h.sched h.prio then (h.sched, h.prio) else p.sched := by
  have hset := p.schedSetscheduler_sched ok h.sched h.prio
  simp only [hpos, true_and] at hset
  rw [← hset, schedRestore, if_pos hpos]
  dsimp only
  split_ifs <;> rfl

/-- After a restore another one changes nothing: it asks for the same, or for nothing. -/
theorem schedRestore_again (ok ok' : Bool) (h : SchedRt) (p : Process) :
    let r := schedRestore ok h p
    (schedRestore ok' r.hndl r.proc).proc.sched = r.proc.sched := by
  dsimp only
  by_cases hpos : 0 ≤ h.sched
  · by_cases hset : (p.schedSetscheduler ok h.sched h.prio).1 = true
    · have hr : (schedRestore ok h p).hndl = h := by
        rw [schedRestore, if_pos hpos]
        dsimp only
        rw [if_pos hset]
      have hok : ok = true ∧ 0 ≤ h.sched ∧ ValidPriority h.sched h.prio := by
        by_contra hno
        rw [Process.schedSetscheduler, dif_neg hno] at hset
        exact Bool.false_ne_true hset
      have hfirst : (schedRestore ok h p).proc.sched = (h.sched, h.prio) := by
        rw [schedRestore_sched hpos, if_pos ⟨hok.1, hok.2.2⟩]
      rw [hr, schedRestore_sched hpos ok', hfirst, ite_self]
    · have hneg : (schedRestore ok h p).hndl.sched < 0 := by
        rw [schedRestore, if_pos hpos]
        dsimp only
        rw [if_neg hset]
        exact Int.negSucc_lt_zero 0
      rw [schedRestore_of_neg hneg]
  · have hneg := not_le.mp hpos
    rw [schedRestore_of_neg hneg ok p, schedRestore_of_neg hneg ok' p]

/-- A raise that is refused leaves the process. -/
theorem schedRtRaiseMax_proc_of_refused
    (hno : e.getscheduler = false ∨ e.getpriority = false ∨ e.setscheduler = false) (p : Process) :
    (schedRtRaiseMax e p).proc = p := by
  rcases hno with hno | hno | hno
  · simp [schedRtRaiseMax, hno]
  · simp [schedRtRaiseMax, hno]
  · have hcall : p.schedSetscheduler false rtSched (schedGetPriorityMax rtSched) = (false, p) := by
      rw [Process.schedSetscheduler, dif_neg fun hok => Bool.false_ne_true hok.1]
    simp only [schedRtRaiseMax, hno, hcall, Bool.false_eq_true, if_false]
    split_ifs <;> rfl

/-- A raise that is granted puts the process in the section, that is at the highest priority of
the policy `RT_SCHED`. -/
theorem raised_schedRtRaiseMax (hs : e.getscheduler = true) (hp : e.getpriority = true)
    (hset : e.setscheduler = true) (p : Process) : (schedRtRaiseMax e p).proc.Raised := by
  have hcall := p.schedSetscheduler_sched true rtSched (schedGetPriorityMax rtSched)
  rw [if_pos ⟨rfl, by decide, validPriority_rtSched⟩] at hcall
  rw [Process.Raised, ← hcall]
  simp only [schedRtRaiseMax, hs, hp, hset, if_true, p.policy_nonneg, or_true, and_self]
  split_ifs <;> rfl

/-- **A section.** The process is out of it in the end exactly if the section was not entered, or
if the system takes the nice value that the restore asks for. -/
theorem hasLeft_schedSection_iff (e : RaiseEnv) (restore : ℕ → Bool) (k : ℕ) (p : Process) :
    p.HasLeft (schedSection e restore k p) ↔ SchedLeaves e (restore k) p := by
  have hagain := schedRestore_again (restore k) (restore (k + 1)) (schedRtRaiseMax e p).hndl
    (schedRtRaiseMax e p).proc
  rw [Process.HasLeft, Process.Raised, schedSection, hagain]
  by_cases hno : e.getscheduler = false ∨ e.getpriority = false ∨ e.setscheduler = false
  · have hneg : (schedRtRaiseMax e p).hndl.sched < 0 := by
      rw [(schedRtRaiseMax_refused hno p).2]
      decide
    rw [schedRestore_of_neg hneg, schedRtRaiseMax_proc_of_refused hno]
    exact iff_of_true id (Or.inr (Or.inl hno))
  · rw [SchedLeaves, or_iff_right hno]
    simp only [not_or, Bool.not_eq_false] at hno
    obtain ⟨hs, hp, hset⟩ := hno
    have hraised := raised_schedRtRaiseMax hs hp hset p
    rw [(schedRtRaiseMax_granted hs hp hset p).2, schedRestore_sched p.policy_nonneg]
    by_cases hok : restore k = true ∧ ValidPriority p.policy p.nice
    · rw [if_pos hok, ← and_assoc, and_iff_right hok]
      exact imp_iff_not_or.trans or_comm
    · rw [if_neg hok, ← and_assoc, or_iff_left fun h => hok h.1]
      exact ⟨fun h => h hraised, fun h _ => h⟩

/-- A process of the default policy is out of the section when every call is granted and its nice
value is 0, and otherwise not. -/
example : SchedLeaves ⟨true, true, true⟩ true ⟨0, 0, 0, le_rfl, validPriority_other⟩ ∧
    ¬ SchedLeaves ⟨true, true, true⟩ true ⟨0, 0, 5, le_rfl, validPriority_other⟩ := by
  decide

end Leaving

end Librasp
