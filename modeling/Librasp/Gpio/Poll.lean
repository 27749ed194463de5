import Librasp.Foundation.Loop
import Librasp.Gpio.Export

/-!
# `gpio.c`: polling for events

The kernel counts the events of a GPIO that is exported, and a value file is ready, for `POLLPRI`,
as long as there are others than those its descriptor has seen: the events up to its last read
from the beginning. `gpio_sysfs_poll` reads the file and then waits for it to be ready, while
events occur between, and in, its system calls.

An event is reported by the poll it occurs in, after its first read, and by no other
(`polls_report`). The events between two polls are reported by none.

* `PollEnv` has the events in time, the time each system call takes, and which of them are
  granted. A time-out is counted down by microseconds of waiting; a negative one stands for none.
* Each poll that returns leaves a `PollReport`: for which GPIO it was, when its descriptor was
  read first, when it returned, by which system call, and with what.
* `PollReport.Tells` is what a report is to tell. It settles each way to return: `LREC_INV_ARG`
  and `LREC_NOINIT` by the GPIO and its descriptor, `LREC_POLL_ERR` by the system call, and an
  event or a time-out by the events between the first read and the end.

**Main result.** `polls_report`, over all sequences of polls, with the times of two polls apart;
so the events reported of a GPIO are at most as many as there were. `PollInv` is the invariant,
kept by each poll (`PollInv.step`) and so by a run.
-/

namespace Librasp

/-! ### The model -/

/-- The events of the GPIOs in time, in microseconds, and what becomes of the system calls. -/
structure PollEnv where
  /-- How many events there have been up to a time. -/
  events : ℕ → ℕ →o ℕ
  /-- How long it takes to a system call. -/
  delay : ℕ → ℕ
  /-- The call is granted if it is a read. -/
  reads : ℕ → Bool
  /-- The call is granted if it is a poll. -/
  polls : ℕ → Bool

/-- A handle, the kernel it works on, and the descriptors of its value files. -/
structure PollSt where
  hndl : GpioHndl
  sysfs : Sysfs
  now : ℕ
  /-- The system calls so far. -/
  calls : ℕ
  /-- When the descriptor of a GPIO was read from the beginning. -/
  seen : ℕ → Option ℕ
  /-- The descriptor of a GPIO is behind the value. -/
  behind : ℕ → Bool

section Model

variable (e : PollEnv)

namespace PollSt

/-- The time of the next system call. -/
def next (s : PollSt) : PollSt := { s with now := s.now + e.delay s.calls, calls := s.calls + 1 }

/-- `lseek` to the beginning. -/
def lseek (s : PollSt) (fd : ValFd) : PollSt :=
  { s.next e with behind := Function.update s.behind fd.gpio false }

/-- `read` of some bytes more than the value has, which is a digit and a new line. -/
def read (s : PollSt) (fd : ValFd) : ℤ × PollSt :=
  if e.reads s.calls ∧ s.sysfs.Live fd then
    if s.behind fd.gpio then (0, s.next e)
    else (2, { s.next e with
      seen := Function.update s.seen fd.gpio (some (s.next e).now)
      behind := Function.update s.behind fd.gpio true })
  else (-1, s.next e)

/-- The value file is ready: there is an event its descriptor has not seen, or an error, if the
GPIO was unexported. -/
def Pending (s : PollSt) (fd : ValFd) : Prop :=
  ¬ s.sysfs.Live fd ∨
    (s.seen fd.gpio).map (e.events fd.gpio) ≠ some (e.events fd.gpio s.now)

instance (s : PollSt) (fd : ValFd) : Decidable (s.Pending e fd) :=
  inferInstanceAs (Decidable (_ ∨ _))

/-- A microsecond of waiting, with what is left of the time-out, if there is one. -/
def pollRound (fd : ValFd) (x : Option ℕ × PollSt) : (Option ℕ × PollSt) ⊕ (ℤ × PollSt) :=
  if x.2.Pending e fd then .inr (1, x.2)
  else if x.1 = some 0 then .inr (0, x.2)
  else .inl (x.1.map (· - 1), { x.2 with now := x.2.now + 1 })

/-- `poll` of a value file; it is without an end if `timeout` is negative. -/
def poll (fuel : ℕ) (s : PollSt) (fd : ValFd) (timeout : ℤ) : Option (ℤ × PollSt) :=
  if e.polls s.calls then
    Loop.run (pollRound e fd) fuel
      (if timeout < 0 then none else some (1000 * timeout.toNat), s.next e)
  else some (-1, s.next e)

/-- A round of the loop that purges the descriptor from pending data. -/
def purgeRound (fd : ValFd) (s : PollSt) : PollSt ⊕ PollSt :=
  if 0 < (s.read e fd).1 then .inl (s.read e fd).2 else .inr (s.read e fd).2

end PollSt

/-- `gpio_sysfs_poll`; its loops run for at most `fuel` rounds. -/
def gpioSysfsPoll (fuel : ℕ) (s : PollSt) (gpio : ℕ) (timeout : ℤ) : Option (LrErrc × PollSt) :=
  if gpioNum ≤ gpio then some (.invArg, s)
  else match s.hndl.valfds gpio with
    | none => some (.noinit, s)
    | some fd =>
      (Loop.run (PollSt.purgeRound e fd) fuel (s.lseek e fd)).bind fun s' =>
        (s'.poll e fuel fd timeout).map fun r =>
          (if r.1 < 0 then .pollErr else if r.1 = 0 then .timeout else .success, r.2)

/-- A poll: when its descriptor was read, when it returned, which was its last system call, and what
it returned. -/
structure PollReport where
  gpio : ℕ
  timeout : ℤ
  since : ℕ
  upto : ℕ
  call : ℕ
  ret : LrErrc

/-- The report of a poll that returned. A poll that is refused at once reads no descriptor. -/
def pollReport (p : ℕ × ℤ) (r : LrErrc × PollSt) : PollReport where
  gpio := p.1
  timeout := p.2
  since := if r.1 = .invArg ∨ r.1 = .noinit then r.2.now else (r.2.seen p.1).getD r.2.now
  upto := r.2.now
  call := r.2.calls - 1
  ret := r.1

/-- A state with the reports of the polls so far. -/
structure PollHist where
  st : PollSt
  reports : List PollReport

/-- The polls as a transition system. -/
def pollStep (fuel : ℕ) (s : PollHist) (p : ℕ × ℤ) : Option PollHist :=
  (gpioSysfsPoll e fuel s.st p.1 p.2).map fun r => ⟨r.2, s.reports ++ [pollReport p r]⟩

/-- What a poll tells: of its GPIO, of its descriptor, of the system call, or of the events since
its first read. -/
def PollReport.Tells (hndl : GpioHndl) (r : PollReport) : Prop :=
  if gpioNum ≤ r.gpio then r.ret = .invArg
  else if hndl.valfds r.gpio = none then r.ret = .noinit
  else if e.polls r.call = false then r.ret = .pollErr
  else
    (r.ret = .success ∧ e.events r.gpio r.since < e.events r.gpio r.upto) ∨
      (r.ret = .timeout ∧ e.events r.gpio r.since = e.events r.gpio r.upto ∧ 0 ≤ r.timeout ∧
        r.since + 1000 * r.timeout.toNat ≤ r.upto)

/-- The polls that have reported an event of a GPIO. -/
def PollHist.told (s : PollHist) (g : ℕ) : ℕ :=
  (s.reports.filter fun r => r.gpio = g ∧ r.ret = .success).length

end Model

/-! ### The purge -/

namespace PollSt

variable {e : PollEnv} {s : PollSt} {fd : ValFd}

/-- Later, with the same handle and the same exports. -/
structure Later (s s' : PollSt) : Prop where
  hndl : s'.hndl = s.hndl
  sysfs : s'.sysfs = s.sysfs
  now : s.now ≤ s'.now

theorem Later.refl (s : PollSt) : s.Later s := ⟨rfl, rfl, le_rfl⟩

theorem Later.trans {s' s'' : PollSt} (h : s.Later s') (h' : s'.Later s'') : s.Later s'' :=
  ⟨h'.hndl.trans h.hndl, h'.sysfs.trans h.sysfs, h.now.trans h'.now⟩

theorem later_next (e : PollEnv) (s : PollSt) : s.Later (s.next e) :=
  ⟨rfl, rfl, Nat.le_add_right _ _⟩

theorem later_lseek (e : PollEnv) (s : PollSt) (fd : ValFd) : s.Later (s.lseek e fd) :=
  ⟨rfl, rfl, Nat.le_add_right _ _⟩

/-- The first read of the purge sees the events so far. -/
theorem read_first (hread : e.reads s.calls = true) (hlive : s.sysfs.Live fd)
    (hfront : s.behind fd.gpio = false) :
    s.read e fd = (2, { s.next e with
      seen := Function.update s.seen fd.gpio (some (s.next e).now)
      behind := Function.update s.behind fd.gpio true }) := by
  rw [read, if_pos ⟨hread, hlive⟩, if_neg (by simp [hfront])]

theorem read_behind (hread : e.reads s.calls = true) (hlive : s.sysfs.Live fd)
    (hbehind : s.behind fd.gpio = true) : s.read e fd = (0, s.next e) := by
  rw [read, if_pos ⟨hread, hlive⟩, if_pos hbehind]

/-- **The purge** leaves the descriptor with the events seen up to its first read. It reads until
there is nothing more to read, which is in its second round; events that occur after the first
read are still to be seen. -/
theorem purge_run (hreads : ∀ n, e.reads n = true) (hlive : s.sysfs.Live fd) :
    ∃ s' t, (∀ fuel ≥ 2, Loop.run (purgeRound e fd) fuel (s.lseek e fd) = some s') ∧
      s.Later s' ∧ s'.seen fd.gpio = some t ∧ s.now ≤ t ∧ t ≤ s'.now := by
  obtain ⟨s₁, hs₁⟩ : ∃ s₁, s₁ = s.lseek e fd := ⟨_, rfl⟩
  have hfront : s₁.behind fd.gpio = false := by
    rw [hs₁]
    exact Function.update_self ..
  have hlater₁ : s.Later s₁ := hs₁ ▸ later_lseek e s fd
  have hread₁ := read_first (hreads s₁.calls) (hlater₁.sysfs ▸ hlive) hfront
  obtain ⟨s₂, hs₂⟩ : ∃ s₂, s₂ = (s₁.read e fd).2 := ⟨_, rfl⟩
  have hstate₂ := hs₂
  rw [hread₁] at hstate₂
  have hlater₂ : s₁.Later s₂ := by
    rw [hstate₂]
    exact ⟨rfl, rfl, (later_next e s₁).now⟩
  have hseen : s₂.seen fd.gpio = some s₂.now := by
    rw [hstate₂]
    exact Function.update_self ..
  have hbehind : s₂.behind fd.gpio = true := by
    rw [hstate₂]
    exact Function.update_self ..
  have hread₂ := read_behind (hreads s₂.calls) ((hlater₁.trans hlater₂).sysfs ▸ hlive) hbehind
  have hlater₃ := later_next e s₂
  refine ⟨s₂.next e, s₂.now, fun fuel hfuel => ?_, (hlater₁.trans hlater₂).trans hlater₃, hseen,
    (hlater₁.trans hlater₂).now, hlater₃.now⟩
  obtain ⟨fuel, rfl⟩ : ∃ k, fuel = k + 2 := ⟨fuel - 2, by omega⟩
  have hround₁ : purgeRound e fd s₁ = .inl s₂ := by
    rw [purgeRound, ← hs₂, hread₁]
    rfl
  have hround₂ : purgeRound e fd s₂ = .inr (s₂.next e) := by
    rw [purgeRound, hread₂]
    rfl
  rw [← hs₁, Loop.run_succ_of_inl hround₁, Loop.run_succ_of_inr hround₂]

/-! ### The wait -/

/-- Nothing has come while the poll waits, since the descriptor was read. -/
structure Waits (e : PollEnv) (fd : ValFd) (s : PollSt) (limit : Option ℕ)
    (x : Option ℕ × PollSt) : Prop where
  later : s.Later x.2
  seen : x.2.seen = s.seen
  calls : x.2.calls = s.calls
  left : x.1 = limit.map fun n => n - (x.2.now - s.now)
  within : ∀ n, limit = some n → x.2.now - s.now ≤ n

theorem Waits.start (e : PollEnv) (fd : ValFd) (s : PollSt) (limit : Option ℕ) :
    Waits e fd s limit (limit, s) :=
  ⟨.refl s, rfl, rfl, by simp, fun n _ => by simp⟩

theorem Waits.round {limit : Option ℕ} {x x' : Option ℕ × PollSt} (hx : Waits e fd s limit x)
    (h : pollRound e fd x = .inl x') : Waits e fd s limit x' ∧ x'.2.now = x.2.now + 1 := by
  rw [pollRound] at h
  by_cases hpending : x.2.Pending e fd
  · rw [if_pos hpending] at h
    exact absurd h (by simp)
  rw [if_neg hpending] at h
  by_cases hleft : x.1 = some 0
  · rw [if_pos hleft] at h
    exact absurd h (by simp)
  rw [if_neg hleft] at h
  obtain rfl := Sum.inl.inj h
  have hnow := hx.later.now
  refine ⟨⟨⟨hx.later.hndl, hx.later.sysfs, hnow.trans (Nat.le_succ _)⟩, hx.seen, hx.calls, ?_, ?_⟩,
    rfl⟩
  · dsimp only
    rw [hx.left, Option.map_map]
    congr 1
    funext n
    simp only [Function.comp]
    omega
  · intro n hn
    have hwithin := hx.within n hn
    have hne : n - (x.2.now - s.now) ≠ 0 := by
      intro h0
      rw [hx.left, hn, Option.map_some, h0] at hleft
      exact hleft rfl
    dsimp only
    omega

/-- **The wait**, of a descriptor that was read, ends by an event or by the time-out. The
invariant is `Waits`: nothing has come so far, and what is left of the time-out is what has
not gone by. -/
theorem pollRound_leaves {limit : Option ℕ} {t : ℕ} (hlive : s.sysfs.Live fd)
    (hseen : s.seen fd.gpio = some t) {fuel : ℕ} {r : ℤ × PollSt}
    (hrun : Loop.run (pollRound e fd) fuel (limit, s) = some r) :
    s.Later r.2 ∧ r.2.seen = s.seen ∧ r.2.calls = s.calls ∧
      ((r.1 = 1 ∧ e.events fd.gpio t ≠ e.events fd.gpio r.2.now) ∨
        (r.1 = 0 ∧ e.events fd.gpio t = e.events fd.gpio r.2.now ∧
          ∃ n, limit = some n ∧ r.2.now = s.now + n)) := by
  obtain ⟨x, hx, hleave⟩ := Loop.run_invariant (I := Waits e fd s limit)
    (fun _ _ hx hstay => (hx.round hstay).1) (.start e fd s limit) hrun
  have hseen' : x.2.seen fd.gpio = some t := by rw [hx.seen, hseen]
  have hlive' : x.2.sysfs.Live fd := hx.later.sysfs ▸ hlive
  have hpending_iff : x.2.Pending e fd ↔ e.events fd.gpio t ≠ e.events fd.gpio x.2.now := by
    rw [Pending, hseen', Option.map_some, or_iff_right (not_not.mpr hlive')]
    exact not_congr Option.some_inj
  rw [pollRound] at hleave
  by_cases hpending : x.2.Pending e fd
  · rw [if_pos hpending] at hleave
    obtain rfl := Sum.inr.inj hleave
    exact ⟨hx.later, hx.seen, hx.calls, Or.inl ⟨rfl, hpending_iff.mp hpending⟩⟩
  rw [if_neg hpending] at hleave
  by_cases hleft : x.1 = some 0
  · rw [if_pos hleft] at hleave
    obtain rfl := Sum.inr.inj hleave
    refine ⟨hx.later, hx.seen, hx.calls, Or.inr ⟨rfl, not_not.mp fun hne => ?_, ?_⟩⟩
    · exact hpending (hpending_iff.mpr hne)
    · obtain ⟨n, hn, h0⟩ := Option.map_eq_some_iff.mp (hx.left.symm.trans hleft)
      have hwithin := hx.within n hn
      have hnow := hx.later.now
      exact ⟨n, hn, by dsimp only; omega⟩
  · rw [if_neg hleft] at hleave
    exact absurd hleave (by simp)

/-- It does end if there is a time-out, or an event is still to come. -/
theorem pollRound_ends {limit : Option ℕ} {t : ℕ} (hseen : s.seen fd.gpio = some t)
    (hends : limit.isSome = true ∨ ∃ u, e.events fd.gpio t < e.events fd.gpio u) :
    ∃ fuel r, Loop.run (pollRound e fd) fuel (limit, s) = some r := by
  obtain ⟨u, hu⟩ : ∃ u, ∀ x, Waits e fd s limit x → u ≤ x.2.now →
      x.2.Pending e fd ∨ x.1 = some 0 := by
    rcases hends with hleft | ⟨u, hu⟩
    · obtain ⟨n, rfl⟩ := Option.isSome_iff_exists.mp hleft
      refine ⟨s.now + n, fun x hx hnow => Or.inr ?_⟩
      rw [hx.left, Option.map_some]
      exact congrArg some (by omega)
    · refine ⟨u, fun x hx hnow => Or.inl (Or.inr ?_)⟩
      rw [hx.seen, hseen, Option.map_some]
      intro heq
      have hmono := (e.events fd.gpio).monotone hnow
      have hsame := Option.some.inj heq
      omega
  have hround : ∀ x x', Waits e fd s limit x → pollRound e fd x = .inl x' →
      Waits e fd s limit x' ∧ True ∧ u - x'.2.now < u - x.2.now := by
    intro x x' hx hstay
    obtain ⟨hx', hnow⟩ := hx.round hstay
    refine ⟨hx', trivial, ?_⟩
    have hlt : x.2.now < u := by
      refine not_le.mp fun hle => ?_
      rw [pollRound] at hstay
      rcases hu x hx hle with hpending | hleft
      · rw [if_pos hpending] at hstay
        exact absurd hstay (by simp)
      · by_cases hpending : x.2.Pending e fd
        · rw [if_pos hpending] at hstay
          exact absurd hstay (by simp)
        · rw [if_neg hpending, if_pos hleft] at hstay
          exact absurd hstay (by simp)
    omega
  exact (Loop.ends_of_invariant (fun x => u - x.2.now) hround (.start e fd s limit)).leaves

/-- The descriptors of the handle are those of the GPIOs they are kept for, and work. -/
def Opened (s : PollSt) : Prop :=
  ∀ g < gpioNum, ∀ fd, s.hndl.valfds g = some fd → fd.gpio = g ∧ s.sysfs.Live fd

theorem Opened.later {s' : PollSt} (h : s.Opened) (hlater : s.Later s') : s'.Opened := by
  intro g hg fd hfd
  rw [hlater.sysfs]
  exact h g hg fd (hlater.hndl ▸ hfd)

/-- So they are when no GPIO was unexported while its descriptor was open. -/
theorem opened_of_sysfsInv {x : SysfsSt} (hx : SysfsInv x) (hhndl : s.hndl = x.st.hndl)
    (hsysfs : s.sysfs = x.st.sysfs) : s.Opened := by
  intro g hg fd hfd
  rw [hsysfs]
  exact hx.live g hg fd (hhndl ▸ hfd)

end PollSt

/-! ### A poll -/

section Poll

variable {e : PollEnv} {s : PollSt} {g : ℕ} {timeout : ℤ}

/-- What the purge and the poll do for a GPIO with a descriptor. -/
theorem gpioSysfsPoll_of_fd {fd : ValFd} (hg : g < gpioNum) (hfd : s.hndl.valfds g = some fd)
    (fuel : ℕ) : gpioSysfsPoll e fuel s g timeout =
      (Loop.run (PollSt.purgeRound e fd) fuel (s.lseek e fd)).bind fun s' =>
        (s'.poll e fuel fd timeout).map fun r =>
          (if r.1 < 0 then .pollErr else if r.1 = 0 then .timeout else .success, r.2) := by
  rw [gpioSysfsPoll, if_neg (not_le.mpr hg), hfd]

namespace PollReport

variable {hndl : GpioHndl} {r : PollReport}

theorem tells_invArg (hg : gpioNum ≤ r.gpio) (hret : r.ret = .invArg) : r.Tells e hndl := by
  rw [Tells, if_pos hg]
  exact hret

theorem tells_noinit (hg : ¬ gpioNum ≤ r.gpio) (hfd : hndl.valfds r.gpio = none)
    (hret : r.ret = .noinit) : r.Tells e hndl := by
  rw [Tells, if_neg hg, if_pos hfd]
  exact hret

theorem tells_pollErr (hg : ¬ gpioNum ≤ r.gpio) (hfd : hndl.valfds r.gpio ≠ none)
    (hcall : e.polls r.call = false) (hret : r.ret = .pollErr) : r.Tells e hndl := by
  rw [Tells, if_neg hg, if_neg hfd, if_pos hcall]
  exact hret

theorem tells_polled (hg : ¬ gpioNum ≤ r.gpio) (hfd : hndl.valfds r.gpio ≠ none)
    (hcall : e.polls r.call = true)
    (h : (r.ret = .success ∧ e.events r.gpio r.since < e.events r.gpio r.upto) ∨
      (r.ret = .timeout ∧ e.events r.gpio r.since = e.events r.gpio r.upto ∧ 0 ≤ r.timeout ∧
        r.since + 1000 * r.timeout.toNat ≤ r.upto)) : r.Tells e hndl := by
  rw [Tells, if_neg hg, if_neg hfd, if_neg (by rw [hcall]; decide)]
  exact h

/-- There was an event if one is reported. -/
theorem Tells.event (h : r.Tells e hndl) (hret : r.ret = .success) :
    e.events r.gpio r.since < e.events r.gpio r.upto := by
  rw [Tells, hret] at h
  split_ifs at h
  rcases h with ⟨-, hlt⟩ | ⟨htimeout, -⟩
  · exact hlt
  · exact absurd htimeout (by decide)

end PollReport

/-- What a poll leaves behind. -/
structure Polled (e : PollEnv) (s : PollSt) (p : ℕ × ℤ) (r : LrErrc × PollSt) : Prop where
  later : s.Later r.2
  since : s.now ≤ (pollReport p r).since
  within : (pollReport p r).since ≤ r.2.now
  tells : (pollReport p r).Tells e s.hndl

/-- A poll that is refused at once. -/
theorem Polled.refused {p : ℕ × ℤ} {ret : LrErrc} (hret : ret = .invArg ∨ ret = .noinit)
    (htells : (pollReport p (ret, s)).Tells e s.hndl) : Polled e s p (ret, s) := by
  have hsince : (pollReport p (ret, s)).since = s.now := if_pos hret
  exact ⟨.refl s, hsince.ge, hsince.le, htells⟩

/-- A poll of a GPIO with a descriptor, which was read. -/
theorem Polled.asked {p : ℕ × ℤ} {r : LrErrc × PollSt} {t : ℕ} (hlater : s.Later r.2)
    (hret : ¬ (r.1 = .invArg ∨ r.1 = .noinit)) (hseen : r.2.seen p.1 = some t) (hle : s.now ≤ t)
    (hle' : t ≤ r.2.now)
    (htells : (pollReport p r).since = t → (pollReport p r).Tells e s.hndl) : Polled e s p r := by
  have hsince : (pollReport p r).since = t := by
    refine (if_neg hret).trans ?_
    rw [hseen, Option.getD_some]
  exact ⟨hlater, by rw [hsince]; exact hle, by rw [hsince]; exact hle', htells hsince⟩

/-- The `poll` call, after the purge has read the value at the time `t`. A call that is granted leaves
with an event since then, or when the time-out is over without one. -/
theorem PollSt.poll_polled {fd : ValFd} (hg : fd.gpio < gpioNum)
    (hfd : s.hndl.valfds fd.gpio = some fd) (hlive : s.sysfs.Live fd) {s₁ : PollSt} {t : ℕ}
    (hlater : s.Later s₁) (hseen₁ : s₁.seen fd.gpio = some t) (hle : s.now ≤ t) (hle₁ : t ≤ s₁.now)
    {fuel : ℕ} {x : ℤ × PollSt} (hx : s₁.poll e fuel fd timeout = some x) :
    Polled e s (fd.gpio, timeout)
      (if x.1 < 0 then .pollErr else if x.1 = 0 then .timeout else .success, x.2) := by
  have hfd' : s.hndl.valfds fd.gpio ≠ none := by
    rw [hfd]
    exact Option.some_ne_none fd
  have hlater₂ := PollSt.later_next e s₁
  rw [PollSt.poll] at hx
  by_cases hgranted : e.polls s₁.calls = true
  · rw [if_pos hgranted] at hx
    obtain ⟨hlater₃, hseen₃, hcalls, hleft⟩ := PollSt.pollRound_leaves
      ((hlater.trans hlater₂).sysfs ▸ hlive)
      (show (s₁.next e).seen fd.gpio = some t from hseen₁) hx
    have hseen : x.2.seen fd.gpio = some t := by rw [hseen₃]; exact hseen₁
    have hupto : t ≤ x.2.now := hle₁.trans (hlater₂.trans hlater₃).now
    have hmono := (e.events fd.gpio).monotone hupto
    have hcall : e.polls (x.2.calls - 1) = true := by
      rw [hcalls]
      exact hgranted
    refine .asked ((hlater.trans hlater₂).trans hlater₃) ?_ hseen hle hupto fun hsince => ?_
    · dsimp only
      split_ifs <;> decide
    refine PollReport.tells_polled (not_le.mpr hg) hfd' hcall ?_
    rw [hsince]
    rcases hleft with ⟨h1, hne⟩ | ⟨h0, hsame, n, hn, hnow⟩
    · refine Or.inl ⟨?_, lt_of_le_of_ne hmono hne⟩
      dsimp only [pollReport]
      rw [h1]
      rfl
    · have hpos : 0 ≤ timeout := by
        refine not_lt.mp fun hneg => ?_
        rw [if_pos hneg] at hn
        exact absurd hn (by simp)
      rw [if_neg (not_lt.mpr hpos)] at hn
      obtain rfl := Option.some.inj hn
      refine Or.inr ⟨?_, hsame, hpos, ?_⟩
      · dsimp only [pollReport]
        rw [h0]
        rfl
      · have hnext := hlater₂.now
        show t + 1000 * timeout.toNat ≤ x.2.now
        omega
  · rw [if_neg hgranted] at hx
    obtain rfl := Option.some.inj hx
    have hcall : e.polls ((s₁.next e).calls - 1) = false := Bool.eq_false_iff.mpr hgranted
    have hret : ¬ (LrErrc.pollErr = .invArg ∨ LrErrc.pollErr = .noinit) := by decide
    exact .asked (hlater.trans hlater₂) hret hseen₁ hle (hle₁.trans hlater₂.now)
      fun _ => PollReport.tells_pollErr (not_le.mpr hg) hfd' hcall rfl

/-- **A poll** tells the right thing. It is refused for a GPIO out of range or without a descriptor;
else the value is read until nothing is pending, and what comes of the `poll` call is told. -/
theorem gpioSysfsPoll_polled (hreads : ∀ n, e.reads n = true) (hopened : s.Opened) {fuel : ℕ}
    {r : LrErrc × PollSt} (h : gpioSysfsPoll e fuel s g timeout = some r) :
    Polled e s (g, timeout) r := by
  by_cases hg : gpioNum ≤ g
  · rw [gpioSysfsPoll, if_pos hg] at h
    obtain rfl := Option.some.inj h
    exact .refused (Or.inl rfl) (PollReport.tells_invArg hg rfl)
  rcases hfd : s.hndl.valfds g with _ | fd
  · rw [gpioSysfsPoll, if_neg hg, hfd] at h
    obtain rfl := Option.some.inj h
    exact .refused (Or.inr rfl) (PollReport.tells_noinit hg hfd rfl)
  obtain ⟨rfl, hlive⟩ := hopened g (not_le.mp hg) fd hfd
  obtain ⟨s₁, t, hpurge, hlater₁, hseen₁, hle, hle₁⟩ := PollSt.purge_run hreads hlive
  rw [gpioSysfsPoll_of_fd (not_le.mp hg) hfd] at h
  obtain ⟨s₂, hs₂, h⟩ := Option.bind_eq_some_iff.mp h
  obtain rfl : s₁ = s₂ := by
    have hmax := Loop.run_eq_some_of_le hs₂ (le_max_left fuel 2)
    exact Option.some.inj ((hpurge _ (le_max_right fuel 2)).symm.trans hmax)
  obtain ⟨x, hx, rfl⟩ := Option.map_eq_some_iff.mp h
  exact PollSt.poll_polled (not_le.mp hg) hfd hlive hlater₁ hseen₁ hle hle₁ hx

/-- A poll with a time-out returns, and one without when an event is still to come. The fuel it
takes is the time-out, or the time to the event. -/
theorem gpioSysfsPoll_returns (hreads : ∀ n, e.reads n = true) (hopened : s.Opened)
    (hends : 0 ≤ timeout ∨ ∀ t, ∃ u, e.events g t < e.events g u) :
    ∃ fuel₀ r, ∀ fuel ≥ fuel₀, gpioSysfsPoll e fuel s g timeout = some r := by
  by_cases hrefused : gpioNum ≤ g ∨ s.hndl.valfds g = none
  · by_cases hg : gpioNum ≤ g
    · exact ⟨0, (.invArg, s), fun fuel _ => by rw [gpioSysfsPoll, if_pos hg]⟩
    · refine ⟨0, (.noinit, s), fun fuel _ => ?_⟩
      rw [gpioSysfsPoll, if_neg hg, hrefused.resolve_left hg]
  rw [not_or, not_le] at hrefused
  obtain ⟨hg, hne⟩ := hrefused
  obtain ⟨fd, hfd⟩ := Option.ne_none_iff_exists'.mp hne
  obtain ⟨rfl, hlive⟩ := hopened g hg fd hfd
  obtain ⟨s₁, t, hpurge, -, hseen₁, -, -⟩ := PollSt.purge_run hreads hlive
  obtain ⟨fuel₁, r, hpoll⟩ : ∃ fuel₁ r, ∀ fuel ≥ fuel₁, s₁.poll e fuel fd timeout = some r := by
    by_cases hgranted : e.polls s₁.calls = true
    · have hlimit : (if timeout < 0 then none else some (1000 * timeout.toNat)).isSome = true ∨
          ∃ u, e.events fd.gpio t < e.events fd.gpio u := by
        rcases hends with hpos | hmore
        · rw [if_neg (not_lt.mpr hpos)]
          exact Or.inl rfl
        · exact Or.inr (hmore t)
      obtain ⟨fuel₁, r, hrun⟩ := PollSt.pollRound_ends (s := s₁.next e) hseen₁ hlimit
      refine ⟨fuel₁, r, fun fuel hfuel => ?_⟩
      rw [PollSt.poll, if_pos hgranted]
      exact Loop.run_eq_some_of_le hrun hfuel
    · refine ⟨0, (-1, s₁.next e), fun fuel _ => ?_⟩
      rw [PollSt.poll, if_neg hgranted]
  refine ⟨max 2 fuel₁,
    (if r.1 < 0 then .pollErr else if r.1 = 0 then .timeout else .success, r.2),
    fun fuel hfuel => ?_⟩
  rw [gpioSysfsPoll_of_fd hg hfd, hpurge fuel ((le_max_left _ _).trans hfuel), Option.bind_some,
    hpoll fuel ((le_max_right _ _).trans hfuel), Option.map_some]

end Poll

/-! ### Runs of polls -/

section Runs

variable {e : PollEnv} {s : PollSt} {h h' : PollHist} {fuel : ℕ}

/-- What the reports so far tell. -/
structure PollInv (e : PollEnv) (s : PollSt) (h : PollHist) : Prop where
  later : s.Later h.st
  apart : h.reports.Pairwise fun a b => a.upto ≤ b.since
  before : ∀ r ∈ h.reports, r.since ≤ r.upto ∧ r.upto ≤ h.st.now
  tells : ∀ r ∈ h.reports, r.Tells e s.hndl
  told : ∀ g, e.events g s.now + h.told g ≤ e.events g h.st.now

theorem pollInv_start (e : PollEnv) (s : PollSt) : PollInv e s ⟨s, []⟩ where
  later := .refl s
  apart := List.Pairwise.nil
  before _ hr := absurd hr List.not_mem_nil
  tells _ hr := absurd hr List.not_mem_nil
  told _ := le_rfl

/-- A report of an event adds one to the events that have been reported. -/
theorem PollHist.told_append (h : PollHist) (r : PollReport) (g : ℕ) :
    (⟨h.st, h.reports ++ [r]⟩ : PollHist).told g =
      h.told g + if r.gpio = g ∧ r.ret = .success then 1 else 0 := by
  rw [PollHist.told, PollHist.told, List.filter_append, List.length_append]
  congr 1
  by_cases hr : r.gpio = g ∧ r.ret = .success
  · rw [if_pos hr, List.filter_singleton, decide_eq_true hr]
    rfl
  · rw [if_neg hr, List.filter_singleton, decide_eq_false hr]
    rfl

theorem PollInv.step (hreads : ∀ n, e.reads n = true) (hopened : s.Opened)
    (hinv : PollInv e s h) {p : ℕ × ℤ} (hstep : pollStep e fuel h p = some h') :
    PollInv e s h' := by
  obtain ⟨r, hpoll, rfl⟩ := Option.map_eq_some_iff.mp hstep
  have hpolled : Polled e h.st p r :=
    gpioSysfsPoll_polled hreads (hopened.later hinv.later) hpoll
  have hmem : ∀ x, x ∈ h.reports ++ [pollReport p r] → x ∈ h.reports ∨ x = pollReport p r :=
    fun x hx => (List.mem_append.mp hx).imp_right List.mem_singleton.mp
  refine ⟨hinv.later.trans hpolled.later, ?_, fun x hx => ?_, fun x hx => ?_, fun g => ?_⟩
  · refine List.pairwise_append.mpr ⟨hinv.apart, List.pairwise_singleton _ _, ?_⟩
    intro a ha b hb
    obtain rfl := List.mem_singleton.mp hb
    exact (hinv.before a ha).2.trans hpolled.since
  · rcases hmem x hx with hx | rfl
    · exact ⟨(hinv.before x hx).1, (hinv.before x hx).2.trans hpolled.later.now⟩
    · exact ⟨hpolled.within, le_rfl⟩
  · rcases hmem x hx with hx | rfl
    · exact hinv.tells x hx
    · have htells := hpolled.tells
      rwa [hinv.later.hndl] at htells
  · have htold := hinv.told g
    have hsince := (e.events g).monotone hpolled.since
    have hlater := (e.events g).monotone hpolled.later.now
    have hcount : (⟨r.2, h.reports ++ [pollReport p r]⟩ : PollHist).told g = _ :=
      PollHist.told_append h (pollReport p r) g
    rw [hcount]
    split_ifs with hr
    · -- the event is after all that was reported before
      have hlt := hpolled.tells.event hr.2
      rw [hr.1] at hlt
      have hupto : (pollReport p r).upto = r.2.now := rfl
      rw [hupto] at hlt
      dsimp only
      omega
    · dsimp only
      omega

/-- There is a report of each poll, in their order. -/
theorem pollStep_run_reports {polls : List (ℕ × ℤ)}
    (hrun : Run.run (pollStep e fuel) h polls = some h') :
    h'.reports.map (fun r => (r.gpio, r.timeout)) =
      h.reports.map (fun r => (r.gpio, r.timeout)) ++ polls := by
  induction polls generalizing h with
  | nil =>
    obtain rfl := Option.some.inj hrun
    exact (List.append_nil _).symm
  | cons p polls ih =>
    obtain ⟨h₁, hstep, hrest⟩ := Option.bind_eq_some_iff.mp hrun
    obtain ⟨r, -, rfl⟩ := Option.map_eq_some_iff.mp hstep
    rw [ih hrest, List.map_append, List.append_assoc]
    rfl

/-- Polls that return make a run. -/
theorem pollStep_run_returns (hreads : ∀ n, e.reads n = true) (hopened : s.Opened)
    {polls : List (ℕ × ℤ)}
    (hends : ∀ p ∈ polls, 0 ≤ p.2 ∨ ∀ t, ∃ u, e.events p.1 t < e.events p.1 u)
    (hinv : PollInv e s h) :
    ∃ fuel₀, ∀ fuel ≥ fuel₀, ∃ h', Run.run (pollStep e fuel) h polls = some h' := by
  induction polls generalizing h with
  | nil => exact ⟨0, fun fuel _ => ⟨h, rfl⟩⟩
  | cons p polls ih =>
    obtain ⟨fuel₁, r, hreturns⟩ : ∃ fuel₁ r, ∀ fuel ≥ fuel₁,
        gpioSysfsPoll e fuel h.st p.1 p.2 = some r :=
      gpioSysfsPoll_returns hreads (hopened.later hinv.later) (hends p (List.mem_cons_self ..))
    obtain ⟨h₁, hh₁⟩ : ∃ h₁, ∀ fuel ≥ fuel₁, pollStep e fuel h p = some h₁ :=
      ⟨_, fun fuel hfuel => by rw [pollStep, hreturns fuel hfuel, Option.map_some]⟩
    obtain ⟨fuel₂, hrun⟩ := ih (fun q hq => hends q (List.mem_cons_of_mem _ hq))
      (hinv.step hreads hopened (hh₁ fuel₁ le_rfl))
    refine ⟨max fuel₁ fuel₂, fun fuel hfuel => ?_⟩
    obtain ⟨h', hh'⟩ := hrun fuel ((le_max_right _ _).trans hfuel)
    exact ⟨h', (Run.run_cons (hh₁ fuel ((le_max_left _ _).trans hfuel)) polls).trans hh'⟩

/-- **Polling.** Any polls, whose reads are granted, with a time-out or for events that keep coming:
they return, there is one report of each, and it tells what the poll is to tell. A bad GPIO and one
without a descriptor are refused, a system call that is not granted is told of, and every other poll
tells whether there was an event since its own first read. As these times do not overlap no event is
reported by two polls. -/
theorem polls_report (hreads : ∀ n, e.reads n = true) (hopened : s.Opened)
    {polls : List (ℕ × ℤ)}
    (hends : ∀ p ∈ polls, 0 ≤ p.2 ∨ ∀ t, ∃ u, e.events p.1 t < e.events p.1 u) :
    ∃ fuel₀, ∀ fuel ≥ fuel₀, ∃ h, Run.run (pollStep e fuel) ⟨s, []⟩ polls = some h ∧
      h.reports.map (fun r => (r.gpio, r.timeout)) = polls ∧
      (∀ r ∈ h.reports, r.Tells e s.hndl ∧ r.since ≤ r.upto) ∧
      h.reports.Pairwise (fun a b => a.upto ≤ b.since) ∧
      ∀ g, e.events g s.now + h.told g ≤ e.events g h.st.now := by
  obtain ⟨fuel₀, hrun⟩ := pollStep_run_returns hreads hopened hends (pollInv_start e s)
  refine ⟨fuel₀, fun fuel hfuel => ?_⟩
  obtain ⟨h, hh⟩ := hrun fuel hfuel
  have hinv : PollInv e s h := Run.run_invariant
    (fun _ _ _ hs _ hstep => hs.step hreads hopened hstep) (pollInv_start e s)
    (Run.meets_true _ polls) hh
  exact ⟨h, hh, pollStep_run_reports hh, fun r hr => ⟨hinv.tells r hr, (hinv.before r hr).1⟩,
    hinv.apart, hinv.told⟩

end Runs

/-! ### An event every millisecond -/

section Regular

/-- GPIO 22 is exported and set as an input. -/
def pollSysfs : SysfsSt :=
  ((sysfsInit ⟨true, true⟩ ⟨fun _ => 0, [], false⟩
    ⟨fun _ => false, fun _ => 0, fun _ => false, fun _ => false⟩).after
      (.sysfsExport ⟨true, .done⟩ 22)).after (.directionInput ⟨true, true, true, true⟩ 22)

theorem sysfsInv_pollSysfs : SysfsInv pollSysfs := by
  have hexported := (cached_after_iff (sysfsInv_init ⟨true, true⟩ ⟨fun _ => 0, [], false⟩
    ⟨fun _ => false, fun _ => 0, fun _ => false, fun _ => false⟩)
    (.sysfsExport ⟨true, .done⟩ 22)).2 trivial
  exact (cached_after_iff hexported (.directionInput ⟨true, true, true, true⟩ 22)).2 fun _ => rfl

/-- Each GPIO has an event every millisecond, and a system call takes 100 microseconds. -/
def pollRegular : PollEnv :=
  ⟨fun _ => ⟨fun t => t / 1000, fun _ _ h => Nat.div_le_div_right h⟩, fun _ => 100,
    fun _ => true, fun _ => true⟩

/-- Polls with and without an end, and one of a GPIO that does not exist. -/
theorem polls_report_regular :
    ∃ fuel₀, ∀ fuel ≥ fuel₀, ∃ h, Run.run (pollStep pollRegular fuel)
        ⟨⟨pollSysfs.st.hndl, pollSysfs.st.sysfs, 0, 0, fun _ => none, fun _ => false⟩, []⟩
        [(22, 10), (22, -1), (99, 0), (22, 0)] = some h ∧
      h.reports.map (fun r => (r.gpio, r.timeout)) = [(22, 10), (22, -1), (99, 0), (22, 0)] ∧
      (∀ r ∈ h.reports, r.Tells pollRegular pollSysfs.st.hndl ∧ r.since ≤ r.upto) ∧
      h.reports.Pairwise (fun a b => a.upto ≤ b.since) ∧
      ∀ g, pollRegular.events g 0 + h.told g ≤ pollRegular.events g h.st.now := by
  have hmore : ∀ g t, ∃ u, pollRegular.events g t < pollRegular.events g u := by
    intro g t
    refine ⟨t + 1000, ?_⟩
    show t / 1000 < (t + 1000) / 1000
    omega
  exact polls_report (fun _ => rfl) (PollSt.opened_of_sysfsInv sysfsInv_pollSysfs rfl rfl)
    fun p _ => Or.inr (hmore p.1)

end Regular

end Librasp
