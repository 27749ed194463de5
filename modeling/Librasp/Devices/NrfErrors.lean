import Librasp.Devices.NrfHal

/-!
# Failing transfers

`errno` tells of the last transfer only. So a function has to look at it after each transfer, and
must not go on after one that failed (`Checked`). Where it does not look after a read, the write
that follows carries what the failed read left in the buffer, and clears `errno`
(`failSafe_unchecked_iff`).

`nrfCall_failSafe_iff` says where this happens: in `hal_nrf_set_output_power`, in
`hal_nrf_set_address`, and in the configuration functions that use them.

* `FailSafe` is what is asked when transfers fail: what a failed one leaves in the buffer makes no
  difference to the registers written, and `errno` tells of the failure. It is said of any pattern
  of failures, of which the first may be followed by others.
* `Checked` counts the transfers of a program and says that it stops at the first that fails. A
  checked program is fail-safe, and `CHK_SPI_ERR` puts checked programs together (`Checked.chk`).
* `NrfCall.uncheckedReads` are the reads that a call does not check, by their number among its
  transfers. `UncheckedIn` says that these are all, and is shown for each function from its parts.
-/

namespace Librasp

section Errors

variable {δ α β : Type}

/-- The same bus, with other bytes left in the buffer by the transfers that fail. -/
def NrfBus.withGarbage (b : NrfBus δ) (garbage : ℕ → ℕ → UInt8) : NrfBus δ :=
  { b with garbage := garbage }

/-- A register is written. -/
def isRegWrite : List UInt8 → Bool
  | [] => false
  | cmd :: _ => 0x20 ≤ cmd ∧ cmd < 0x40

/-- The register writes that reached the device. -/
def regWrites (sent : List (List UInt8)) : List (List UInt8) := sent.filter isRegWrite

/-- What is asked of a call when transfers fail: what a failed transfer leaves in the buffer makes
no difference for the registers written, and a failed transfer is told by `errno`. -/
structure FailSafe (b : NrfBus δ) (m : NrfBus δ → NrfM δ α) (s : NrfSt δ) : Prop where
  writes : ∀ g g', regWrites (m (b.withGarbage g) s).2.sent =
    regWrites (m (b.withGarbage g') s).2.sent
  told : ∀ g i, s.n ≤ i → i < (m (b.withGarbage g) s).2.n → b.fails i = true →
    (m (b.withGarbage g) s).2.ecomm = true

/-- A program that makes `k` transfers, and stops at the first that fails. -/
structure Checked (m : NrfBus δ → NrfM δ α) (k : ℕ) : Prop where
  same : ∀ (b : NrfBus δ) g g' s,
    (m (b.withGarbage g) s).2 = (m (b.withGarbage g') s).2
  result : ∀ (b : NrfBus δ) g g' s, (m (b.withGarbage g) s).2.ecomm = false →
    (m (b.withGarbage g) s).1 = (m (b.withGarbage g') s).1
  count : ∀ b s, (m b s).2.ecomm = false → (m b s).2.n = s.n + k
  opened : ∀ b s, (m b s).2.ecomm = false → 0 < k → b.opened = true
  failed : ∀ b s, (m b s).2.ecomm = false → ∀ j < k, b.fails (s.n + j) = false
  fine : ∀ (b : NrfBus δ) (s : NrfSt δ), b.opened = true →
    (∀ j < k, b.fails (s.n + j) = false) → 0 < k ∨ s.ecomm = false → (m b s).2.ecomm = false
  grows : ∀ b s, s.sent <+: (m b s).2.sent

/-! ### Programs that are checked -/

theorem checked_pure (a : α) : Checked (fun _ : NrfBus δ => (pure a : NrfM δ α)) 0 where
  same _ _ _ _ := rfl
  result _ _ _ _ _ := rfl
  count _ _ _ := rfl
  opened _ _ _ h := absurd h (Nat.lt_irrefl 0)
  failed _ _ _ j hj := absurd hj (Nat.not_lt_zero j)
  fine _ _ _ _ h := h.resolve_left (Nat.lt_irrefl 0)
  grows _ _ := List.prefix_rfl

section Transmit

variable {b : NrfBus δ} {s : NrfSt δ}

theorem nrfTransmit_closed (hb : b.opened = false) (tx : List UInt8) :
    nrfTransmit b tx s = (b.garbage s.n, { s with ecomm := true }) := by
  rw [nrfTransmit, if_neg (by rw [hb]; decide)]

theorem nrfTransmit_fails (hb : b.opened = true) (hf : b.fails s.n = true) (tx : List UInt8) :
    nrfTransmit b tx s = (b.garbage s.n, { s with n := s.n + 1, ecomm := true }) := by
  rw [nrfTransmit, if_pos hb, if_pos hf]

theorem nrfTransmit_ok (hb : b.opened = true) (hf : b.fails s.n = false) (tx : List UInt8) :
    nrfTransmit b tx s = ((b.answer s.dev tx).1,
      ⟨(b.answer s.dev tx).2, s.n + 1, false, s.sent ++ [tx]⟩) := by
  rw [nrfTransmit, if_pos hb, if_neg (by rw [hf]; decide)]

/-- A transfer that leaves no error was made, and did not fail. -/
theorem nrfTransmit_ecomm {tx : List UInt8} (h : (nrfTransmit b tx s).2.ecomm = false) :
    b.opened = true ∧ b.fails s.n = false := by
  rcases hb : b.opened with _ | _
  · rw [nrfTransmit_closed hb] at h
    exact Bool.noConfusion h
  · rcases hf : b.fails s.n with _ | _
    · exact ⟨rfl, rfl⟩
    · rw [nrfTransmit_fails hb hf] at h
      exact Bool.noConfusion h

end Transmit

theorem checked_transmit (tx : List UInt8) :
    Checked (fun b : NrfBus δ => nrfTransmit b tx) 1 where
  same b g g' s := by
    dsimp only [nrfTransmit, NrfBus.withGarbage]
    split_ifs <;> rfl
  result b g g' s h := by
    obtain ⟨hb, hf⟩ := nrfTransmit_ecomm h
    rw [nrfTransmit_ok hb hf, nrfTransmit_ok (b := b.withGarbage g') hb hf]
    rfl
  count b s h := by
    obtain ⟨hb, hf⟩ := nrfTransmit_ecomm h
    rw [nrfTransmit_ok hb hf]
  opened b s h _ := (nrfTransmit_ecomm h).1
  failed b s h j hj := by
    obtain rfl : j = 0 := by omega
    exact (nrfTransmit_ecomm h).2
  fine b s hb hf _ := by
    rw [nrfTransmit_ok hb (hf 0 Nat.one_pos)]
  grows b s := by
    dsimp only [nrfTransmit]
    split_ifs
    · exact List.prefix_rfl
    · exact List.prefix_append ..
    · exact List.prefix_rfl

/-- `CHK_SPI_ERR` between two parts of a program. -/
def thenChk (m : NrfBus δ → NrfM δ α) (next : α → NrfBus δ → NrfM δ Unit) :
    NrfBus δ → NrfM δ Unit := fun b => do
  let a ← m b
  chkSpiErr (next a b)

section Chk

variable {m : NrfBus δ → NrfM δ α} {next : α → NrfBus δ → NrfM δ Unit} {b : NrfBus δ} {s : NrfSt δ}

theorem thenChk_error (h : (m b s).2.ecomm = true) :
    thenChk m next b s = ((), (m b s).2) := if_pos h

theorem thenChk_ok (h : (m b s).2.ecomm = false) :
    thenChk m next b s = next (m b s).1 b (m b s).2 := if_neg (by rw [h]; decide)

/-- No error in the end means no error at the check. -/
theorem thenChk_ecomm (h : (thenChk m next b s).2.ecomm = false) :
    (m b s).2.ecomm = false ∧ (next (m b s).1 b (m b s).2).2.ecomm = false := by
  rcases he : (m b s).2.ecomm with _ | _
  · rw [thenChk_ok he] at h
    exact ⟨rfl, h⟩
  · rw [thenChk_error he] at h
    exact absurd (he.symm.trans h) Bool.true_eq_false.mp

/-- **The rule of `CHK_SPI_ERR`.** Checked parts with a check between them are checked, and make
the transfers of both. -/
theorem Checked.chk {k k' : ℕ} (hm : Checked m k) (hk : 0 < k)
    (hnext : ∀ a, Checked (next a) k') : Checked (thenChk m next) (k + k') where
  same b g g' s := by
    have hsame := hm.same b g g' s
    rcases he : (m (b.withGarbage g) s).2.ecomm with _ | _
    · have hres := hm.result b g g' s he
      rw [thenChk_ok he, thenChk_ok (hsame ▸ he), ← hres, ← hsame]
      exact (hnext _).same b g g' _
    · rw [thenChk_error he, thenChk_error (hsame ▸ he), hsame]
  result _ _ _ _ _ := rfl
  count b s h := by
    obtain ⟨he, he'⟩ := thenChk_ecomm h
    rw [thenChk_ok he, (hnext _).count b _ he', hm.count b s he]
    omega
  opened b s h _ := hm.opened b s (thenChk_ecomm h).1 hk
  failed b s h j hj := by
    obtain ⟨he, he'⟩ := thenChk_ecomm h
    rcases Nat.lt_or_ge j k with hjk | hjk
    · exact hm.failed b s he j hjk
    · have hf := (hnext _).failed b _ he' (j - k) (by omega)
      rw [hm.count b s he] at hf
      rwa [show s.n + j = s.n + k + (j - k) by omega]
  fine b s hb hf _ := by
    have he := hm.fine b s hb (fun j hj => hf j (by omega)) (Or.inl hk)
    rw [thenChk_ok he]
    refine (hnext _).fine b _ hb (fun j hj => ?_) (Or.inr he)
    have hfj := hf (k + j) (by omega)
    rwa [hm.count b s he, Nat.add_assoc]
  grows b s := by
    rcases he : (m b s).2.ecomm with _ | _
    · rw [thenChk_ok he]
      exact (hm.grows b s).trans ((hnext _).grows b _)
    · rw [thenChk_error he]
      exact hm.grows b s

end Chk

theorem Checked.map {m : NrfBus δ → NrfM δ α} {k : ℕ} (hm : Checked m k) (f : α → β) :
    Checked (fun b => do let a ← m b; pure (f a)) k where
  same b g g' s := hm.same b g g' s
  result b g g' s h := congrArg f (hm.result b g g' s h)
  count := hm.count
  opened := hm.opened
  failed := hm.failed
  fine := hm.fine
  grows := hm.grows

/-! ### Programs that are fail-safe -/

section FailSafe

variable {m : NrfBus δ → NrfM δ α} {next : α → NrfBus δ → NrfM δ Unit} {b : NrfBus δ} {s : NrfSt δ}
  {k : ℕ}

theorem Checked.failSafe (hm : Checked m k) (b : NrfBus δ) (s : NrfSt δ) : FailSafe b m s where
  writes g g' := congrArg (fun t => regWrites t.sent) (hm.same b g g' s)
  told g i hi hlt hf := by
    by_contra he
    have he := eq_false_of_ne_true he
    rw [hm.count _ s he] at hlt
    have hok := hm.failed _ s he (i - s.n) (by omega)
    rw [Nat.add_sub_cancel' hi] at hok
    exact Bool.noConfusion (hf.symm.trans hok)

/-- What is left in the buffer makes no difference for a checked part. -/
theorem thenChk_withGarbage (hm : Checked m k) (he : (m b s).2.ecomm = false)
    (g : ℕ → ℕ → UInt8) : thenChk m next (b.withGarbage g) s =
      next (m b s).1 (b.withGarbage g) (m b s).2 := by
  have hsame : (m b s).2 = (m (b.withGarbage g) s).2 := hm.same b b.garbage g s
  have hres : (m b s).1 = (m (b.withGarbage g) s).1 := hm.result b b.garbage g s he
  rw [thenChk_ok (hsame ▸ he), hres, hsame]

theorem thenChk_withGarbage_error (hm : Checked m k) (he : (m b s).2.ecomm = true)
    (g : ℕ → ℕ → UInt8) : thenChk m next (b.withGarbage g) s = ((), (m b s).2) := by
  have hsame : (m b s).2 = (m (b.withGarbage g) s).2 := hm.same b b.garbage g s
  rw [thenChk_error (hsame ▸ he), hsame]

/-- After a checked part it is up to what follows. -/
theorem failSafe_chk_iff (hm : Checked m k) (b : NrfBus δ) (s : NrfSt δ) :
    FailSafe b (thenChk m next) s ↔
      ((m b s).2.ecomm = false → FailSafe b (next (m b s).1) (m b s).2) := by
  constructor
  · intro h he
    have hcount := hm.count b s he
    refine ⟨fun g g' => ?_, fun g i hi hlt hf => ?_⟩
    · have hw := h.writes g g'
      rwa [thenChk_withGarbage hm he, thenChk_withGarbage hm he] at hw
    · have ht := h.told g i (by omega)
      rw [thenChk_withGarbage hm he] at ht
      exact ht hlt hf
  · intro h
    rcases he : (m b s).2.ecomm with _ | _
    · have hnext := h he
      have hcount := hm.count b s he
      refine ⟨fun g g' => ?_, fun g i hi hlt hf => ?_⟩
      · rw [thenChk_withGarbage hm he, thenChk_withGarbage hm he]
        exact hnext.writes g g'
      · rw [thenChk_withGarbage hm he] at hlt ⊢
        refine hnext.told g i ?_ hlt hf
        by_contra hlt'
        have hok := hm.failed b s he (i - s.n) (by omega)
        rw [Nat.add_sub_cancel' hi] at hok
        exact Bool.noConfusion (hf.symm.trans hok)
    · refine ⟨fun g g' => ?_, fun g i _ _ _ => ?_⟩
      · rw [thenChk_withGarbage_error hm he, thenChk_withGarbage_error hm he]
      · rw [thenChk_withGarbage_error hm he]
        exact he

end FailSafe

/-! ### A read that is not checked -/

/-- A register is read, and what was read used for a transfer, without a look at `errno`. -/
def unchecked (reg : UInt8) (tx : UInt8 → List UInt8) : NrfBus δ → NrfM δ Unit := fun b => do
  let v ← halNrfReadReg b reg
  let _ ← nrfTransmit b (tx v)

section Unchecked

variable {b : NrfBus δ} {s : NrfSt δ} {reg : UInt8} {tx : UInt8 → List UInt8}

theorem unchecked_run {x : ℕ → UInt8} {s' : NrfSt δ} (h : nrfTransmit b [reg, 0] s = (x, s')) :
    (unchecked reg tx b s).2 = (nrfTransmit b (tx (x 1)) s').2 := by
  have hrun : (unchecked reg tx b s).2 = (nrfTransmit b
    (tx ((nrfTransmit b [reg, 0] s).1 1)) (nrfTransmit b [reg, 0] s).2).2 := rfl
  rw [hrun, h]

/-- The second transfer tells of itself only. -/
theorem unchecked_fails (reg : UInt8) (tx : UInt8 → List UInt8) (hb : b.opened = true)
    (hf : b.fails s.n = true) (hf' : b.fails (s.n + 1) = false) : ∃ dev, (unchecked reg tx b s).2 =
      ⟨dev, s.n + 2, false, s.sent ++ [tx (b.garbage s.n 1)]⟩ := by
  rw [unchecked_run (nrfTransmit_fails hb hf _),
    nrfTransmit_ok (s := ⟨s.dev, s.n + 1, true, s.sent⟩) hb hf']
  exact ⟨_, rfl⟩

/-- When no transfer fails, the state is that of the two transfers. -/
theorem unchecked_ok (reg : UInt8) (tx : UInt8 → List UInt8) (hb : b.opened = true)
    (hf : b.fails s.n = false) (hf' : b.fails (s.n + 1) = false) : (unchecked reg tx b s).2 =
      ⟨(b.answer (b.answer s.dev [reg, 0]).2 (tx ((b.answer s.dev [reg, 0]).1 1))).2, s.n + 2,
        false, s.sent ++ [[reg, 0]] ++ [tx ((b.answer s.dev [reg, 0]).1 1)]⟩ := by
  rw [unchecked_run (nrfTransmit_ok hb hf _), nrfTransmit_ok
    (s := ⟨(b.answer s.dev [reg, 0]).2, s.n + 1, false, s.sent ++ [[reg, 0]]⟩) hb hf']

/-- Without a device, or when the second transfer fails, there is an error in the end, and nothing
of what was read is sent. -/
theorem unchecked_error (reg : UInt8) (tx : UInt8 → List UInt8)
    (h : b.opened = false ∨ b.fails (s.n + 1) = true) :
    ∃ s' : NrfSt δ, s'.ecomm = true ∧
      ∀ g, (unchecked reg tx (b.withGarbage g) s).2 = s' := by
  rcases hb : b.opened with _ | _
  · refine ⟨{ s with ecomm := true }, rfl, fun g => ?_⟩
    rw [unchecked_run (nrfTransmit_closed (b := b.withGarbage g) hb _),
      nrfTransmit_closed (b := b.withGarbage g) hb]
  have hf' : b.fails (s.n + 1) = true := h.resolve_left (by rw [hb]; decide)
  rcases hf : b.fails s.n with _ | _
  · refine ⟨⟨(b.answer s.dev [reg, 0]).2, s.n + 2, true, s.sent ++ [[reg, 0]]⟩, rfl, fun g => ?_⟩
    rw [unchecked_run (nrfTransmit_ok (b := b.withGarbage g) hb hf _)]
    exact congrArg Prod.snd (nrfTransmit_fails (b := b.withGarbage g)
      (s := ⟨(b.answer s.dev [reg, 0]).2, s.n + 1, false, s.sent ++ [[reg, 0]]⟩) hb hf' _)
  · refine ⟨⟨s.dev, s.n + 2, true, s.sent⟩, rfl, fun g => ?_⟩
    rw [unchecked_run (nrfTransmit_fails (b := b.withGarbage g) hb hf _),
      nrfTransmit_fails (b := b.withGarbage g) (s := ⟨s.dev, s.n + 1, true, s.sent⟩) hb hf']

theorem unchecked_grows (b : NrfBus δ) (s : NrfSt δ) :
    s.sent <+: (unchecked reg tx b s).2.sent := by
  rw [unchecked_run rfl]
  exact ((checked_transmit _).grows b s).trans ((checked_transmit _).grows b _)

theorem thenChk_grows {m : NrfBus δ → NrfM δ α} {next : α → NrfBus δ → NrfM δ Unit}
    (hm : ∀ b s, s.sent <+: (m b s).2.sent) (hnext : ∀ a b s, s.sent <+: (next a b s).2.sent)
    (b : NrfBus δ) (s : NrfSt δ) : s.sent <+: (thenChk m next b s).2.sent := by
  rcases he : (m b s).2.ecomm with _ | _
  · rw [thenChk_ok he]
    exact (hm b s).trans (hnext _ b _)
  · rw [thenChk_error he]
    exact hm b s

/-- Two different register writes at one place make different traces. -/
theorem regWrites_ne {sent w w' t t' : List (List UInt8)} {x y : List UInt8}
    (hx : isRegWrite x = true) (hy : isRegWrite y = true) (hne : x ≠ y)
    (ht : sent ++ [x] ++ w = t) (ht' : sent ++ [y] ++ w' = t') : regWrites t ≠ regWrites t' := by
  intro h
  rw [← ht, ← ht'] at h
  simp only [regWrites, List.filter_append, List.append_assoc, List.append_cancel_left_eq] at h
  rw [List.filter_cons_of_pos hx, List.filter_cons_of_pos hy] at h
  exact hne (List.cons.inj h).1

/-- When no transfer fails, what follows is the same whatever is left in the buffer. -/
theorem unchecked_thenChk {next : Unit → NrfBus δ → NrfM δ Unit} (hb : b.opened = true)
    (hf : b.fails s.n = false) (hf' : b.fails (s.n + 1) = false) (g : ℕ → ℕ → UInt8) :
    thenChk (unchecked reg tx) next (b.withGarbage g) s =
      next () (b.withGarbage g) (unchecked reg tx b s).2 := by
  have hu := unchecked_ok reg tx hb hf hf'
  have hug : (unchecked reg tx (b.withGarbage g) s).2 = (unchecked reg tx b s).2 := by
    rw [hu]
    exact unchecked_ok (b := b.withGarbage g) reg tx hb hf hf'
  rw [thenChk_ok (by rw [hug, hu]), hug]

/-- When the read fails and the transfer that follows does not, what was left in the buffer can be
told from what reached the device. -/
theorem not_failSafe_unchecked {next : Unit → NrfBus δ → NrfM δ Unit}
    (htx : ∀ v, isRegWrite (tx v) = true) (hne : ∃ v v', tx v ≠ tx v')
    (hgrows : ∀ b s, s.sent <+: (next () b s).2.sent) (hb : b.opened = true)
    (hf : b.fails s.n = true) (hf' : b.fails (s.n + 1) = false) :
    ¬ FailSafe b (thenChk (unchecked reg tx) next) s := by
  intro h
  obtain ⟨v, v', hvv⟩ := hne
  have hrun : ∀ v, s.sent ++ [tx v] <+:
      (thenChk (unchecked reg tx) next (b.withGarbage fun _ _ => v) s).2.sent := by
    intro v
    obtain ⟨dev, hu⟩ := unchecked_fails (b := b.withGarbage fun _ _ => v) reg tx hb hf hf'
    rw [thenChk_ok (congrArg NrfSt.ecomm hu), hu]
    exact hgrows _ ⟨dev, s.n + 2, false, s.sent ++ [tx v]⟩
  obtain ⟨w, hw⟩ := hrun v
  obtain ⟨w', hw'⟩ := hrun v'
  exact regWrites_ne (htx v) (htx v') hvv hw hw' (h.writes _ _)

/-- **A read that is not checked.** Such a part is fail-safe unless the read fails and the
transfer that follows does not; if neither fails, it is up to what follows. In the bad case
two contents of the buffer make two traces of register writes. -/
theorem failSafe_unchecked_iff {next : Unit → NrfBus δ → NrfM δ Unit}
    (htx : ∀ v, isRegWrite (tx v) = true) (hne : ∃ v v', tx v ≠ tx v')
    (hgrows : ∀ b s, s.sent <+: (next () b s).2.sent) (b : NrfBus δ) (s : NrfSt δ) :
    FailSafe b (thenChk (unchecked reg tx) next) s ↔
      ¬ (b.opened = true ∧ b.fails s.n = true ∧ b.fails (s.n + 1) = false) ∧
        (b.opened = true → b.fails s.n = false → b.fails (s.n + 1) = false →
          FailSafe b (next ()) (unchecked reg tx b s).2) := by
  constructor
  · intro h
    refine ⟨fun ⟨hb, hf, hf'⟩ => not_failSafe_unchecked htx hne hgrows hb hf hf' h,
      fun hb hf hf' => ⟨fun g g' => ?_, fun g i hi hlt hfi => ?_⟩⟩
    · have hw := h.writes g g'
      rwa [unchecked_thenChk hb hf hf', unchecked_thenChk hb hf hf'] at hw
    · have hn : (unchecked reg tx b s).2.n = s.n + 2 := by rw [unchecked_ok reg tx hb hf hf']
      have ht := h.told g i (by omega)
      rw [unchecked_thenChk hb hf hf'] at ht
      exact ht hlt hfi
  · rintro ⟨hno, hnext⟩
    by_cases herr : b.opened = false ∨ b.fails (s.n + 1) = true
    · obtain ⟨s', he, hs'⟩ := unchecked_error reg tx herr
      have hrun : ∀ g, (thenChk (unchecked reg tx) next (b.withGarbage g) s).2 = s' := by
        intro g
        rw [thenChk_error (by rw [hs', he]), hs']
      refine ⟨fun g g' => by rw [hrun, hrun], fun g i _ _ _ => ?_⟩
      rw [hrun]
      exact he
    · simp only [not_or, Bool.not_eq_false, Bool.not_eq_true] at herr
      obtain ⟨hb, hf'⟩ := herr
      have hf : b.fails s.n = false := eq_false_of_ne_true fun hf => hno ⟨hb, hf, hf'⟩
      have hsafe := hnext hb hf hf'
      refine ⟨fun g g' => ?_, fun g i hi hlt hfi => ?_⟩
      · rw [unchecked_thenChk hb hf hf', unchecked_thenChk hb hf hf']
        exact hsafe.writes g g'
      · rw [unchecked_thenChk hb hf hf'] at hlt ⊢
        refine hsafe.told g i ?_ hlt hfi
        have hn : (unchecked reg tx b s).2.n = s.n + 2 := by rw [unchecked_ok reg tx hb hf hf']
        -- neither of the two transfers failed
        have h0 : i ≠ s.n := by
          rintro rfl
          exact Bool.noConfusion (hfi.symm.trans hf)
        have h1 : i ≠ s.n + 1 := by
          rintro rfl
          exact Bool.noConfusion (hfi.symm.trans hf')
        omega

end Unchecked

/-! ### Where reads are not checked -/

/-- Of a program started after `n` transfers, one of the reads `ks` fails, as the first transfer
that does, and the transfer after it does not. -/
def UncheckedAt (b : NrfBus δ) (n : ℕ) (ks : List ℕ) : Prop :=
  b.opened = true ∧ ∃ k ∈ ks, b.fails (n + k) = true ∧ b.fails (n + k + 1) = false ∧
    ∀ j < k, b.fails (n + j) = false

/-- The reads `ks` are those that a program does not check. -/
def UncheckedIn (m : NrfBus δ → NrfM δ α) (ks : List ℕ) : Prop :=
  ∀ b s, FailSafe b m s ↔ ¬ UncheckedAt b s.n ks

theorem Checked.uncheckedIn {m : NrfBus δ → NrfM δ α} {k : ℕ} (hm : Checked m k) :
    UncheckedIn m [] := fun b s => iff_of_true (hm.failSafe b s) (by simp [UncheckedAt])

/-- Two checked parts, of which the first may make no transfer. -/
theorem Checked.uncheckedIn_chk {m : NrfBus δ → NrfM δ α} {next : α → NrfBus δ → NrfM δ Unit}
    {k k' : ℕ} (hm : Checked m k) (hnext : ∀ a, Checked (next a) k') :
    UncheckedIn (thenChk m next) [] := fun b s =>
  iff_of_true ((failSafe_chk_iff hm b s).mpr fun _ => (hnext _).failSafe b _)
    (by simp [UncheckedAt])

/-- After `k` transfers that are checked. -/
theorem uncheckedAt_map_iff {b : NrfBus δ} {n k : ℕ} {ks : List ℕ} :
    UncheckedAt b n (ks.map (k + ·)) ↔
      (∀ j < k, b.fails (n + j) = false) ∧ UncheckedAt b (n + k) ks := by
  constructor
  · rintro ⟨hb, i, hi, hf, hf', hlt⟩
    obtain ⟨k', hk', rfl⟩ := List.mem_map.mp hi
    refine ⟨fun j hj => hlt j (by omega), hb, k', hk', ?_, ?_, fun j hj => ?_⟩
    · rwa [Nat.add_assoc]
    · rwa [Nat.add_assoc n]
    · have hj := hlt (k + j) (by omega)
      rwa [Nat.add_assoc]
  · rintro ⟨hlt, hb, k', hk', hf, hf', hlt'⟩
    refine ⟨hb, k + k', List.mem_map_of_mem hk', ?_, ?_, fun j hj => ?_⟩
    · rwa [← Nat.add_assoc]
    · rwa [← Nat.add_assoc]
    · rcases Nat.lt_or_ge j k with hjk | hjk
      · exact hlt j hjk
      · have hj := hlt' (j - k) (by omega)
        rwa [show n + j = n + k + (j - k) by omega]

theorem uncheckedAt_cons_iff {b : NrfBus δ} {n : ℕ} {ks : List ℕ} :
    UncheckedAt b n (0 :: ks) ↔
      (b.opened = true ∧ b.fails n = true ∧ b.fails (n + 1) = false) ∨ UncheckedAt b n ks := by
  simp only [UncheckedAt, List.exists_mem_cons_iff, Nat.add_zero, Nat.not_lt_zero, false_imp_iff,
    implies_true, and_true, and_or_left]

theorem UncheckedIn.chk {m : NrfBus δ → NrfM δ α} {next : α → NrfBus δ → NrfM δ Unit} {k : ℕ}
    {ks : List ℕ} (hm : Checked m k) (hk : 0 < k) (hnext : ∀ a, UncheckedIn (next a) ks) :
    UncheckedIn (thenChk m next) (ks.map (k + ·)) := by
  intro b s
  rw [failSafe_chk_iff hm, uncheckedAt_map_iff]
  constructor
  · rintro h ⟨hlt, hun⟩
    have he := hm.fine b s hun.1 hlt (Or.inl hk)
    have hnot := (hnext _ _ _).mp (h he)
    rw [hm.count b s he] at hnot
    exact hnot hun
  · intro h he
    rw [hnext, hm.count b s he]
    exact fun hun => h ⟨hm.failed b s he, hun⟩

theorem UncheckedIn.unchecked (reg : UInt8) (tx : UInt8 → List UInt8)
    (next : Unit → NrfBus δ → NrfM δ Unit) {ks : List ℕ} (htx : ∀ v, isRegWrite (tx v) = true)
    (hne : ∃ v v', tx v ≠ tx v') (hgrows : ∀ b s, s.sent <+: (next () b s).2.sent)
    (hnext : UncheckedIn (next ()) ks) :
    UncheckedIn (thenChk (unchecked reg tx) next) (0 :: ks.map (2 + ·)) := by
  intro b s
  rw [failSafe_unchecked_iff htx hne hgrows, uncheckedAt_cons_iff, not_or, uncheckedAt_map_iff]
  refine and_congr_right fun _ => ⟨?_, ?_⟩
  · rintro h ⟨hlt, hun⟩
    have hf := hlt 0 (by omega)
    have hf' := hlt 1 (by omega)
    have hnot := (hnext _ _).mp (h hun.1 hf hf')
    rw [unchecked_ok reg tx hun.1 hf hf'] at hnot
    exact hnot hun
  · intro h hb hf hf'
    rw [hnext, unchecked_ok reg tx hb hf hf']
    refine fun hun => h ⟨fun j hj => ?_, hun⟩
    obtain rfl | rfl : j = 0 ∨ j = 1 := by omega
    · exact hf
    · exact hf'

/-- A check at the end makes no difference. -/
theorem thenChk_pure (m : NrfBus δ → NrfM δ Unit) : thenChk m (fun _ _ => pure ()) = m := by
  funext b s
  rcases he : (m b s).2.ecomm with _ | _
  · rw [thenChk_ok he]
    rfl
  · exact thenChk_error he

theorem UncheckedIn.unchecked_last (reg : UInt8) (tx : UInt8 → List UInt8)
    (htx : ∀ v, isRegWrite (tx v) = true) (hne : ∃ v v', tx v ≠ tx v') :
    UncheckedIn (δ := δ) (Librasp.unchecked reg tx) [0] := by
  rw [← thenChk_pure (Librasp.unchecked reg tx)]
  have hnext : UncheckedIn (δ := δ) (fun _ => (pure () : NrfM δ Unit)) [] :=
    (checked_pure ()).uncheckedIn
  exact UncheckedIn.unchecked reg tx (fun _ _ => pure ()) htx hne (fun _ _ => List.prefix_rfl) hnext

/-! ### The functions -/

theorem checked_readReg (reg : UInt8) : Checked (fun b : NrfBus δ => halNrfReadReg b reg) 1 :=
  (checked_transmit _).map _

theorem checked_setReg (reg value : UInt8) :
    Checked (fun b : NrfBus δ => halNrfSetReg b reg value) 1 :=
  ((checked_transmit _).map _).map _

theorem checked_updateReg (reg : UInt8) (f : UInt8 → UInt8) :
    Checked (fun b : NrfBus δ => halNrfUpdateReg b reg f) 2 :=
  (checked_readReg reg).chk Nat.one_pos fun v => checked_setReg reg (f v)

theorem checked_updatePipes_some (f : UInt8 × UInt8 → UInt8 × UInt8) :
    Checked (fun b : NrfBus δ => halNrfUpdatePipes b (some f)) 4 :=
  (checked_readReg Nrf.enRxaddr).chk Nat.one_pos fun _ =>
    (checked_readReg Nrf.enAa).chk Nat.one_pos fun _ =>
      (checked_setReg Nrf.enRxaddr _).chk Nat.one_pos fun _ => checked_setReg Nrf.enAa _

theorem checked_updatePipes_none :
    Checked (fun b : NrfBus δ => halNrfUpdatePipes b none) 2 :=
  (checked_readReg Nrf.enRxaddr).chk Nat.one_pos fun _ =>
    (checked_readReg Nrf.enAa).chk Nat.one_pos fun _ => checked_pure ()

/-- The transfers of `hal_nrf_open_pipe` and `hal_nrf_close_pipe`: there is nothing to write for
`HAL_NRF_TX`. -/
def HalNrfAddress.pipeTransfers : HalNrfAddress → ℕ
  | .tx => 2
  | _ => 4

theorem checked_openPipe (pipeNum : HalNrfAddress) (autoAck : Bool) :
    Checked (fun b : NrfBus δ => halNrfOpenPipe b pipeNum autoAck) pipeNum.pipeTransfers := by
  rcases pipeNum with p | _ | _
  · exact checked_updatePipes_some _
  · exact checked_updatePipes_none
  · exact checked_updatePipes_some _

theorem checked_closePipe (pipeNum : HalNrfAddress) :
    Checked (fun b : NrfBus δ => halNrfClosePipe b pipeNum) pipeNum.pipeTransfers := by
  rcases pipeNum with p | _ | _
  · exact checked_updatePipes_some _
  · exact checked_updatePipes_none
  · exact checked_updatePipes_some _

/-- The address of the selector is one of several bytes. -/
def HalNrfAddress.multibyte : HalNrfAddress → Bool
  | .pipe p => p < 2
  | .tx => true
  | .all => false

/-- The transfer that writes an address, once the width is read. -/
def addressTx (pipeNum : HalNrfAddress) (addr : ℕ → UInt8) (setupAw : UInt8) : List UInt8 :=
  (Nrf.wRegister + Nrf.rxAddrP0 + pipeNum.code) :: (List.range (setupAw + 2).toNat).map addr

theorem isRegWrite_addressTx {pipeNum : HalNrfAddress} (h : pipeNum.multibyte = true)
    (addr : ℕ → UInt8) (v : UInt8) : isRegWrite (addressTx pipeNum addr v) = true := by
  rcases pipeNum with p | _ | _
  · have hp : p = 0 ∨ p = 1 := by
      have hlt : p < 2 := of_decide_eq_true h
      omega
    rcases hp with rfl | rfl <;> rfl
  · rfl
  · exact Bool.noConfusion h

theorem addressTx_ne (pipeNum : HalNrfAddress) (addr : ℕ → UInt8) :
    ∃ v v', addressTx pipeNum addr v ≠ addressTx pipeNum addr v' :=
  ⟨0, 1, fun h => absurd (congrArg List.length h) (by simp [addressTx])⟩

theorem powerBits_ne (power : HalNrfOutputPower) :
    ∃ v v', powerBits power v ≠ powerBits power v' :=
  ⟨0, 1, by rcases power with _ | _ | _ | _ <;> decide⟩

theorem halNrfSetAddress_multibyte {pipeNum : HalNrfAddress} (h : pipeNum.multibyte = true)
    (addr : ℕ → UInt8) : (fun b : NrfBus δ => halNrfSetAddress b pipeNum addr) =
      unchecked Nrf.setupAw (addressTx pipeNum addr) := by
  funext b
  rcases pipeNum with p | _ | _
  · rw [halNrfSetAddress]
    exact if_pos (of_decide_eq_true h)
  · rfl
  · exact Bool.noConfusion h

theorem checked_setAddress {pipeNum : HalNrfAddress} (h : pipeNum.multibyte = false)
    (addr : ℕ → UInt8) : ∃ k, Checked (fun b : NrfBus δ => halNrfSetAddress b pipeNum addr) k := by
  rcases pipeNum with p | _ | _
  · have hset : (fun b : NrfBus δ => halNrfSetAddress b (.pipe p) addr) =
        fun b => halNrfSetReg b (Nrf.rxAddrP0 + HalNrfAddress.code (.pipe p)) (addr 0) := by
      funext b
      rw [halNrfSetAddress]
      exact if_neg (of_decide_eq_false h)
    rw [hset]
    exact ⟨1, checked_setReg _ _⟩
  · exact Bool.noConfusion h
  · exact ⟨0, checked_pure ()⟩

/-- The reads that a setter does not check. -/
def NrfSetter.uncheckedReads : NrfSetter → List ℕ
  | outputPower _ => [0]
  | address pipeNum _ => if pipeNum.multibyte then [0] else []
  | _ => []

/-- The reads that a call does not check, among its transfers when all goes well. -/
def NrfCall.uncheckedReads : NrfCall → List ℕ
  | setter c => c.uncheckedReads
  | configRxPipe pipeNum addr _ _ =>
    if addr.isSome ∧ pipeNum.multibyte then [pipeNum.pipeTransfers] else []
  | configTx addr _ _ _ => if addr.isSome then [0, 3, 5] else [0]

theorem uncheckedIn_setter (c : NrfSetter) :
    UncheckedIn (fun b : NrfBus δ => c.exec b) c.uncheckedReads := by
  have hupd : ∀ reg f, UncheckedIn (fun b : NrfBus δ => halNrfUpdateReg b reg f) [] :=
    fun reg f => (checked_updateReg reg f).uncheckedIn
  have hset : ∀ reg v, UncheckedIn (fun b : NrfBus δ => halNrfSetReg b reg v) [] :=
    fun reg v => (checked_setReg reg v).uncheckedIn
  rcases c with _ | _ | _ | _ | _ | _ | _ | _ | _ | power | _ | _ | _ | _ | _ | _ | p | _ |
    ⟨p, addr⟩
  case outputPower =>
    exact UncheckedIn.unchecked_last Nrf.rfSetup
      (fun v => [Nrf.wRegister + Nrf.rfSetup, powerBits power v]) (fun _ => rfl) (by
        obtain ⟨v, v', hne⟩ := powerBits_ne power
        exact ⟨v, v', fun h => hne (List.cons.inj (List.cons.inj h).2).1⟩)
  case openPipe => exact (checked_openPipe _ _).uncheckedIn
  case closePipe => exact (checked_closePipe _).uncheckedIn
  case address =>
    rcases hp : p.multibyte with _ | _
    · obtain ⟨k, hk⟩ := checked_setAddress (δ := δ) hp addr
      simp only [NrfSetter.uncheckedReads, hp, Bool.false_eq_true, if_false]
      exact hk.uncheckedIn
    · simp only [NrfSetter.uncheckedReads, hp, if_true]
      change UncheckedIn (fun b => halNrfSetAddress b p addr) [0]
      rw [halNrfSetAddress_multibyte hp]
      exact UncheckedIn.unchecked_last _ _ (isRegWrite_addressTx hp addr) (addressTx_ne p addr)
  all_goals first | exact hupd _ _ | exact hset _ _

theorem HalNrfAddress.pipeTransfers_pos (pipeNum : HalNrfAddress) : 0 < pipeNum.pipeTransfers := by
  rcases pipeNum with _ | _ | _
  · exact Nat.succ_pos 3
  · exact Nat.succ_pos 1
  · exact Nat.succ_pos 3

/-- `hal_nrf_config_rx_pipe` goes wrong where `hal_nrf_set_address` does. -/
theorem uncheckedIn_configRxPipe (pipeNum : HalNrfAddress) (addr : Option (ℕ → UInt8))
    (autoAck : Bool) (ploadWidth : UInt8) :
    UncheckedIn (fun b : NrfBus δ => halNrfConfigRxPipe b pipeNum addr autoAck ploadWidth)
      (NrfCall.configRxPipe pipeNum addr autoAck ploadWidth).uncheckedReads := by
  have hopen := checked_openPipe (δ := δ) pipeNum autoAck
  have hpos := pipeNum.pipeTransfers_pos
  have hwidth : Checked (fun b : NrfBus δ => halNrfSetRxPayloadWidth b pipeNum ploadWidth) 1 :=
    checked_setReg _ _
  rcases addr with _ | addr
  · exact (hopen.chk hpos fun _ => hwidth).uncheckedIn
  change UncheckedIn (thenChk (fun b => halNrfOpenPipe b pipeNum autoAck)
    fun _ => thenChk (fun b => halNrfSetAddress b pipeNum addr)
      fun _ b => halNrfSetRxPayloadWidth b pipeNum ploadWidth) _
  rcases hp : pipeNum.multibyte with _ | _
  · simp only [NrfCall.uncheckedReads, hp, Bool.false_eq_true, and_false, if_false]
    obtain ⟨k, hk⟩ := checked_setAddress (δ := δ) hp addr
    exact UncheckedIn.chk hopen hpos fun _ => hk.uncheckedIn_chk fun _ => hwidth
  · simp only [NrfCall.uncheckedReads, hp, Option.isSome_some, and_self, if_true]
    rw [halNrfSetAddress_multibyte hp]
    exact UncheckedIn.chk hopen hpos fun _ => UncheckedIn.unchecked _ _
      (fun _ b => halNrfSetRxPayloadWidth b pipeNum ploadWidth) (isRegWrite_addressTx hp addr)
      (addressTx_ne pipeNum addr) hwidth.grows hwidth.uncheckedIn

/-- `hal_nrf_config_tx` goes wrong where the setters do that it is made of. -/
theorem uncheckedIn_configTx (addr : Option (ℕ → UInt8)) (power : HalNrfOutputPower)
    (retr : UInt8) (delay : UInt16) :
    UncheckedIn (fun b : NrfBus δ => halNrfConfigTx b addr power retr delay)
      (NrfCall.configTx addr power retr delay).uncheckedReads := by
  have hretr : Checked (fun b : NrfBus δ => halNrfSetAutoRetr b retr delay) 1 :=
    checked_setReg _ _
  have hopen := checked_openPipe (δ := δ) (.pipe 0) true
  -- the output power, then the rest
  have hpower : ∀ (rest : NrfBus δ → NrfM δ Unit) (ks : List ℕ),
      (∀ b s, s.sent <+: (rest b s).2.sent) → UncheckedIn rest ks →
      UncheckedIn (thenChk (fun b => halNrfSetOutputPower b power) fun _ => rest)
        (0 :: ks.map (2 + ·)) := by
    intro rest ks hgrows hrest
    refine UncheckedIn.unchecked Nrf.rfSetup
      (fun v => [Nrf.wRegister + Nrf.rfSetup, powerBits power v]) (fun _ => rest) (fun _ => rfl) ?_
      hgrows hrest
    obtain ⟨v, v', hne⟩ := powerBits_ne power
    exact ⟨v, v', fun h => hne (List.cons.inj (List.cons.inj h).2).1⟩
  rcases addr with _ | addr
  · have hrest := hretr.chk Nat.one_pos fun _ => hopen
    exact hpower _ _ hrest.grows hrest.uncheckedIn
  · -- the two addresses, the second one followed by the opening of the pipe
    have haddr : ∀ (p : HalNrfAddress) (rest : NrfBus δ → NrfM δ Unit) (ks : List ℕ),
        p.multibyte = true → (∀ b s, s.sent <+: (rest b s).2.sent) → UncheckedIn rest ks →
        UncheckedIn (thenChk (fun b => halNrfSetAddress b p addr) fun _ => rest)
          (0 :: ks.map (2 + ·)) ∧
        ∀ b s, s.sent <+: (thenChk (fun b => halNrfSetAddress b p addr) (fun _ => rest) b s).2.sent
        := by
      intro p rest ks hp hgrows hrest
      rw [halNrfSetAddress_multibyte hp]
      exact ⟨UncheckedIn.unchecked _ _ (fun _ => rest) (isRegWrite_addressTx hp addr)
        (addressTx_ne p addr) hgrows hrest, thenChk_grows unchecked_grows fun _ => hgrows⟩
    obtain ⟨hpipe, hpipe'⟩ := haddr (.pipe 0) _ [] rfl hopen.grows hopen.uncheckedIn
    obtain ⟨htx, htx'⟩ := haddr .tx _ _ rfl hpipe' hpipe
    exact hpower _ _ (thenChk_grows hretr.grows fun _ => htx')
      (UncheckedIn.chk hretr Nat.one_pos fun _ => htx)

/-- Whatever transfers fail, no register is written with what was left in the buffer by a failed
transfer, and `errno` tells of the failure: exactly if none of the reads that the call does not
check (`NrfCall.uncheckedReads`) is the first transfer to fail, with the next one not failing. -/
theorem nrfCall_failSafe_iff (c : NrfCall) (b : NrfBus δ) (s : NrfSt δ) :
    FailSafe b (fun b => c.exec b) s ↔ ¬ UncheckedAt b s.n c.uncheckedReads := by
  rcases c with c | ⟨pipeNum, addr, autoAck, ploadWidth⟩ | ⟨addr, power, retr, delay⟩
  · exact uncheckedIn_setter c b s
  · exact uncheckedIn_configRxPipe pipeNum addr autoAck ploadWidth b s
  · exact uncheckedIn_configTx addr power retr delay b s

end Errors

/-- The output power is set when the register cannot be read, but can be written. -/
theorem nrfCall_outputPower_fails :
    ¬ FailSafe (δ := Unit) ⟨true, fun _ _ => (fun _ => 0, ()), fun n => n = 0, fun _ _ => 0, 0⟩
      (fun b => NrfCall.exec b (.setter (.outputPower .dbm0))) ⟨(), 0, false, []⟩ := fun h =>
  (uncheckedIn_setter (.outputPower .dbm0) _ _).mp h
    ⟨rfl, 0, List.mem_singleton.mpr rfl, rfl, rfl, nofun⟩

end Librasp
