import Mathlib.Tactic

/-!
# Counters behind narrow registers

A counter counts on while it is read, and a register shows it modulo `m`, or shows its word above.

`splitRead` puts a counter together from its two words, which are read at different times: it is
torn by no roll-over of the low word, as long as there is one at most (`splitRead_eq`). What it
gives is the counter at the second read, or at the fourth one if the high word has moved between
the first and the third.

`accum` adds up the differences of what a register shows, each modulo `m`, and stops at `m - 1`.
It never runs ahead of the counter (`accum_le`), and is the time elapsed when no difference has
hidden a turn of the register (`accum_eq`). Short of its end it is the time elapsed modulo `m` in
any case (`accum_modEq`), which is what keeps it in step with a register that is compared to a
deadline.

The counter is a monotone function to the natural numbers, and `m` is any modulus.
-/

namespace Librasp

namespace Wrapping

variable {m : ℕ} {n : ℕ → ℕ}

/-! ### Two words -/

/-- A counter from the words of two of its values. -/
def join (m hi lo : ℕ) : ℕ := hi / m * m + lo % m

theorem join_of_div_eq {a b : ℕ} (h : a / m = b / m) : join m a b = b := by
  rw [join, h, mul_comm]
  exact Nat.div_add_mod b m

/-- High word, low word, high word again, and the low word once more if the high one has moved. -/
def splitRead (m : ℕ) (n : ℕ → ℕ) : ℕ :=
  if n 0 / m < n 2 / m then join m (n 2) (n 3) else join m (n 0) (n 1)

/-- The last of these reads. -/
def lastRead (m : ℕ) (n : ℕ → ℕ) : ℕ := if n 0 / m < n 2 / m then 3 else 2

/-- What is put together is the counter at one of the reads of the low word. If the high word is
the same on both sides of a read of the low word, then so it was at that read; and if it has
moved, it does not move again. -/
theorem splitRead_eq (hn : Monotone n) (hroll : n (lastRead m n) / m ≤ n 0 / m + 1) :
    splitRead m n = n (if n 0 / m < n 2 / m then 3 else 1) := by
  have hdiv : ∀ {i j : ℕ}, i ≤ j → n i / m ≤ n j / m := fun hij => Nat.div_le_div_right (hn hij)
  rw [splitRead]
  rw [lastRead] at hroll
  split_ifs at hroll ⊢ with hmoved
  · -- the roll-over is over by the third read, and there is no other
    have h23 := hdiv (show 2 ≤ 3 by decide)
    exact join_of_div_eq (by omega)
  · have h01 := hdiv (show 0 ≤ 1 by decide)
    have h12 := hdiv (show 1 ≤ 2 by decide)
    exact join_of_div_eq (by omega)

theorem splitRead_mem (hn : Monotone n) (hroll : n (lastRead m n) / m ≤ n 0 / m + 1) :
    n 0 ≤ splitRead m n ∧ splitRead m n ≤ n (lastRead m n) := by
  rw [splitRead_eq hn hroll, lastRead]
  split_ifs
  · exact ⟨hn (by decide), le_rfl⟩
  · exact ⟨hn (by decide), hn (by decide)⟩

/-! ### Wrapped differences -/

/-- The differences modulo `m`, added up to at most `m - 1`. -/
def accum (m : ℕ) (n : ℕ → ℕ) : ℕ → ℕ
  | 0 => 0
  | k + 1 => min (m - 1) (accum m n k + (n (k + 1) - n k) % m)

theorem accum_le_pred (m : ℕ) (n : ℕ → ℕ) (k : ℕ) : accum m n k ≤ m - 1 := by
  rcases k with _ | k
  · exact Nat.zero_le _
  · exact min_le_left _ _

theorem accum_le_succ (m : ℕ) (n : ℕ → ℕ) (k : ℕ) : accum m n k ≤ accum m n (k + 1) :=
  le_min (accum_le_pred m n k) (Nat.le_add_right _ _)

/-- The accumulated time never runs ahead of the counter: a difference that is taken modulo `m` is
at most the time it stands for. -/
theorem accum_le (hn : Monotone n) (k : ℕ) : accum m n k ≤ n k - n 0 := by
  induction k with
  | zero => exact Nat.zero_le _
  | succ k ih =>
    have hstart := hn (Nat.zero_le k)
    have hstep : n k ≤ n (k + 1) := hn (Nat.le_succ k)
    have hmod : (n (k + 1) - n k) % m ≤ n (k + 1) - n k := Nat.mod_le _ _
    calc accum m n (k + 1) ≤ accum m n k + (n (k + 1) - n k) % m := min_le_right _ _
      _ ≤ n k - n 0 + (n (k + 1) - n k) := Nat.add_le_add ih hmod
      _ = n (k + 1) - n 0 := by omega

/-- Short of its end the accumulated time is the time elapsed, modulo `m`. -/
theorem accum_modEq (hn : Monotone n) {k : ℕ} (hlt : accum m n k < m - 1) :
    accum m n k ≡ n k - n 0 [MOD m] := by
  induction k with
  | zero => rw [accum, Nat.sub_self]
  | succ k ih =>
    have hstart := hn (Nat.zero_le k)
    have hstep : n k ≤ n (k + 1) := hn (Nat.le_succ k)
    have hbefore := ih (lt_of_le_of_lt (accum_le_succ m n k) hlt)
    have heq : accum m n (k + 1) = accum m n k + (n (k + 1) - n k) % m :=
      min_eq_right ((min_lt_iff.mp hlt).resolve_left (lt_irrefl _)).le
    have htotal : n (k + 1) - n 0 = n k - n 0 + (n (k + 1) - n k) := by omega
    rw [heq, htotal]
    exact hbefore.add (Nat.mod_modEq _ _)

/-- No turn of the register is hidden between two reads. -/
def Unhidden (m : ℕ) (n : ℕ → ℕ) (k : ℕ) : Prop := ∀ i < k, n (i + 1) - n i < m

theorem accum_eq (hn : Monotone n) {k : ℕ} (hk : Unhidden m n k) :
    accum m n k = min (m - 1) (n k - n 0) := by
  induction k with
  | zero => rw [accum, Nat.sub_self, Nat.min_zero]
  | succ k ih =>
    have hstart := hn (Nat.zero_le k)
    have hstep : n k ≤ n (k + 1) := hn (Nat.le_succ k)
    have hgap : (n (k + 1) - n k) % m = n (k + 1) - n k := Nat.mod_eq_of_lt (hk k (by omega))
    rw [accum, ih fun i hi => hk i (by omega), hgap]
    omega

end Wrapping

end Librasp
