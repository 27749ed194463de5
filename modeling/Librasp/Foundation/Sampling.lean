import Mathlib.Tactic

/-!
# Sampling a pulse

A signal is looked at again and again, and two looks are at least `p` and at most `q` apart
(`Paced`). The number of looks into an interval then tells its length up to one look on each side:
there are `j - 1 - i` gaps between the first and the last look into it (`Paced.lt_of_first`), and
`j - i + 1` from the last look before it to the first one behind (`Paced.le_of_first`).

* `First look t k` names the first look that is not before a time; there is one for every time if
  the looks go on (`exists_first`, `Paced.reaches`).
* A signal that changes its level several times is looked at once at least between two changes
  that are `q` apart, and the looks fall into stretches, one for each level (`flatMap_range'`).

Times are natural numbers in any unit. What the looks see is up to who uses this.
-/

namespace Librasp

namespace Sampling

variable {p q : ℕ} {look : ℕ → ℕ}

/-- Two looks are at least `p` and at most `q` apart. -/
structure Paced (p q : ℕ) (look : ℕ → ℕ) : Prop where
  least : ∀ k, look k + p ≤ look (k + 1)
  most : ∀ k, look (k + 1) ≤ look k + q

/-- The look with the number `k` is the first one that is not before `t`. -/
structure First (look : ℕ → ℕ) (t k : ℕ) : Prop where
  before : ∀ i < k, look i < t
  reached : t ≤ look k

theorem Paced.add_mul_le (h : Paced p q look) (k n : ℕ) : look k + p * n ≤ look (k + n) := by
  induction n with
  | zero => simp
  | succ n ih =>
    have hstep := h.least (k + n)
    rw [mul_add, mul_one, ← add_assoc k n 1]
    omega

theorem Paced.le_add_mul (h : Paced p q look) (k n : ℕ) : look (k + n) ≤ look k + q * n := by
  induction n with
  | zero => simp
  | succ n ih =>
    have hstep := h.most (k + n)
    rw [mul_add, mul_one, ← add_assoc k n 1]
    omega

theorem Paced.monotone (h : Paced p q look) : Monotone look :=
  monotone_nat_of_le_succ fun k => (Nat.le_add_right _ p).trans (h.least k)

theorem exists_first (hinf : ∀ t, ∃ k, t ≤ look k) (t : ℕ) : ∃ k, First look t k := by
  classical
  exact ⟨Nat.find (hinf t), fun _ hi => not_le.mp (Nat.find_min (hinf t) hi),
    Nat.find_spec (hinf t)⟩

/-- Looks that are apart reach every time. -/
theorem Paced.reaches (h : Paced p q look) (hp : 0 < p) (t : ℕ) : ∃ k, t ≤ look k := by
  refine ⟨t, ?_⟩
  have hle := h.add_mul_le 0 t
  have hmul : t ≤ p * t := Nat.le_mul_of_pos_left t hp
  rw [Nat.zero_add] at hle
  omega

theorem First.of_le (hmono : Monotone look) {t k i : ℕ} (hk : First look t k) (hi : k ≤ i) :
    t ≤ look i :=
  hk.reached.trans (hmono hi)

/-- The looks before the first one at `fall`, from the first one at `rise` on, are those into the
interval. -/
theorem First.mem_iff (hmono : Monotone look) {rise fall i j k : ℕ} (hi : First look rise i)
    (hj : First look fall j) : rise ≤ look k ∧ look k < fall ↔ i ≤ k ∧ k < j := by
  constructor
  · rintro ⟨hrise, hfall⟩
    refine ⟨not_lt.mp fun hlt => ?_, not_le.mp fun hle => ?_⟩
    · exact absurd hrise (not_le.mpr (hi.before k hlt))
    · exact absurd hfall (not_lt.mpr (hj.of_le hmono hle))
  · rintro ⟨hik, hkj⟩
    exact ⟨hi.of_le hmono hik, hj.before k hkj⟩

section Bounds

variable {rise fall i j : ℕ} (h : Paced p q look) (hi : First look rise i)
  (hj : First look fall j)

include h hi hj

/-- An interval that is not shorter than the longest gap is looked into. -/
theorem Paced.first_lt_first (hstart : look 0 ≤ rise) (hlong : rise + q ≤ fall) (hq : 0 < q) :
    i < j := by
  refine not_le.mp fun hle => ?_
  have hlate : fall ≤ look i := hj.of_le h.monotone hle
  rcases i with _ | i
  · omega
  · have hmost := h.most i
    have hbefore := hi.before i (Nat.lt_succ_self i)
    omega

/-- From the first look into the interval to the last one there are `j - 1 - i` gaps. -/
theorem Paced.lt_of_first (hij : i < j) : rise + p * (j - i - 1) < fall := by
  have hlast : look (j - 1) < fall := hj.before (j - 1) (by omega)
  have hspan := h.add_mul_le i (j - i - 1)
  rw [show i + (j - i - 1) = j - 1 by omega] at hspan
  have hrise := hi.reached
  omega

/-- From the last look before the interval to the first one after it there are `j - i + 1`. -/
theorem Paced.le_of_first (hstart : look 0 ≤ rise) (hij : i < j) :
    fall ≤ rise + q * (j - i + 1) := by
  have hfall := hj.reached
  rcases i with _ | i
  · have hspan := h.le_add_mul 0 j
    rw [Nat.zero_add] at hspan
    have hmul : q * j ≤ q * (j - 0 + 1) := Nat.mul_le_mul_left q (by omega)
    omega
  · have hspan := h.le_add_mul i (j - (i + 1) + 1)
    rw [show i + (j - (i + 1) + 1) = j by omega] at hspan
    have hbefore := hi.before i (Nat.lt_succ_self i)
    omega

end Bounds

theorem range'_append_range' {a b c : ℕ} (hab : a ≤ b) (hbc : b ≤ c) :
    List.range' a (b - a) ++ List.range' b (c - b) = List.range' a (c - a) := by
  have hcut := List.range'_append_1 (s := a) (m := b - a) (n := c - b)
  rwa [show a + (b - a) = b by omega, show b - a + (c - b) = c - a by omega] at hcut

/-- Stretches that follow one another make up all of the numbers. -/
theorem flatMap_range' {n : ℕ → ℕ} {m : ℕ} (hn : ∀ k < m, n k ≤ n (k + 1)) :
    n 0 ≤ n m ∧ (List.range m).flatMap (fun k => List.range' (n k) (n (k + 1) - n k)) =
      List.range' (n 0) (n m - n 0) := by
  induction m with
  | zero => simp
  | succ m ih =>
    obtain ⟨hfirst, hall⟩ := ih fun k hk => hn k (Nat.lt_succ_of_lt hk)
    have hlast := hn m (Nat.lt_succ_self m)
    refine ⟨hfirst.trans hlast, ?_⟩
    rw [List.range_succ, List.flatMap_append, hall, List.flatMap_singleton]
    exact range'_append_range' hfirst hlast

end Sampling

end Librasp
