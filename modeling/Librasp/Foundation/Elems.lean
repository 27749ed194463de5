import Mathlib.Tactic

/-!
# Lists of fixed-size elements

`elems k l` are the elements of `k` cells each that a list of cells begins with; what is left over
at the end is not an element. So there are `l.length / k` of them, and a buffer of records of one
size is read as the records that are whole.

The laws say that elements lie one behind the other, so that a part of the cells is a part of the
elements: `elems_append` takes one off the front, `flatten_take_elems` has the cells of the first
few, and `elems_flatten` reads elements laid one behind the other back.
-/

namespace Librasp

variable {α : Type*}

/-- The whole elements of `k` cells in a list. -/
def elems (k : ℕ) (l : List α) : List (List α) :=
  (List.range (l.length / k)).map fun i => (l.drop (k * i)).take k

@[simp]
theorem length_elems (k : ℕ) (l : List α) : (elems k l).length = l.length / k := by simp [elems]

/-- The cells of the first `n` elements are the first `k * n` cells. -/
theorem flatten_take_elems {k n : ℕ} {l : List α} (h : n ≤ l.length / k) :
    ((elems k l).take n).flatten = l.take (k * n) := by
  rw [elems, ← List.map_take, List.take_range, Nat.min_eq_left h]
  clear h
  induction n with
  | zero => simp
  | succ n ih =>
    rw [List.range_succ, List.map_append, List.flatten_append, ih, Nat.mul_succ, List.take_add]
    simp

/-- Every element has `k` cells. -/
theorem length_of_mem_elems {k : ℕ} {l e : List α} (h : e ∈ elems k l) : e.length = k := by
  obtain ⟨i, hi, rfl⟩ := List.mem_map.mp h
  have hi : i < l.length / k := List.mem_range.mp hi
  have hle : k * (i + 1) ≤ l.length :=
    (Nat.mul_le_mul_left k hi).trans (Nat.mul_div_le l.length k)
  rw [Nat.mul_succ] at hle
  rw [List.length_take, List.length_drop]
  omega

theorem elems_append {k : ℕ} (hk : 0 < k) {e : List α} (he : e.length = k) (l : List α) :
    elems k (e ++ l) = e :: elems k l := by
  have hdiv : (e ++ l).length / k = l.length / k + 1 := by
    rw [List.length_append, he, Nat.add_comm, Nat.add_div_right _ hk]
  rw [elems, hdiv, List.range_succ_eq_map, List.map_cons, List.map_map, elems]
  congr 1
  · rw [Nat.mul_zero, List.drop_zero, List.take_left' he]
  · refine List.map_congr_left fun i _ => ?_
    rw [Function.comp_apply, Nat.mul_succ, Nat.add_comm, ← List.drop_drop, List.drop_left' he]

/-- The elements of elements laid one behind the other. -/
theorem elems_flatten {k : ℕ} (hk : 0 < k) {L : List (List α)} (hL : ∀ e ∈ L, e.length = k) :
    elems k L.flatten = L := by
  induction L with
  | nil => simp [elems]
  | cons e L ih =>
    rw [List.flatten_cons, elems_append hk (hL e List.mem_cons_self),
      ih fun e he => hL e (List.mem_cons_of_mem _ he)]

end Librasp
