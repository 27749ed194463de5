import Mathlib.Data.List.GetD
import Mathlib.Tactic

/-!
# Flat memories

A memory assigns a cell to every address. `read` takes a block out of it as a list, `write` stores
a list at an address, and the laws below say how the two meet: a block reads back as it was
written, and blocks that do not touch the written cells read as before. Addresses are unbounded
and cells are of any type, so that one development covers a receive buffer, a caller's memory and
a block of registers alike.

* `writeAll` applies a journal of writes in order. Frame statements about code that writes several
  blocks are statements about its journal: `writeAll_apply_of_forall_not_mem` for a cell outside
  of every block, `read_writeAll_of_mem` for a block that no other write meets.
* `layout` is the journal that lays blocks out one behind the other, as an encoder does;
  `read_writeAll_layout` reads them back as one.
* `Apart` says that two stretches of memory have no byte in common. Stretches that lie apart below
  a bound take up at most as many bytes (`sum_le_of_apart`), as their sets of addresses (`cells`)
  are disjoint.
-/

namespace Librasp

variable {α : Type*}

/-- A memory: the cell at each address. -/
abbrev Mem (α : Type*) := ℕ → α

namespace Mem

/-- The block of `n` cells from address `a` on. -/
def read (m : Mem α) (a n : ℕ) : List α := (List.range n).map fun i => m (a + i)

/-- Store a block at address `a`. -/
def write (m : Mem α) (a : ℕ) (bs : List α) : Mem α := fun x =>
  if x < a then m x else bs.getD (x - a) (m x)

/-- The memory that holds a list from address `0` on and `d` everywhere else. -/
def ofList (d : α) (bs : List α) : Mem α := fun x => bs.getD x d

/-! ### Reading -/

@[simp]
theorem length_read (m : Mem α) (a n : ℕ) : (m.read a n).length = n := by simp [read]

@[simp]
theorem read_zero (m : Mem α) (a : ℕ) : m.read a 0 = [] := rfl

@[simp]
theorem getElem_read (m : Mem α) {a n i : ℕ} (h : i < (m.read a n).length) :
    (m.read a n)[i] = m (a + i) := by simp [read]

theorem read_add (m : Mem α) (a n k : ℕ) :
    m.read a (n + k) = m.read a n ++ m.read (a + n) k := by
  simp [read, List.range_add, Function.comp_def, Nat.add_assoc]

theorem read_succ (m : Mem α) (a n : ℕ) : m.read a (n + 1) = m a :: m.read (a + 1) n := by
  rw [Nat.add_comm, read_add]
  rfl

theorem read_congr {m m' : Mem α} {a n : ℕ} (h : ∀ x, a ≤ x → x < a + n → m x = m' x) :
    m.read a n = m'.read a n := by
  simp only [read, List.map_inj_left, List.mem_range]
  exact fun i hi => h (a + i) (by omega) (by omega)

theorem take_read (m : Mem α) {a n k : ℕ} (h : k ≤ n) : (m.read a n).take k = m.read a k := by
  obtain ⟨j, rfl⟩ := Nat.exists_eq_add_of_le h
  rw [read_add, List.take_left' (length_read ..)]

theorem drop_read (m : Mem α) (a n k : ℕ) : (m.read a n).drop k = m.read (a + k) (n - k) := by
  rcases Nat.le_total k n with h | h
  · obtain ⟨j, rfl⟩ := Nat.exists_eq_add_of_le h
    rw [read_add, List.drop_left' (length_read ..), Nat.add_sub_cancel_left]
  · rw [List.drop_eq_nil_of_le (by simpa using h), Nat.sub_eq_zero_of_le h, read_zero]

/-- A block inside a list's memory is that part of the list. -/
theorem read_ofList (d : α) {bs : List α} {a n : ℕ} (h : a + n ≤ bs.length) :
    (ofList d bs).read a n = (bs.drop a).take n := by
  refine List.ext_getElem (by simp; omega) fun i h₁ h₂ => ?_
  have hi : i < n := by simpa using h₁
  rw [getElem_read, List.getElem_take, List.getElem_drop, ofList, List.getD_eq_getElem]

/-- Two memories that agree on a block agree with the list's memory there. -/
theorem read_ofList_read (d : α) (m : Mem α) {p l a n : ℕ} (h : a + n ≤ l) :
    (ofList d (m.read p l)).read a n = m.read (p + a) n := by
  rw [read_ofList d (by simpa using h), drop_read, take_read _ (by omega)]

theorem ofList_read_apply (d : α) (m : Mem α) {p l x : ℕ} (h : x < l) :
    ofList d (m.read p l) x = m (p + x) := by
  rw [ofList, List.getD_eq_getElem _ _ (by simpa using h), getElem_read]

/-! ### Writing -/

theorem write_of_lt (m : Mem α) {a x : ℕ} (bs : List α) (h : x < a) : m.write a bs x = m x :=
  if_pos h

theorem write_of_ge (m : Mem α) {a x : ℕ} {bs : List α} (h : a + bs.length ≤ x) :
    m.write a bs x = m x := by
  rw [write, if_neg (by omega), List.getD_eq_default _ _ (by omega)]

@[simp]
theorem write_nil (m : Mem α) (a : ℕ) : m.write a [] = m := by
  funext x
  simp [write]

/-- A block reads back as it was written. -/
@[simp]
theorem read_write_self (m : Mem α) (a : ℕ) (bs : List α) :
    (m.write a bs).read a bs.length = bs := by
  refine List.ext_getElem (by simp) fun i h₁ h₂ => ?_
  rw [getElem_read, write, if_neg (by omega), Nat.add_sub_cancel_left, List.getD_eq_getElem]

/-- A block that does not meet the written cells reads as before. -/
theorem read_write_of_disjoint (m : Mem α) {a n b : ℕ} {bs : List α}
    (h : a + n ≤ b ∨ b + bs.length ≤ a) : (m.write b bs).read a n = m.read a n := by
  refine read_congr fun x hx hx' => ?_
  rcases h with h | h
  · exact write_of_lt m bs (by omega)
  · exact write_of_ge m (by omega)

/-- Writing at the end of a block extends the block. -/
theorem read_write_append (m : Mem α) (a n : ℕ) (bs : List α) :
    (m.write (a + n) bs).read a (n + bs.length) = m.read a n ++ bs := by
  rw [read_add, read_write_of_disjoint m (Or.inl le_rfl), read_write_self]

/-! ### Journals of writes -/

/-- Apply a journal of writes, the earliest first. -/
def writeAll (m : Mem α) : List (ℕ × List α) → Mem α
  | [] => m
  | w :: ws => (m.write w.1 w.2).writeAll ws

theorem writeAll_append (m : Mem α) (ws ws' : List (ℕ × List α)) :
    m.writeAll (ws ++ ws') = (m.writeAll ws).writeAll ws' := by
  induction ws generalizing m with
  | nil => rfl
  | cons w ws ih => exact ih _

theorem writeAll_concat (m : Mem α) (ws : List (ℕ × List α)) (a : ℕ) (bs : List α) :
    m.writeAll (ws ++ [(a, bs)]) = (m.writeAll ws).write a bs := by
  rw [writeAll_append]
  rfl

/-- **Frame rule.** A cell outside every block of the journal keeps its contents. -/
theorem writeAll_apply_of_forall_not_mem (m : Mem α) {ws : List (ℕ × List α)} {x : ℕ}
    (h : ∀ w ∈ ws, x < w.1 ∨ w.1 + w.2.length ≤ x) : m.writeAll ws x = m x := by
  induction ws generalizing m with
  | nil => rfl
  | cons w ws ih =>
    rw [writeAll, ih _ fun v hv => h v (List.mem_cons_of_mem _ hv)]
    rcases h w List.mem_cons_self with hw | hw
    · exact write_of_lt m _ hw
    · exact write_of_ge m hw

/-- A block that no write of the journal meets reads as before. -/
theorem read_writeAll_of_disjoint (m : Mem α) {ws : List (ℕ × List α)} {a n : ℕ}
    (h : ∀ w ∈ ws, a + n ≤ w.1 ∨ w.1 + w.2.length ≤ a) :
    (m.writeAll ws).read a n = m.read a n :=
  read_congr fun _ hx hx' =>
    writeAll_apply_of_forall_not_mem m fun w hw => (h w hw).elim (by omega) (by omega)

/-- A block of the journal that no other write meets reads back as it was written. The induction
is on the journal: the writes before the block do not matter, and those behind it do not meet
it. -/
theorem read_writeAll_of_mem (m : Mem α) {ws : List (ℕ × List α)} {w : ℕ × List α}
    (hw : w ∈ ws)
    (h : ∀ v ∈ ws, v = w ∨ w.1 + w.2.length ≤ v.1 ∨ v.1 + v.2.length ≤ w.1) :
    (m.writeAll ws).read w.1 w.2.length = w.2 := by
  induction ws generalizing m with
  | nil => cases hw
  | cons v ws ih =>
    have hrest : ∀ u ∈ ws, u = w ∨ w.1 + w.2.length ≤ u.1 ∨ u.1 + u.2.length ≤ w.1 :=
      fun u hu => h u (List.mem_cons_of_mem _ hu)
    rw [writeAll]
    by_cases hmem : w ∈ ws
    · exact ih _ hmem hrest
    · -- the block is written first, and nothing comes near it afterwards
      obtain rfl : w = v := (List.mem_cons.mp hw).resolve_right hmem
      rw [read_writeAll_of_disjoint, read_write_self]
      intro u hu
      exact (hrest u hu).resolve_left fun heq => hmem (heq ▸ hu)

/-- The journal that lays blocks out one behind the other from an address on. -/
def layout (a : ℕ) : List (List α) → List (ℕ × List α)
  | [] => []
  | bs :: bss => (a, bs) :: layout (a + bs.length) bss

/-- Every block of a layout lies between its ends. -/
theorem mem_layout {a : ℕ} {bss : List (List α)} {w : ℕ × List α} (h : w ∈ layout a bss) :
    a ≤ w.1 ∧ w.1 + w.2.length ≤ a + bss.flatten.length := by
  induction bss generalizing a with
  | nil => cases h
  | cons bs bss ih =>
    rw [List.flatten_cons, List.length_append]
    rcases List.mem_cons.mp h with rfl | h
    · dsimp only
      omega
    · have := ih h
      omega

/-- Blocks that were laid out read back as one. -/
theorem read_writeAll_layout (m : Mem α) (a : ℕ) (bss : List (List α)) :
    (m.writeAll (layout a bss)).read a bss.flatten.length = bss.flatten := by
  induction bss generalizing m a with
  | nil => rfl
  | cons bs bss ih =>
    have hfirst : ((m.write a bs).writeAll (layout (a + bs.length) bss)).read a bs.length =
        bs := by
      rw [read_writeAll_of_disjoint, read_write_self]
      exact fun w hw => .inl (mem_layout hw).1
    rw [layout, writeAll, List.flatten_cons, List.length_append, read_add, hfirst, ih]

end Mem

/-! ### Stretches of memory -/

/-- Two stretches of memory with no byte in common. -/
def Apart (a n b k : ℕ) : Prop := n = 0 ∨ k = 0 ∨ a + n ≤ b ∨ b + k ≤ a

instance (a n b k : ℕ) : Decidable (Apart a n b k) :=
  inferInstanceAs (Decidable (_ ∨ _ ∨ _ ∨ _))

theorem Apart.symm {a n b k : ℕ} (h : Apart a n b k) : Apart b k a n := by
  rw [Apart] at h ⊢
  omega

/-- The bytes of some stretches of memory. -/
private def cells (l : List (ℕ × ℕ)) : Finset ℕ :=
  l.foldr (fun x s => Finset.Ico x.1 (x.1 + x.2) ∪ s) ∅

private theorem mem_cells {l : List (ℕ × ℕ)} {i : ℕ} :
    i ∈ cells l ↔ ∃ x ∈ l, x.1 ≤ i ∧ i < x.1 + x.2 := by
  induction l with
  | nil => simp [cells]
  | cons x l ih =>
    have hcons : cells (x :: l) = Finset.Ico x.1 (x.1 + x.2) ∪ cells l := rfl
    simp [hcons, ih]

private theorem card_cells {l : List (ℕ × ℕ)}
    (h : l.Pairwise fun x y => Apart x.1 x.2 y.1 y.2) :
    (cells l).card = (l.map Prod.snd).sum := by
  induction l with
  | nil => rfl
  | cons x l ih =>
    obtain ⟨hx, hl⟩ := List.pairwise_cons.mp h
    have hcons : cells (x :: l) = Finset.Ico x.1 (x.1 + x.2) ∪ cells l := rfl
    have hdisj : Disjoint (Finset.Ico x.1 (x.1 + x.2)) (cells l) := by
      refine Finset.disjoint_left.mpr fun i hi hi' => ?_
      obtain ⟨y, hy, hle, hlt⟩ := mem_cells.mp hi'
      have hxy := hx y hy
      rw [Finset.mem_Ico] at hi
      rw [Apart] at hxy
      omega
    rw [hcons, Finset.card_union_of_disjoint hdisj, ih hl]
    simp

/-- Stretches of memory that lie apart below a bound take up at most as many bytes: their cells
are that many different addresses below the bound. -/
theorem sum_le_of_apart {l : List (ℕ × ℕ)} {bound : ℕ}
    (h : l.Pairwise fun x y => Apart x.1 x.2 y.1 y.2) (hle : ∀ x ∈ l, x.1 + x.2 ≤ bound) :
    (l.map Prod.snd).sum ≤ bound := by
  have hsub : cells l ⊆ Finset.range bound := by
    intro i hi
    obtain ⟨x, hx, -, hlt⟩ := mem_cells.mp hi
    exact Finset.mem_range.mpr (hlt.trans_le (hle x hx))
  calc (l.map Prod.snd).sum = (cells l).card := (card_cells h).symm
    _ ≤ (Finset.range bound).card := Finset.card_le_card hsub
    _ = bound := Finset.card_range bound

end Librasp
