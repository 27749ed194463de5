import Librasp.Foundation.Prog

/-!
# Programs on a part of a state

`zoom` runs a program on a part of a state and leaves the rest. `attempt` goes on where a program
has left early, and `forEach` runs a program for each element of a list. Their rules go with those
of `Ensures`:

* `ensures_zoom` has the rest of the state as it was;
* `ensures_attempt` has the condition on early exits where there is no value;
* `ensures_forEach` is by an invariant that counts the elements.

A `Part` is given by how it is taken out and put back, and by the one law that is used: what was
put is what is taken out. So a program that was written and verified for one device runs on a
system of many, of which each has its own part of the state.
-/

namespace Librasp

universe u v w

/-- A part of a state. -/
structure Part (σ τ : Type u) where
  get : σ → τ
  put : τ → σ → σ
  get_put : ∀ t s, get (put t s) = t

namespace Prog

variable {ε σ τ : Type u} {α : Type v} {ι : Type w}

/-- Run a program on a part of the state. -/
def zoom (p : Part σ τ) (m : Prog ε τ α) : Prog ε σ α := fun s =>
  ((m (p.get s)).1, p.put (m (p.get s)).2 s)

/-- Go on with no value where a program leaves early. -/
def attempt (m : Prog ε σ α) : Prog ε σ (Option α) := fun s =>
  match m s with
  | (.val a, s') => (.val (some a), s')
  | (.exit _, s') => (.val none, s')
  | (.more, s') => (.more, s')

/-- Run a program for each element of a list, one after the other. -/
def forEach (f : ι → Prog ε σ α) : List ι → Prog ε σ (List α)
  | [] => pure []
  | i :: is => do
    let a ← f i
    let as ← forEach f is
    return a :: as

section Rules

variable {m : Prog ε σ α} {s : σ} {Q : α → σ → Prop} {X : Exits ε σ}

/-- What the conditions on a part say of the whole, which was `s`. -/
def Exits.zoom (p : Part σ τ) (s : σ) (X : Exits ε τ) : Exits ε σ where
  exit e s' := ∃ t, s' = p.put t s ∧ X.exit e t
  more s' := ∃ t, s' = p.put t s ∧ X.more t

/-- **Parts.** -/
theorem ensures_zoom (p : Part σ τ) {m : Prog ε τ α} {Q : α → τ → Prop} {X : Exits ε τ}
    (h : Ensures m (p.get s) Q X) :
    Ensures (zoom p m) s (fun a s' => ∃ t, s' = p.put t s ∧ Q a t) (X.zoom p s) := by
  unfold Ensures at h ⊢
  rw [zoom]
  rcases hms : m (p.get s) with ⟨_ | _ | _, t⟩
  · rw [hms] at h
    exact ⟨t, rfl, h⟩
  · rw [hms] at h
    exact ⟨t, rfl, h⟩
  · rw [hms] at h
    exact ⟨t, rfl, h⟩

/-- **Attempts.** -/
theorem ensures_attempt {Q' : Option α → σ → Prop} {X' : Exits ε σ} (h : Ensures m s Q X)
    (hval : ∀ a s', Q a s' → Q' (some a) s') (hexit : ∀ e s', X.exit e s' → Q' none s')
    (hmore : ∀ s', X.more s' → X'.more s') : Ensures (attempt m) s Q' X' := by
  unfold Ensures at h ⊢
  rw [attempt]
  rcases hms : m s with ⟨_ | _ | _, s'⟩
  · rw [hms] at h
    exact hval _ s' h
  · rw [hms] at h
    exact hexit _ s' h
  · rw [hms] at h
    exact hmore s' h

/-- **For each element.** The invariant counts the elements, and the values are related to the
elements with their numbers. -/
theorem ensures_forEach {f : ι → Prog ε σ α} {I : ℕ → σ → Prop} {R : ι × ℕ → α → Prop}
    {is : List ι}
    (hstep : ∀ i ∈ is, ∀ n s, I n s → Ensures (f i) s (fun a s' => R (i, n) a ∧ I (n + 1) s') X)
    {n : ℕ} (h : I n s) :
    Ensures (forEach f is) s
      (fun as s' => List.Forall₂ R (is.zipIdx n) as ∧ I (n + is.length) s') X := by
  induction is generalizing s n with
  | nil => exact ensures_pure ⟨.nil, h⟩
  | cons i is ih =>
    refine ensures_bind (hstep i List.mem_cons_self n s h) fun a s' ha => ?_
    have hrest := ih (fun i' hi' => hstep i' (List.mem_cons_of_mem _ hi')) ha.2
    refine ensures_bind hrest fun as s'' has => ensures_pure ⟨?_, ?_⟩
    · rw [List.zipIdx_cons]
      exact .cons ha.1 has.1
    · rw [List.length_cons, Nat.add_comm is.length, ← Nat.add_assoc]
      exact has.2

end Rules

end Prog

end Librasp
