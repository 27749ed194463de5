import Mathlib.Tactic

/-!
# Programs with early exits

A program changes a state, and comes to its end with a value, or leaves early with a code
(`exit`). A loop is run for a number of rounds; where these do not suffice, the program is still
running (`more`). `finish` runs a cleanup on every way out, and so makes a code the result.

So `goto finish` of a C function is `exit`, and the label with what follows it is `finish`. A
program is a function of its start state, and its rules by equations (`bind_of_val`,
`bind_of_exit`, `finish_of_val`) run it by hand where its calls are known.

`Ensures` says what holds where a program ends. The conditions on its early exits, and on the
states it is still running in, stay the same along a program (`Exits`); the condition on its value
is that of the rules:

* `ensures_bind` for a sequence;
* `ensures_loop` for a loop, by an invariant that holds before each round;
* `ensures_finish` for a cleanup.

A program that can neither leave early nor go on for ever returns a value (`Ensures.exists_val`).
-/

namespace Librasp

universe u v

/-- How a program ends. -/
inductive Outcome (ε : Type u) (α : Type v)
  | val (a : α)
  | exit (e : ε)
  | more
  deriving DecidableEq, Repr

/-- A program on states `σ`, with exit codes `ε`. -/
def Prog (ε σ : Type u) (α : Type v) := σ → Outcome ε α × σ

namespace Prog

variable {ε σ : Type u} {α β τ : Type v}

/-- Go on with the value of a program. -/
def bind (m : Prog ε σ α) (f : α → Prog ε σ β) : Prog ε σ β := fun s =>
  match m s with
  | (.val a, s') => f a s'
  | (.exit e, s') => (.exit e, s')
  | (.more, s') => (.more, s')

instance : Monad (Prog ε σ) where
  pure a := fun s => (.val a, s)
  bind := bind

/-- Leave with a code. -/
def exit (e : ε) : Prog ε σ α := fun s => (.exit e, s)

/-- Change the state. -/
def modify (f : σ → σ) : Prog ε σ Unit := fun s => (.val (), f s)

/-- A loop of at most `fuel` rounds: a round stays in it (`.inl`) or leaves it (`.inr`). -/
def loop (round : τ → Prog ε σ (τ ⊕ α)) : ℕ → τ → Prog ε σ α
  | 0, _ => fun s => (.more, s)
  | fuel + 1, t => bind (round t) fun
    | .inl t' => loop round fuel t'
    | .inr a => fun s => (.val a, s)

/-- Run a cleanup when a program has ended; its code is the result then. -/
def finish (m : Prog ε σ ε) (cleanup : Prog ε σ Unit) : Prog ε σ ε := fun s =>
  match m s with
  | (.val e, s') => (.val e, (cleanup s').2)
  | (.exit e, s') => (.val e, (cleanup s').2)
  | (.more, s') => (.more, s')

section Apply

variable {m : Prog ε σ α} {s s' : σ}

theorem bind_of_val {a : α} (h : m s = (.val a, s')) (f : α → Prog ε σ β) :
    (m >>= f) s = f a s' := by
  change bind m f s = _
  rw [bind, h]

theorem bind_of_exit {e : ε} (h : m s = (.exit e, s')) (f : α → Prog ε σ β) :
    (m >>= f) s = (.exit e, s') := by
  change bind m f s = _
  rw [bind, h]

theorem bind_of_more (h : m s = (.more, s')) (f : α → Prog ε σ β) :
    (m >>= f) s = (.more, s') := by
  change bind m f s = _
  rw [bind, h]

theorem bind_assoc (m : Prog ε σ α) (f : α → Prog ε σ β) {γ : Type v} (h : β → Prog ε σ γ) :
    m >>= f >>= h = m >>= fun a => f a >>= h := by
  funext s
  change bind (bind m f) h s = bind m (fun a => bind (f a) h) s
  rw [bind, bind, bind]
  rcases m s with ⟨_ | _ | _, s'⟩ <;> rfl

theorem loop_of_stay {round : τ → Prog ε σ (τ ⊕ α)} {t t' : τ}
    (h : round t s = (.val (.inl t'), s')) (fuel : ℕ) :
    loop round (fuel + 1) t s = loop round fuel t' s' := by
  change bind (round t) _ s = _
  rw [bind, h]

theorem loop_of_leave {round : τ → Prog ε σ (τ ⊕ α)} {t : τ} {a : α}
    (h : round t s = (.val (.inr a), s')) (fuel : ℕ) :
    loop round (fuel + 1) t s = (.val a, s') := by
  change bind (round t) _ s = _
  rw [bind, h]

theorem loop_of_exit {round : τ → Prog ε σ (τ ⊕ α)} {t : τ} {e : ε}
    (h : round t s = (.exit e, s')) (fuel : ℕ) : loop round (fuel + 1) t s = (.exit e, s') := by
  change bind (round t) _ s = _
  rw [bind, h]

theorem finish_of_val {m : Prog ε σ ε} {e : ε} (h : m s = (.val e, s')) (cleanup : Prog ε σ Unit) :
    finish m cleanup s = (.val e, (cleanup s').2) := by
  rw [finish, h]

theorem finish_of_exit {m : Prog ε σ ε} {e : ε} (h : m s = (.exit e, s'))
    (cleanup : Prog ε σ Unit) : finish m cleanup s = (.val e, (cleanup s').2) := by
  rw [finish, h]

end Apply

/-! ### What holds where a program ends -/

/-- What is to hold on an early exit, and while a program is running. -/
structure Exits (ε σ : Type u) where
  exit : ε → σ → Prop
  more : σ → Prop

/-- From `s`, the program ends as is said. -/
def Ensures (m : Prog ε σ α) (s : σ) (Q : α → σ → Prop) (X : Exits ε σ) : Prop :=
  match m s with
  | (.val a, s') => Q a s'
  | (.exit e, s') => X.exit e s'
  | (.more, s') => X.more s'

section Rules

variable {m : Prog ε σ α} {s : σ} {Q Q' : α → σ → Prop} {R : β → σ → Prop} {X : Exits ε σ}

theorem ensures_pure {a : α} (h : Q a s) : Ensures (pure a : Prog ε σ α) s Q X := h

theorem ensures_modify {f : σ → σ} {Q : Unit → σ → Prop} (h : Q () (f s)) :
    Ensures (modify f : Prog ε σ Unit) s Q X := h

/-- A program after another, which it knows to have been run: besides what holds after the first
one, its run itself is at hand. -/
theorem ensures_bind_run (hm : Ensures m s Q X) {f : α → Prog ε σ β}
    (hf : ∀ a s', m s = (.val a, s') → Q a s' → Ensures (f a) s' R X) :
    Ensures (m >>= f) s R X := by
  change Ensures (bind m f) s R X
  unfold Ensures at hm ⊢
  rw [bind]
  rcases hms : m s with ⟨_ | _ | _, s'⟩
  · rw [hms] at hm
    exact hf _ s' hms hm
  · rw [hms] at hm
    exact hm
  · rw [hms] at hm
    exact hm

theorem ensures_bind (hm : Ensures m s Q X) {f : α → Prog ε σ β}
    (hf : ∀ a s', Q a s' → Ensures (f a) s' R X) : Ensures (m >>= f) s R X :=
  ensures_bind_run hm fun a s' _ => hf a s'

theorem Ensures.mono (h : Ensures m s Q X) (hQ : ∀ a s', Q a s' → Q' a s') :
    Ensures m s Q' X := by
  unfold Ensures at h ⊢
  rcases hms : m s with ⟨_ | _ | _, s'⟩
  · rw [hms] at h
    exact hQ _ s' h
  · rw [hms] at h
    exact h
  · rw [hms] at h
    exact h

theorem Ensures.mono_exits {X' : Exits ε σ} (h : Ensures m s Q X)
    (hexit : ∀ e s', X.exit e s' → X'.exit e s') (hmore : ∀ s', X.more s' → X'.more s') :
    Ensures m s Q X' := by
  unfold Ensures at h ⊢
  rcases hms : m s with ⟨_ | _ | _, s'⟩
  · rw [hms] at h
    exact h
  · rw [hms] at h
    exact hexit _ s' h
  · rw [hms] at h
    exact hmore s' h

/-- Two conditions on a value, with the exits of the second. -/
theorem Ensures.and {X' : Exits ε σ} (h : Ensures m s Q X) (h' : Ensures m s Q' X') :
    Ensures m s (fun a s' => Q a s' ∧ Q' a s') X' := by
  unfold Ensures at h h' ⊢
  rcases hms : m s with ⟨_ | _ | _, s'⟩
  · rw [hms] at h h'
    exact ⟨h, h'⟩
  · rw [hms] at h'
    exact h'
  · rw [hms] at h'
    exact h'

/-- How a program ends, with what holds there. -/
theorem Ensures.outcome (h : Ensures m s Q X) :
    (∃ a, (m s).1 = .val a ∧ Q a (m s).2) ∨ (∃ e, (m s).1 = .exit e ∧ X.exit e (m s).2) ∨
      (m s).1 = .more ∧ X.more (m s).2 := by
  unfold Ensures at h
  rcases hms : m s with ⟨a | e | _, s'⟩
  · rw [hms] at h
    exact Or.inl ⟨a, rfl, h⟩
  · rw [hms] at h
    exact Or.inr (Or.inl ⟨e, rfl, h⟩)
  · rw [hms] at h
    exact Or.inr (Or.inr ⟨rfl, h⟩)

/-- A program that may neither leave early nor go on returns a value. -/
theorem Ensures.exists_val (h : Ensures m s Q ⟨fun _ _ => False, fun _ => False⟩) :
    ∃ a s', m s = (.val a, s') ∧ Q a s' := by
  unfold Ensures at h
  rcases hms : m s with ⟨a | _ | _, s'⟩
  · rw [hms] at h
    exact ⟨a, s', rfl, h⟩
  · rw [hms] at h
    exact h.elim
  · rw [hms] at h
    exact h.elim

/-- **Loops.** What holds before a loop, and is kept by every round that stays in it, holds before
each round, and so where the loop leaves. The induction is on the rounds that are left; where
there are none the loop is still running. -/
theorem ensures_loop {I : τ → σ → Prop} {round : τ → Prog ε σ (τ ⊕ α)}
    (hround : ∀ t s, I t s → Ensures (round t) s (fun r s' => Sum.elim (I · s') (Q · s') r) X)
    (hmore : ∀ t s, I t s → X.more s) (fuel : ℕ) {t : τ} (h : I t s) :
    Ensures (loop round fuel t) s Q X := by
  induction fuel generalizing t s with
  | zero => exact hmore t s h
  | succ fuel ih =>
    refine ensures_bind (hround t s h) fun r s' hr => ?_
    rcases r with t' | a
    · exact ih hr
    · exact hr

/-- **Cleanups.** A program with a cleanup does not leave early. -/
theorem ensures_finish {m : Prog ε σ ε} {cleanup : Prog ε σ Unit} {P R : ε → σ → Prop}
    (hm : Ensures m s P X) (hval : ∀ e s', P e s' → R e (cleanup s').2)
    (hexit : ∀ e s', X.exit e s' → R e (cleanup s').2) :
    Ensures (finish m cleanup) s R ⟨fun _ _ => False, X.more⟩ := by
  unfold Ensures at hm ⊢
  rw [finish]
  rcases hms : m s with ⟨_ | _ | _, s'⟩
  · rw [hms] at hm
    exact hval _ s' hm
  · rw [hms] at hm
    exact hexit _ s' hm
  · rw [hms] at hm
    exact hm

end Rules

end Prog

end Librasp
