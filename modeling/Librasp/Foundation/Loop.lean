import Mathlib.Tactic

/-!
# Loops

A loop is given by its body: `step s` either stays in the loop with a new state (`.inl`) or leaves
it with a result (`.inr`). `Loop.run` executes at most `fuel` rounds. A loop that leaves does so
with one result whatever the fuel, once there is enough of it (`run_eq_some_of_le`), and a loop
that never leaves is one on which no amount of fuel helps.

Rules:

* `run_invariant`: partial correctness from an invariant of the body;
* `run_refines`: total correctness from a measure, against a function on abstract states that each
  round leaves unchanged;
* `run_eq_none_of_invariant`: a loop that stays inside an invariant no exit satisfies runs for
  ever.

`Reached` are the states a loop comes to, and `Ends` says that it leaves, with progress in every
round that stays in it; `ends_of_invariant` is the rule for it.
-/

namespace Librasp

namespace Loop

variable {σ τ ρ ρ' : Type*}

/-- Run a loop for at most `fuel` rounds. -/
def run (step : σ → σ ⊕ ρ) : ℕ → σ → Option ρ
  | 0, _ => none
  | fuel + 1, s =>
    match step s with
    | .inl s' => run step fuel s'
    | .inr r => some r

variable {step : σ → σ ⊕ ρ}

theorem run_succ_of_inl {fuel : ℕ} {s s' : σ} (h : step s = .inl s') :
    run step (fuel + 1) s = run step fuel s' := by simp [run, h]

theorem run_succ_of_inr {fuel : ℕ} {s : σ} {r : ρ} (h : step s = .inr r) :
    run step (fuel + 1) s = some r := by simp [run, h]

/-- More fuel does not change a result. -/
theorem run_eq_some_of_le {fuel fuel' : ℕ} {s : σ} {r : ρ} (h : run step fuel s = some r)
    (hle : fuel ≤ fuel') : run step fuel' s = some r := by
  induction fuel generalizing s fuel' with
  | zero => simp [run] at h
  | succ fuel ih =>
    obtain ⟨n, rfl⟩ : ∃ n, fuel' = n + 1 := ⟨fuel' - 1, by omega⟩
    rcases hs : step s with s' | r'
    · rw [run_succ_of_inl hs] at h ⊢
      exact ih h (by omega)
    · rw [run_succ_of_inr hs] at h ⊢
      exact h

/-- **Partial correctness.** A loop whose body keeps an invariant leaves from a state that
satisfies it. -/
theorem run_invariant {I : σ → Prop}
    (hstep : ∀ s s', I s → step s = .inl s' → I s') {fuel : ℕ} {s : σ} {r : ρ}
    (hs : I s) (h : run step fuel s = some r) : ∃ s', I s' ∧ step s' = .inr r := by
  induction fuel generalizing s with
  | zero => simp [run] at h
  | succ fuel ih =>
    rcases hc : step s with s' | r'
    · rw [run_succ_of_inl hc] at h
      exact ih (hstep s s' hs hc) h
    · rw [run_succ_of_inr hc] at h
      exact ⟨s, hs, by rw [hc, Option.some.inj h]⟩

/-- **Total correctness against an abstract function.** Let every concrete state stand for an
abstract one. If each round either leaves with a result that matches `f` of the abstract
state, or moves to a smaller state whose abstract counterpart `f` treats the same, then the
loop leaves, with a result that matches `f`. -/
theorem run_refines {R : σ → τ → Prop} {f : τ → ρ'} {Q : ρ → ρ' → Prop} (μ : σ → ℕ)
    (hstep : ∀ s t, R s t →
      (∃ r, step s = .inr r ∧ Q r (f t)) ∨
        ∃ s' t', step s = .inl s' ∧ R s' t' ∧ μ s' < μ s ∧ f t' = f t)
    {fuel : ℕ} {s : σ} {t : τ} (hR : R s t) (hfuel : μ s < fuel) :
    ∃ r, run step fuel s = some r ∧ Q r (f t) := by
  induction fuel generalizing s t with
  | zero => exact absurd hfuel (Nat.not_lt_zero _)
  | succ fuel ih =>
    rcases hstep s t hR with ⟨r, hr, hQ⟩ | ⟨s', t', hs', hR', hlt, hf⟩
    · exact ⟨r, run_succ_of_inr hr, hQ⟩
    · rw [run_succ_of_inl hs', ← hf]
      exact ih hR' (by omega)

/-- **Divergence.** A loop whose body never leaves from an invariant, and keeps it, has no
result at all. -/
theorem run_eq_none_of_invariant {I : σ → Prop}
    (hstep : ∀ s, I s → ∃ s', step s = .inl s' ∧ I s') {s : σ} (hs : I s) (fuel : ℕ) :
    run step fuel s = none := by
  induction fuel generalizing s with
  | zero => rfl
  | succ fuel ih =>
    obtain ⟨s', hs', hI⟩ := hstep s hs
    rw [run_succ_of_inl hs']
    exact ih hI

/-- The states a loop comes to. -/
inductive Reached (step : σ → σ ⊕ ρ) (s : σ) : σ → Prop
  | start : Reached step s s
  | round {t t' : σ} : Reached step s t → step t = .inl t' → Reached step s t'

theorem Reached.invariant {I : σ → Prop} (hstep : ∀ t t', I t → step t = .inl t' → I t')
    {s t : σ} (hs : I s) (h : Reached step s t) : I t := by
  induction h with
  | start => exact hs
  | round _ ht ih => exact hstep _ _ ih ht

/-- A loop that leaves does so from a state it comes to. -/
theorem exists_reached_of_run {fuel : ℕ} {s : σ} {r : ρ} (h : run step fuel s = some r) :
    ∃ t, Reached step s t ∧ step t = .inr r :=
  run_invariant (fun _ _ ht hstep => ht.round hstep) .start h

/-- A loop leaves, and every round that stays in it makes progress. -/
structure Ends (step : σ → σ ⊕ ρ) (progress : σ → σ → Prop) (s : σ) : Prop where
  leaves : ∃ fuel r, run step fuel s = some r
  progress : ∀ t t', Reached step s t → step t = .inl t' → progress t t'

/-- **Termination.** A loop ends if, inside an invariant, every round that stays in it makes a
measure smaller. -/
theorem ends_of_invariant {I : σ → Prop} {progress : σ → σ → Prop} (μ : σ → ℕ)
    (hstep : ∀ t t', I t → step t = .inl t' → I t' ∧ progress t t' ∧ μ t' < μ t) {s : σ}
    (hs : I s) : Ends step progress s where
  leaves := by
    induction hn : μ s using Nat.strong_induction_on generalizing s with
    | _ n ih =>
      subst hn
      rcases ht : step s with t | r
      · obtain ⟨hI, -, hlt⟩ := hstep s t hs ht
        obtain ⟨fuel, r, hrun⟩ := ih _ hlt hI rfl
        exact ⟨fuel + 1, r, (run_succ_of_inl ht).trans hrun⟩
      · exact ⟨1, r, run_succ_of_inr ht⟩
  progress t t' ht ht' :=
    (hstep t t' (ht.invariant (fun _ _ hI hstay => (hstep _ _ hI hstay).1) hs) ht').2.1

end Loop

end Librasp
