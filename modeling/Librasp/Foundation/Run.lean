import Mathlib.Tactic

/-!
# Runs of a transition system

A system is given by its step function: `step s a` is the state after action `a`, or `none` if `a`
is not possible in `s`. A run is a list of actions.

* `Meets` says that every action of a run meets a condition on the state it is taken in, and
  `Each` that every step of it is as it should be, of the two states and the action.

**Main results.** `run_invariant` is the rule for what holds in every state reached, for the runs
whose actions meet a condition. `each_iff_meets` is the rule for a condition that is exact: the
steps of a run are as they should be just when its actions meet it. It asks for the same of one
step, in the states of an invariant, and for a run that goes wrong nothing more is to be shown
than that its first bad step is one.
-/

namespace Librasp

namespace Run

universe u v

variable {S : Type u} {A : Type v}

/-- Take the actions one after the other. -/
def run (step : S → A → Option S) : S → List A → Option S
  | s, [] => some s
  | s, a :: as => (step s a).bind fun s' => run step s' as

/-- Every action of a run meets a condition, in the state it is taken in. -/
def Meets (step : S → A → Option S) (ok : S → A → Prop) : S → List A → Prop
  | _, [] => True
  | s, a :: as => ok s a ∧ ∀ s', step s a = some s' → Meets step ok s' as

/-- Every step of a run, from a state by an action to a state, is as it should be. -/
def Each (step : S → A → Option S) (good : S → A → S → Prop) : S → List A → Prop
  | _, [] => True
  | s, a :: as => ∀ s', step s a = some s' → good s a s' ∧ Each step good s' as

variable {step : S → A → Option S} {ok : S → A → Prop} {good : S → A → S → Prop}

theorem run_cons {s s' : S} {a : A} (h : step s a = some s') (as : List A) :
    run step s (a :: as) = run step s' as := by
  rw [run, h, Option.bind_some]

theorem meets_cons {s s' : S} {a : A} (hok : ok s a) (h : step s a = some s') {as : List A}
    (has : Meets step ok s' as) : Meets step ok s (a :: as) := by
  refine ⟨hok, fun s'' h' => ?_⟩
  rwa [← Option.some.inj (h.symm.trans h')]

/-- Without a condition every run will do. -/
theorem meets_true (s : S) (as : List A) : Meets step (fun _ _ => True) s as := by
  induction as generalizing s with
  | nil => trivial
  | cons a as ih => exact ⟨trivial, fun s' _ => ih s'⟩

/-- **Invariants.** What every action that meets the condition keeps is kept by a run. -/
theorem run_invariant {I : S → Prop}
    (hstep : ∀ s a s', I s → ok s a → step s a = some s' → I s') {s t : S} {as : List A}
    (hs : I s) (hok : Meets step ok s as) (h : run step s as = some t) : I t := by
  induction as generalizing s with
  | nil => exact Option.some.inj h ▸ hs
  | cons a as ih =>
    obtain ⟨s', ha, has⟩ := Option.bind_eq_some_iff.mp h
    exact ih (hstep s a s' hs hok.1 ha) (hok.2 s' ha) has

theorem each_mono {good' : S → A → S → Prop} (h : ∀ s a s', good s a s' → good' s a s') {s : S}
    {as : List A} (hs : Each step good s as) : Each step good' s as := by
  induction as generalizing s with
  | nil => trivial
  | cons a as ih =>
    intro s' ha
    obtain ⟨hgood, has⟩ := hs s' ha
    exact ⟨h s a s' hgood, ih has⟩

/-- **Exact conditions.** If the steps that should be taken are just those by actions that meet
the condition, and these keep an invariant, so it is for runs: up to the first action that
does not meet it every state has the invariant, and this action's step is not as it should be. -/
theorem each_iff_meets {I : S → Prop}
    (hgood : ∀ s a, I s → (ok s a ↔ ∀ s', step s a = some s' → good s a s'))
    (hkeep : ∀ s a s', I s → ok s a → step s a = some s' → I s') {s : S} (hs : I s)
    (as : List A) : Each step good s as ↔ Meets step ok s as := by
  induction as generalizing s with
  | nil => exact Iff.rfl
  | cons a as ih =>
    constructor
    · intro h
      have hok : ok s a := (hgood s a hs).mpr fun s' ha => (h s' ha).1
      exact ⟨hok, fun s' ha => (ih (hkeep s a s' hs hok ha)).mp (h s' ha).2⟩
    · rintro ⟨hok, has⟩ s' ha
      exact ⟨(hgood s a hs).mp hok s' ha, (ih (hkeep s a s' hs hok ha)).mpr (has s' ha)⟩

end Run

end Librasp
