import Mathlib.Tactic

/-!
# Commands that may fail

A command is tried on a state, and returns a value or fails. A failure need not mean that it had
no effect: the reply may be what was lost.

* `run` tries commands one after the other, and keeps a log of what each one returned.
* `Explains` is what an observer may conclude from such a log: each command that returned a value
  had its effect, and the value is right for the state it met; each one that failed had its effect
  or none. There is one constructor for each of the three.
* `Explained` is the same of one command, seen through a function of the state.

**Main result.** `explains_run` is the rule by which a system is shown to behave so, over any run:
an invariant that every command keeps, and under which every command is explained, explains the
log of any list of commands.
-/

namespace Librasp

namespace Attempts

universe u v

variable {S T : Type u} {A V : Type v}

/-- Try the commands one after the other: the commands with what they returned, and the state. -/
def run (exec : S → A → Option V × S) : S → List A → List (A × Option V) × S
  | s, [] => ([], s)
  | s, a :: as => ((a, (exec s a).1) :: (run exec (exec s a).2 as).1, (run exec (exec s a).2 as).2)

section Explains

variable (eff : A → T → T) (right : A → T → V → Prop)

/-- A state becomes another by the commands of a log. -/
inductive Explains : T → List (A × Option V) → T → Prop
  | nil (t : T) : Explains t [] t
  | done {a : A} {v : V} {t t' : T} {log : List (A × Option V)} (hv : right a t v)
    (h : Explains (eff a t) log t') : Explains t ((a, some v) :: log) t'
  /-- The command failed, but it had its effect. -/
  | took {a : A} {t t' : T} {log : List (A × Option V)} (h : Explains (eff a t) log t') :
    Explains t ((a, none) :: log) t'
  | lost {a : A} {t t' : T} {log : List (A × Option V)} (h : Explains t log t') :
    Explains t ((a, none) :: log) t'

/-- What one command does to what is seen of the state. -/
def Explained (a : A) (r : Option V) (t t' : T) : Prop :=
  match r with
  | some v => right a t v ∧ t' = eff a t
  | none => t' = eff a t ∨ t' = t

variable {eff right}

/-- **Runs of commands that may fail.** If, inside an invariant, every command is explained by
what is seen of the state before it and after it, the log of any run is explained by what is
seen at its two ends. The induction is on the commands; what was seen between them is found on
the way. -/
theorem explains_run {exec : S → A → Option V × S} {I : S → Prop} {f : S → T}
    (hstep : ∀ s a, I s → I (exec s a).2 ∧
      Explained eff right a (exec s a).1 (f s) (f (exec s a).2))
    {s : S} (hs : I s) (as : List A) :
    Explains eff right (f s) (run exec s as).1 (f (run exec s as).2) := by
  induction as generalizing s with
  | nil => exact .nil _
  | cons a as ih =>
    obtain ⟨hI, hexp⟩ := hstep s a hs
    have hrest := ih hI
    rw [run]
    rcases hr : (exec s a).1 with _ | v
    · rw [hr] at hexp
      rcases hexp with heff | hsame
      · exact .took (heff ▸ hrest)
      · exact .lost (hsame ▸ hrest)
    · rw [hr] at hexp
      exact .done hexp.1 (hexp.2 ▸ hrest)

end Explains

end Attempts

end Librasp
