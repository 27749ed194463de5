import Mathlib.Tactic

/-!
# Fields packed into a store

A store is changed by calls and read by fields. A call sets some of the fields, to values that may
depend on the store it meets. The cells of the store are shared out: a cell belongs to at most one
field.

If a call changes a cell only if it sets the field that owns it, and a field reads only the cells
it owns, then it is left by the calls that do not set it (`get_apply`); what it tells after any
calls is what was last set (`get_run`).

* The store is a function from cells to their contents. Which field owns a cell, which fields a
  call sets and to what are parameters, so that nothing is said here of how a field is laid out.
* `lastSet` looks for the value a field was set to last, from the end of the run, in the store
  that the call met.

So a claim about any sequence of calls on a packed register file comes down to two facts about one
call: it tells the field it sets what it is to tell, and changes no cell of another field.
-/

namespace Librasp

namespace Fields

universe u v w x

variable {S : Type u} {C : Type v} {F : Type w} {V : Type x}

/-- Make the calls one after the other. -/
def run (apply : C → S → S) : S → List C → S
  | s, [] => s
  | s, c :: cs => run apply (apply c s) cs

/-- The value a field was last set to, if any. -/
def lastSet (apply : C → S → S) (value : C → S → F → Option V) : S → List C → F → Option V
  | _, [], _ => none
  | s, c :: cs, f => (lastSet apply value (apply c s) cs f).or (value c s f)

/-- **Frame.** A call that does not set a field leaves it, if what the field tells rests on the
cells it owns alone, and the call leaves the cells of the fields it does not set. -/
theorem get_apply {L B W : Type*} (cell : S → L → B) (owner : L → Option F) {apply : C → S → S}
    {value : C → S → F → Option V} {get : S → W} {c : C} {s : S} {f : F}
    (hget : ∀ s s', (∀ l, owner l = some f → cell s l = cell s' l) → get s = get s')
    (hcell : ∀ l g, owner l = some g → value c s g = none → cell (apply c s) l = cell s l)
    (h : value c s f = none) : get (apply c s) = get s :=
  hget _ _ fun l hl => hcell l f hl h

/-- **Runs.** If every call sets what it should and leaves the other fields, a field tells what it
was last set to, or what it told at first. -/
theorem get_run {W : Type*} {apply : C → S → S} {value : C → S → F → Option V} (get : S → W)
    (told : V → W) {f : F} {ok : C → Prop}
    (hset : ∀ c s v, ok c → value c s f = some v → get (apply c s) = told v)
    (hframe : ∀ c s, ok c → value c s f = none → get (apply c s) = get s) (s : S)
    {cs : List C} (hcs : ∀ c ∈ cs, ok c) :
    get (run apply s cs) = ((lastSet apply value s cs f).map told).getD (get s) := by
  induction cs generalizing s with
  | nil => rfl
  | cons c cs ih =>
    have hc : ok c := hcs c List.mem_cons_self
    rw [run, lastSet, ih _ fun c' hc' => hcs c' (List.mem_cons_of_mem c hc')]
    rcases lastSet apply value (apply c s) cs f with _ | v
    · rw [Option.map_none, Option.getD_none, Option.none_or]
      rcases hv : value c s f with _ | v
      · exact hframe c s hc hv
      · exact hset c s v hc hv
    · rfl

end Fields

end Librasp
