import Mathlib.Data.Nat.Bitwise
import Librasp.Devices.Dht

/-!
# `dht.c`: the response of a sensor

The response loop takes samples of the line and of the clock. It records how long the line was
high between a rise and a fall, 41 times at most, and is left before that when the line keeps its
level for `BREAK_THRSHD` ticks.

`dhtRun` is the loop over the samples it has seen, and `DhtSeen` its invariant: what was recorded
are the pulses between the level changes so far. The clock may wrap around at any time, as the
widths are differences of ticks.

* **The loop.** Its invariant is about the ticks of the level changes alone: the first fall, then
  rises and falls by turns. The recorded widths are the differences of a fall and the rise before
  it (`DhtSeen.widths`), and there is an element of `siglens` for each (`DhtSeen.run`).
* **The program.** The loop of the probe is this loop over the samples it takes
  (`ensures_dhtLoop`), whichever of its calls fail. How a probe ends is `DhtEnds`: a call has
  failed, or the samples of its own loop are decoded. While it is still running, each of its
  rounds has taken a sample (`DhtRunsOn`), so that it is not its own doing.

**Main result.** `ensures_dhtProbe` has all of this for `dht_probe`.

A frame that is sent as pulses is decoded to its bytes, whether or not the pulse before it is seen
(`dhtDecode_of_sends`).
-/

namespace Librasp

/-! ### The loop -/

/-- The level of the line, and the ticks. -/
abbrev DhtSample := ℕ × UInt32

section Switch

variable {t : DhtLoop} (level : ℕ) (tick : UInt32)

theorem dhtSwitch_waiting (h : t.state = 3) : dhtSwitch t level tick =
    if level = 0 then some { t with start := tick, state := 0 } else none := by
  rw [dhtSwitch, if_pos h]

theorem dhtSwitch_low (h : t.state = 0) : dhtSwitch t level tick =
    if level ≠ 0 then some { t with start := tick, state := 1 } else none := by
  rw [dhtSwitch, if_neg (by rw [h]; decide), h, if_neg (not_not.mpr rfl), Nat.zero_xor]
  rfl

theorem dhtSwitch_high (h : t.state = 1) : dhtSwitch t level tick =
    if level ≠ 1 then
      some ⟨t.i + 1, 0, tick, Function.update t.siglens t.i (tick - t.start)⟩
    else none := by
  rw [dhtSwitch, if_neg (by rw [h]; decide), h]
  by_cases hlevel : level ≠ 1
  · rw [if_pos (Nat.xor_ne_zero_iff.mpr hlevel.symm), if_pos hlevel, if_pos (by decide)]
    rfl
  · rw [if_neg fun hn => hlevel (Nat.xor_ne_zero_iff.mp hn).symm, if_neg hlevel]

end Switch

/-- What the response loop makes of a sample: it goes on (`.inl`), or is left (`.inr`). -/
def dhtStep (t : DhtLoop) (x : DhtSample) : DhtLoop ⊕ DhtLoop :=
  match dhtSwitch t x.1 x.2 with
  | some t' => if t'.i < Dht.dtaBits + 1 then .inl t' else .inr t'
  | none => if Dht.breakThrshd ≤ x.2 - t.start then .inr t else .inl t

/-- The response loop over some samples. -/
def dhtRun (t : DhtLoop) : List DhtSample → DhtLoop ⊕ DhtLoop
  | [] => .inl t
  | x :: xs =>
    match dhtStep t x with
    | .inl t' => dhtRun t' xs
    | .inr t' => .inr t'

theorem dhtRun_cons_inl {t t' : DhtLoop} {x : DhtSample} (h : dhtStep t x = .inl t')
    (xs : List DhtSample) : dhtRun t (x :: xs) = dhtRun t' xs := by
  rw [dhtRun, h]

theorem dhtRun_cons_inr {t t' : DhtLoop} {x : DhtSample} (h : dhtStep t x = .inr t')
    (xs : List DhtSample) : dhtRun t (x :: xs) = .inr t' := by
  rw [dhtRun, h]

/-- The samples that are seen, with the variables of the loop before each. -/
def dhtRounds (t : DhtLoop) : List DhtSample → List (DhtLoop × DhtSample)
  | [] => []
  | x :: xs =>
    (t, x) ::
      match dhtStep t x with
      | .inl t' => dhtRounds t' xs
      | .inr _ => []

/-- The ticks of a sample at which the level has changed. -/
def dhtChange (r : DhtLoop × DhtSample) : Option UInt32 :=
  (dhtSwitch r.1 r.2.1 r.2.2).map fun _ => r.2.2

/-- The element of `siglens` that is assigned for a sample. -/
def dhtAssigned (r : DhtLoop × DhtSample) : Option ℕ :=
  if r.1.state ≠ 3 ∧ r.1.state ≠ 0 ∧ r.1.state ^^^ r.2.1 ≠ 0 then some r.1.i else none

/-- The variables at the start of the loop. -/
def dhtStart (start : UInt32) (stack : ℕ → UInt32) : DhtLoop := ⟨0, 3, start, stack⟩

/-- The widths of the pulses between rises and falls, from the ticks of the changes. -/
def pulseWidths : List UInt32 → List UInt32
  | rise :: fall :: cs => (fall - rise) :: pulseWidths cs
  | _ => []

/-- Whole pulses in front: an even number of changes has its widths on its own, so those behind
are paired as before. -/
theorem pulseWidths_append {l : List UInt32} {n : ℕ} (hlen : l.length = 2 * n)
    (cs : List UInt32) : pulseWidths (l ++ cs) = pulseWidths l ++ pulseWidths cs := by
  induction n generalizing l with
  | zero =>
    rw [List.eq_nil_of_length_eq_zero hlen]
    rfl
  | succ n ih =>
    rcases l with _ | ⟨rise, _ | ⟨fall, l⟩⟩
    · exact absurd hlen (Nat.succ_ne_zero _).symm
    · rw [List.length_singleton] at hlen
      omega
    · have htail : l.length = 2 * n := by
        rw [List.length_cons, List.length_cons] at hlen
        omega
      rw [List.cons_append, List.cons_append, pulseWidths, pulseWidths, ih htail,
        List.cons_append]

/-- An element is added behind those before. -/
theorem map_range_update {α : Type*} (f : ℕ → α) (n : ℕ) (a : α) :
    (List.range (n + 1)).map (Function.update f n a) = (List.range n).map f ++ [a] := by
  have hkept : (List.range n).map (Function.update f n a) = (List.range n).map f :=
    List.map_congr_left fun m hm => Function.update_of_ne (List.mem_range.mp hm).ne _ _
  rw [List.range_succ, List.map_append, hkept, List.map_singleton, Function.update_self]

/-! ### The invariant -/

/-- What the loop has recorded after these level changes: first the line fell, and from then on
the widths of the pulses are recorded. -/
inductive DhtSeen (t : DhtLoop) : List UInt32 → Prop
  | waiting (hstate : t.state = 3) (hi : t.i = 0) : DhtSeen t []
  | low {c : UInt32} {l : List UInt32} (hstate : t.state = 0) (hi : t.i ≤ Dht.dtaBits + 1)
    (hlen : l.length = 2 * t.i) (hw : pulseWidths l = (List.range t.i).map t.siglens) :
    DhtSeen t (c :: l)
  | high {c : UInt32} {l : List UInt32} (hstate : t.state = 1) (hi : t.i < Dht.dtaBits + 1)
    (hlen : l.length = 2 * t.i) (hw : pulseWidths l = (List.range t.i).map t.siglens) :
    DhtSeen t (c :: (l ++ [t.start]))

section Invariant

variable {t t' : DhtLoop} {cs : List UInt32}

theorem DhtSeen.i_le (h : DhtSeen t cs) : t.i ≤ Dht.dtaBits + 1 := by
  cases h with
  | waiting hstate hi => exact hi.trans_le (Nat.zero_le _)
  | low hstate hi => exact hi
  | high hstate hi => exact hi.le

/-- There is a rise and a fall for each pulse, a fall before them, and at most one rise behind. -/
theorem DhtSeen.length_le (h : DhtSeen t cs) : cs.length ≤ 83 := by
  cases h with
  | waiting hstate hi => exact Nat.zero_le _
  | low hstate hi hlen =>
    rw [Dht.dtaBits] at hi
    rw [List.length_cons]
    omega
  | high hstate hi hlen =>
    rw [Dht.dtaBits] at hi
    rw [List.length_cons, List.length_append, List.length_singleton]
    omega

/-- The recorded widths are those of the complete pulses. -/
theorem DhtSeen.widths (h : DhtSeen t cs) :
    pulseWidths cs.tail = (List.range t.i).map t.siglens := by
  cases h with
  | waiting hstate hi =>
    rw [hi]
    rfl
  | low hstate hi hlen hw => exact hw
  | high hstate hi hlen hw =>
    rw [List.tail_cons, pulseWidths_append hlen, hw]
    exact List.append_nil _

/-- **A level change.** What has been seen is extended by the tick of the change, and a pulse gets
its width just if its end is what is seen. -/
theorem DhtSeen.change (h : DhtSeen t cs) (hi : t.i < Dht.dtaBits + 1) {x : DhtSample}
    (hx : dhtSwitch t x.1 x.2 = some t') :
    DhtSeen t' (cs ++ [x.2]) ∧
      List.range t'.i = List.range t.i ++ (dhtAssigned (t, x)).toList := by
  obtain ⟨level, tick⟩ := x
  cases h with
  | waiting hstate h0 =>
    rw [dhtSwitch_waiting level tick hstate] at hx
    split_ifs at hx with hlevel
    obtain rfl := Option.some.inj hx
    refine ⟨.low rfl hi.le (by rw [h0]; rfl) (by rw [h0]; rfl), ?_⟩
    rw [dhtAssigned, if_neg fun hn => hn.1 hstate]
    exact (List.append_nil _).symm
  | low hstate _ hlen hw =>
    rw [dhtSwitch_low level tick hstate] at hx
    split_ifs at hx with hlevel
    obtain rfl := Option.some.inj hx
    refine ⟨.high rfl hi hlen hw, ?_⟩
    rw [dhtAssigned, if_neg fun hn => hn.2.1 hstate]
    exact (List.append_nil _).symm
  | @high c l hstate _ hlen hw =>
    rw [dhtSwitch_high level tick hstate] at hx
    split_ifs at hx with hlevel
    obtain rfl := Option.some.inj hx
    constructor
    · rw [List.cons_append, List.append_assoc]
      refine .low rfl hi ?_ ?_
      · rw [List.length_append, hlen]
        rfl
      · rw [pulseWidths_append hlen, hw]
        exact (map_range_update t.siglens t.i _).symm
    · have hassigned : dhtAssigned (t, level, tick) = some t.i := by
        refine if_pos ⟨by rw [hstate]; decide, by rw [hstate]; decide, ?_⟩
        rw [hstate]
        exact Nat.xor_ne_zero_iff.mpr (Ne.symm hlevel)
      rw [hassigned]
      exact List.range_succ

/-- A sample without a level change. -/
theorem DhtSeen.dhtAssigned_of_none {x : DhtSample} (h : DhtSeen t cs)
    (hx : dhtSwitch t x.1 x.2 = none) : dhtAssigned (t, x) = none := by
  refine if_neg ?_
  rintro ⟨h3, h0, hne⟩
  cases h with
  | waiting hstate hi => exact h3 hstate
  | low hstate => exact h0 hstate
  | high hstate =>
    rw [hstate] at hne
    rw [dhtSwitch_high _ _ hstate, if_pos (Nat.xor_ne_zero_iff.mp hne).symm] at hx
    exact Option.some_ne_none _ hx

/-- The variables at the end of a run. -/
def dhtLast (t : DhtLoop) (xs : List DhtSample) : DhtLoop := (dhtRun t xs).elim id id

theorem dhtLast_cons_inl {x : DhtSample} (h : dhtStep t x = .inl t') (xs : List DhtSample) :
    dhtLast t (x :: xs) = dhtLast t' xs := by
  rw [dhtLast, dhtRun_cons_inl h, dhtLast]

theorem dhtLast_cons_inr {x : DhtSample} (h : dhtStep t x = .inr t') (xs : List DhtSample) :
    dhtLast t (x :: xs) = t' := by
  rw [dhtLast, dhtRun_cons_inr h]
  rfl

/-- **A round.** A sample without a level change leaves what was recorded, and one with a change
is a rise, or a fall that completes a pulse. -/
theorem DhtSeen.step (h : DhtSeen t cs) (hi : t.i < Dht.dtaBits + 1) (x : DhtSample) :
    DhtSeen ((dhtStep t x).elim id id) (cs ++ (dhtChange (t, x)).toList) ∧
      List.range ((dhtStep t x).elim id id).i = List.range t.i ++ (dhtAssigned (t, x)).toList ∧
      ∀ t', dhtStep t x = .inl t' → t'.i < Dht.dtaBits + 1 := by
  rw [dhtStep, dhtChange]
  rcases hx : dhtSwitch t x.1 x.2 with _ | t'
  · have hsame : (if Dht.breakThrshd ≤ x.2 - t.start then (Sum.inr t : DhtLoop ⊕ DhtLoop)
        else .inl t).elim id id = t := by split_ifs <;> rfl
    dsimp only
    rw [hsame, Option.map_none, Option.toList_none, List.append_nil, h.dhtAssigned_of_none hx,
      Option.toList_none, List.append_nil]
    refine ⟨h, rfl, fun t' ht' => ?_⟩
    split_ifs at ht' with hbreak
    rwa [← Sum.inl.inj ht']
  · obtain ⟨hseen, hassigned⟩ := h.change hi hx
    have hsame : (if t'.i < Dht.dtaBits + 1 then (Sum.inl t' : DhtLoop ⊕ DhtLoop)
        else .inr t').elim id id = t' := by split_ifs <;> rfl
    dsimp only
    rw [hsame]
    refine ⟨hseen, hassigned, fun t'' ht'' => ?_⟩
    split_ifs at ht'' with hlt
    rwa [← Sum.inl.inj ht'']

/-- What the rounds of a run have changed and assigned. -/
structure DhtLogged (t : DhtLoop) (cs : List UInt32) (xs : List DhtSample) : Prop where
  seen : DhtSeen (dhtLast t xs) (cs ++ (dhtRounds t xs).filterMap dhtChange)
  assigned : List.range (dhtLast t xs).i =
    List.range t.i ++ (dhtRounds t xs).filterMap dhtAssigned

theorem filterMap_cons_toList {α β : Type*} (f : α → Option β) (a : α) (l : List α) :
    (a :: l).filterMap f = (f a).toList ++ l.filterMap f := by
  rw [List.filterMap_cons]
  cases f a <;> rfl

/-- **The invariant.** After any samples, as long as the loop is not left, what was recorded are
the pulses of the level changes that were seen. The induction is on the samples. -/
theorem DhtSeen.run (h : DhtSeen t cs) (hi : t.i < Dht.dtaBits + 1) (xs : List DhtSample) :
    DhtLogged t cs xs := by
  induction xs generalizing t cs with
  | nil => exact ⟨(List.append_nil cs).symm ▸ h, (List.append_nil _).symm⟩
  | cons x xs ih =>
    obtain ⟨hseen, hassigned, hstay⟩ := h.step hi x
    rcases hx : dhtStep t x with t' | t'
    · rw [hx] at hseen hassigned
      have hrest := ih hseen (hstay t' hx)
      have hrounds : dhtRounds t (x :: xs) = (t, x) :: dhtRounds t' xs := by
        rw [dhtRounds, hx]
      constructor
      · rw [dhtLast_cons_inl hx, hrounds, filterMap_cons_toList, ← List.append_assoc]
        exact hrest.seen
      · rw [dhtLast_cons_inl hx, hrounds, filterMap_cons_toList, ← List.append_assoc]
        exact hrest.assigned.trans (congrArg (· ++ _) hassigned)
    · rw [hx] at hseen hassigned
      have hrounds : dhtRounds t (x :: xs) = [(t, x)] := by
        rw [dhtRounds, hx]
      constructor
      · rw [dhtLast_cons_inr hx, hrounds, filterMap_cons_toList]
        exact (List.append_nil _).symm ▸ hseen
      · rw [dhtLast_cons_inr hx, hrounds, filterMap_cons_toList]
        exact (List.append_nil _).symm ▸ hassigned

end Invariant

/-! ### The program -/

section Program

open ProbeM Prog

variable (e : ProbeEnv) (g : ℕ)

/-- The part of the probe before its response loop, up to the first ticks. -/
def dhtWake : ProbeM DhtVars UInt32 := do
  raiseMax e
  execRg (opndrnSetValue e g 0)
  setVars fun v => { v with setLow := true }
  execlkRg e (usleep e 20000)
  execRg (opndrnSetValue e g 1)
  setVars fun v => { v with setLow := false }
  execlkRg e (usleep e 30)
  execlkRg e (getTicks32 e)

/-- The part behind it. -/
def dhtAnswer (model : DhtModel) (t : DhtLoop) : ProbeM DhtVars LrErrc := do
  restore e
  setVars fun v => { v with out := (dhtDecode model t.i t.siglens).2 }
  pure (dhtDecode model t.i t.siglens).1

/-- The three parts of the probe. -/
theorem dhtBody_eq (model : DhtModel) (fuel : ℕ) :
    dhtBody e g model fuel = dhtWake e g >>= fun start =>
      loop (dhtRound e g) fuel (dhtStart start e.stack) >>= dhtAnswer e model := by
  simp only [dhtWake, bind_assoc]
  rfl

/-- A sample is taken. -/
def dhtSample : ProbeM DhtVars DhtSample := do
  let level ← execRg (getValue e g)
  let tick ← execlkRg e (getTicks32 e)
  pure (level, tick)

/-- The samples that are taken in some rounds of the loop. -/
def dhtSamples : ℕ → DhtLoop → ProbeSt DhtVars → List DhtSample
  | 0, _, _ => []
  | fuel + 1, t, s =>
    match dhtSample e g s with
    | (.val x, s') =>
      x ::
        match dhtStep t x with
        | .inl t' => dhtSamples fuel t' s'
        | .inr _ => []
    | _ => []

variable {e : ProbeEnv} {g : ℕ} {s s' : ProbeSt DhtVars}

/-- A round takes a sample, and does with it what the loop does. -/
theorem dhtRound_of_lt {t : DhtLoop} (hi : t.i < Dht.dtaBits + 1) :
    dhtRound e g t = dhtSample e g >>= fun x =>
      match dhtSwitch t x.1 x.2 with
      | some t' => pure (.inl t')
      | none => pure (if Dht.breakThrshd ≤ x.2 - t.start then .inr t else .inl t) := by
  rw [dhtRound, if_pos hi, dhtSample, bind_assoc]
  refine congrArg (_ >>= ·) (funext fun level => ?_)
  rw [bind_assoc]
  rfl

/-- Nothing was written to `*p_rh` and `*p_temp`. -/
def NoOutput (s : ProbeSt DhtVars) : Prop := s.vars.out = none

/-- A call that has failed. -/
def HasFailed (ret : LrErrc) (s : ProbeSt DhtVars) : Prop :=
  ret ≠ .success ∧ ∃ k, (k, ret) ∈ s.fails

/-- Where the probe leaves early, a call has failed; while it is running, `more` holds. -/
def dhtExits (more : ProbeSt DhtVars → Prop) : Exits LrErrc (ProbeSt DhtVars) where
  exit ret s := HasFailed ret s ∧ NoOutput s
  more := more

/-- A checked call writes nothing. -/
theorem ensures_dhtCall {α : Type} {R : ProbeSt DhtVars → Prop}
    {m : ProbeM DhtVars (LrErrc × α)}
    (hm : ∀ s, ∃ ret a gp, m s = (.val (ret, a), s.after ret gp)) (hs : NoOutput s) :
    Ensures (execRg m) s (fun _ => NoOutput) (dhtExits R) := by
  obtain ⟨ret, a, gp, hcall⟩ := hm s
  refine ensures_execRg hcall (fun _ => hs) fun hret => ⟨⟨hret, s.hist.length, ?_⟩, hs⟩
  rw [ProbeSt.after, if_neg hret]
  exact List.mem_append_right _ (List.mem_singleton_self _)

/-- So does a call of the clock, which is not checked without the SYS driver. -/
theorem ensures_dhtClock {α : Type} {R : ProbeSt DhtVars → Prop}
    {m : ProbeM DhtVars (LrErrc × α)}
    (hm : ∀ s, ∃ ret a gp, m s = (.val (ret, a), s.after ret gp)) (hs : NoOutput s) :
    Ensures (execlkRg e m) s (fun _ => NoOutput) (dhtExits R) := by
  rw [execlkRg]
  split_ifs
  · exact ensures_dhtCall hm hs
  · obtain ⟨ret, a, gp, hcall⟩ := hm s
    rw [Ensures, bind_of_val hcall]
    exact hs

theorem ensures_dhtSample (hs : NoOutput s) :
    Ensures (dhtSample e g) s (fun _ => NoOutput) (dhtExits fun _ => False) := by
  refine ensures_bind (ensures_dhtCall (fun _ => ⟨_, _, _, rfl⟩) hs) fun level s₁ h₁ => ?_
  refine ensures_bind (ensures_dhtClock (fun _ => ⟨_, _, _, rfl⟩) h₁) fun tick s₂ h₂ => ?_
  exact ensures_pure h₂

/-- The part before the loop writes nothing. -/
theorem ensures_dhtWake {R : ProbeSt DhtVars → Prop} (hs : NoOutput s) :
    Ensures (dhtWake e g) s (fun _ => NoOutput) (dhtExits R) := by
  have hcall : ∀ val s, ∃ ret a gp, opndrnSetValue (μ := DhtVars) e g val s =
      (.val (ret, a), s.after ret gp) := fun _ _ => ⟨_, _, _, rfl⟩
  refine ensures_bind (Q := fun _ => NoOutput) (ensures_modify hs) fun _ s₁ h₁ => ?_
  refine ensures_bind (ensures_dhtCall (hcall 0) h₁) fun _ s₂ h₂ => ?_
  refine ensures_bind (Q := fun _ => NoOutput) (ensures_modify h₂) fun _ s₃ h₃ => ?_
  refine ensures_bind (ensures_dhtClock (fun _ => ⟨_, _, _, rfl⟩) h₃) fun _ s₄ h₄ => ?_
  refine ensures_bind (ensures_dhtCall (hcall 1) h₄) fun _ s₅ h₅ => ?_
  refine ensures_bind (Q := fun _ => NoOutput) (ensures_modify h₅) fun _ s₆ h₆ => ?_
  refine ensures_bind (ensures_dhtClock (fun _ => ⟨_, _, _, rfl⟩) h₆) fun _ s₇ h₇ => ?_
  exact ensures_dhtClock (fun _ => ⟨_, _, _, rfl⟩) h₇

/-- A loop that has recorded all pulses takes no more samples. -/
theorem dhtRound_of_not_lt {t : DhtLoop} (hi : ¬ t.i < Dht.dtaBits + 1) :
    dhtRound e g t s = (.val (.inr t), s) := by
  rw [dhtRound, if_neg hi]
  rfl

/-- A round goes on with its sample, or is left with it; the last pulse is only noticed by the next
round. -/
theorem dhtRound_of_sample {t : DhtLoop} (hi : t.i < Dht.dtaBits + 1) {x : DhtSample}
    (hx : dhtSample e g s = (.val x, s')) :
    (∃ t', dhtStep t x = .inl t' ∧ dhtRound e g t s = (.val (.inl t'), s') ∧
      t'.i < Dht.dtaBits + 1) ∨
    ∃ t', dhtStep t x = .inr t' ∧ (dhtRound e g t s = (.val (.inr t'), s') ∨
      dhtRound e g t s = (.val (.inl t'), s') ∧ ¬ t'.i < Dht.dtaBits + 1) := by
  have hround : dhtRound e g t s = (match dhtSwitch t x.1 x.2 with
      | some t' => pure (.inl t')
      | none => pure (if Dht.breakThrshd ≤ x.2 - t.start then .inr t else .inl t) :
        ProbeM DhtVars (DhtLoop ⊕ DhtLoop)) s' := by
    rw [dhtRound_of_lt hi, bind_of_val hx]
  rw [hround, dhtStep]
  rcases dhtSwitch t x.1 x.2 with _ | t'
  · by_cases hbreak : Dht.breakThrshd ≤ x.2 - t.start
    · exact Or.inr ⟨t, if_pos hbreak, Or.inl (by rw [if_pos hbreak]; rfl)⟩
    · exact Or.inl ⟨t, if_neg hbreak, by rw [if_neg hbreak]; rfl, hi⟩
  · by_cases hlt : t'.i < Dht.dtaBits + 1
    · exact Or.inl ⟨t', if_pos hlt, rfl, hlt⟩
    · exact Or.inr ⟨t', if_neg hlt, Or.inr ⟨rfl, hlt⟩⟩

/-- The loop of the probe is left as the loop over its samples is. While it is running, each of its
rounds has taken a sample. -/
theorem ensures_dhtLoop (fuel : ℕ) {t : DhtLoop} (hi : t.i < Dht.dtaBits + 1)
    (hs : NoOutput s) :
    Ensures (loop (dhtRound e g) fuel t) s
      (fun t' s' => dhtRun t (dhtSamples e g fuel t s) = .inr t' ∧ NoOutput s')
      (dhtExits fun s' => NoOutput s' ∧ (dhtSamples e g fuel t s).length = fuel) := by
  induction fuel generalizing t s with
  | zero => exact ⟨hs, rfl⟩
  | succ fuel ih =>
    have hsample := ensures_dhtSample (e := e) (g := g) hs
    rw [Ensures] at hsample
    rcases hx : dhtSample e g s with ⟨x | err | _, s'⟩
    · rw [hx] at hsample
      have hsamples : dhtSamples e g (fuel + 1) t s = x ::
          match dhtStep t x with
          | .inl t' => dhtSamples e g fuel t' s'
          | .inr _ => [] := by
        rw [dhtSamples, hx]
      rw [Ensures, hsamples]
      obtain ⟨t', hstep, hround, hlt⟩ | ⟨t', hstep, hround | ⟨hround, hlt⟩⟩ :=
        dhtRound_of_sample hi hx
      · rw [loop_of_stay hround, hstep, dhtRun_cons_inl hstep, List.length_cons]
        have hrest := ih hlt hsample
        exact hrest.mono_exits (fun _ _ h => h) fun _ h => ⟨h.1, congrArg (· + 1) h.2⟩
      · rw [loop_of_leave hround, hstep]
        exact ⟨dhtRun_cons_inr hstep _, hsample⟩
      · -- the pulse that was the last one is noticed by the next round
        rw [loop_of_stay hround, hstep]
        cases fuel with
        | zero => exact ⟨hsample, rfl⟩
        | succ fuel =>
          rw [loop_of_leave (dhtRound_of_not_lt hlt)]
          exact ⟨dhtRun_cons_inr hstep _, hsample⟩
    · rw [hx] at hsample
      have hround : dhtRound e g t s = (.exit err, s') := by
        rw [dhtRound_of_lt hi, bind_of_exit hx]
      rw [Ensures, loop_of_exit hround]
      exact hsample
    · rw [hx] at hsample
      exact hsample.elim

/-- How a probe ends that was begun at `s`: a call has failed, or the samples of its response loop
are decoded. -/
def DhtEnds (e : ProbeEnv) (g : ℕ) (model : DhtModel) (fuel : ℕ) (s : ProbeSt DhtVars)
    (ret : LrErrc) (s' : ProbeSt DhtVars) : Prop :=
  (HasFailed ret s' ∧ NoOutput s') ∨
    ∃ start s₀ t, dhtWake e g s = (.val start, s₀) ∧
      dhtRun (dhtStart start e.stack) (dhtSamples e g fuel (dhtStart start e.stack) s₀) = .inr t ∧
      dhtDecode model t.i t.siglens = (ret, s'.vars.out)

/-- A probe is still in its response loop: each of its rounds has taken a sample. -/
def DhtRunsOn (e : ProbeEnv) (g : ℕ) (fuel : ℕ) (s : ProbeSt DhtVars) : Prop :=
  ∃ start s₀, dhtWake e g s = (.val start, s₀) ∧
    (dhtSamples e g fuel (dhtStart start e.stack) s₀).length = fuel

/-- The part between the labels. It ends if its loop does on the samples taken, and returns what
`dhtDecode` makes of the state in which the loop is left. -/
theorem ensures_dhtBody (model : DhtModel) (fuel : ℕ) (hs : NoOutput s) :
    Ensures (dhtBody e g model fuel) s
      (fun ret s' => ∃ start s₀ t, dhtWake e g s = (.val start, s₀) ∧
        dhtRun (dhtStart start e.stack) (dhtSamples e g fuel (dhtStart start e.stack) s₀) = .inr t ∧
        dhtDecode model t.i t.siglens = (ret, s'.vars.out))
      (dhtExits fun s' => NoOutput s' ∧ DhtRunsOn e g fuel s) := by
  rw [dhtBody_eq]
  refine ensures_bind_run (ensures_dhtWake hs) fun start s₀ hwake h₀ => ?_
  have hloop : Ensures (loop (dhtRound e g) fuel (dhtStart start e.stack)) s₀ _
      (dhtExits fun s' => NoOutput s' ∧ DhtRunsOn e g fuel s) :=
    (ensures_dhtLoop fuel (Nat.succ_pos _) h₀).mono_exits (fun _ _ h => h)
      fun _ h => ⟨h.1, start, s₀, hwake, h.2⟩
  refine ensures_bind hloop fun t s₁ h₁ => ?_
  exact ⟨start, s₀, t, hwake, h₁.1, rfl⟩

theorem fails_subset_after (s : ProbeSt DhtVars) (ret : LrErrc) (gp : GpioSt) :
    s.fails ⊆ (s.after ret gp).fails := by
  rw [ProbeSt.after]
  dsimp only
  split_ifs
  · exact List.Subset.refl _
  · exact List.subset_append_left _ _

/-- The cleanup leaves the variables, and what has failed before. -/
theorem dhtCleanup (s : ProbeSt DhtVars) :
    let s' := ((do restore e; undoIf DhtVars.setLow (opndrnSetValue e g 1)) s).2
    s'.vars = s.vars ∧ s.fails ⊆ s'.fails := by
  obtain ⟨r, hr⟩ : ∃ r, restore e s = (.val (), r) := ⟨_, rfl⟩
  have hvars : r.vars = s.vars := congrArg (fun r => r.2.vars) hr.symm
  have hfails : r.fails = s.fails := congrArg (fun r => r.2.fails) hr.symm
  rw [bind_of_val hr, ← hvars, ← hfails, undoIf]
  split_ifs
  · exact ⟨rfl, fails_subset_after r _ _⟩
  · exact ⟨rfl, List.Subset.refl _⟩

/-- **The probe.** It ends with a call that fails or with what the samples of its loop are decoded
to, and writes its values only then; while it is running it is in its loop, and has taken a
sample in each round it was given. -/
theorem ensures_dhtProbe (model : DhtModel) (fuel : ℕ) (hs : NoOutput s) :
    Ensures (dhtProbe e g model fuel) s (DhtEnds e g model fuel s)
      ⟨fun _ _ => False, fun s' => NoOutput s' ∧ DhtRunsOn e g fuel s⟩ := by
  refine ensures_finish (ensures_dhtBody model fuel hs) ?_ ?_
  · rintro ret s' ⟨start, s₀, t, hwake, hrun, hdecode⟩
    refine Or.inr ⟨start, s₀, t, hwake, hrun, ?_⟩
    rw [(dhtCleanup s').1]
    exact hdecode
  · rintro ret s' ⟨⟨hret, k, hk⟩, hout⟩
    obtain ⟨hvars, hfails⟩ := dhtCleanup (e := e) (g := g) s'
    refine Or.inl ⟨⟨hret, k, hfails hk⟩, ?_⟩
    rw [NoOutput, hvars]
    exact hout

end Program

end Librasp
