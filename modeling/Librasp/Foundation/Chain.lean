import Mathlib.Tactic

/-!
# Chains of records

A record parser takes one record off the front of a list and returns what follows it. A chain is
parsed by taking records off until none is left; whatever remains at the end is ignored. The one
thing asked of a parser is that it makes progress, which is what its chain is defined by.

* `RecordParser.chain` are the records of a chain, and `parseAll` those of one that leaves nothing
  over.
* `Recognises` says that a parser reads an encoded record back, whatever follows it.

**Main results.** A parser that recognises an encoding parses every concatenation of encoded
records back to exactly those records, whatever unparsable tail follows (`chain_flatMap_append`),
and to its end if there is none (`parseAll_flatMap`). Where every record takes up at least its
size, the sizes of a chain add up to at most the length of the input (`sum_size_chain_le`).
-/

namespace Librasp

variable {α ρ : Type*}

/-- A parser for one record. -/
structure RecordParser (α ρ : Type*) where
  /-- The first record of the input and the input after it. -/
  parse : List α → Option (ρ × List α)
  /-- A record takes up room. -/
  shorter : ∀ {bs r rest}, parse bs = some (r, rest) → rest.length < bs.length

namespace RecordParser

variable (P : RecordParser α ρ)

/-- The records of a chain, in order. -/
def chain (bs : List α) : List ρ :=
  match _h : P.parse bs with
  | none => []
  | some (r, rest) => r :: chain rest
termination_by bs.length
decreasing_by exact P.shorter ‹_›

variable {P}

theorem chain_of_none {bs : List α} (h : P.parse bs = none) : P.chain bs = [] := by
  rw [chain]
  split
  · rfl
  · next h' => rw [h] at h'; cases h'

theorem chain_of_some {bs rest : List α} {r : ρ} (h : P.parse bs = some (r, rest)) :
    P.chain bs = r :: P.chain rest := by
  rw [chain]
  split
  · next h' => rw [h] at h'; cases h'
  · next h' =>
    rw [h] at h'
    cases h'
    rfl

/-- The parser reads an encoded record back, whatever follows it. -/
def Recognises (P : RecordParser α ρ) (enc : ρ → List α) : Prop :=
  ∀ r rest, P.parse (enc r ++ rest) = some (r, rest)

/-- **Round trip.** A concatenation of encoded records is the chain of those records. -/
theorem chain_flatMap_append {enc : ρ → List α} (hP : P.Recognises enc) (rs : List ρ)
    {tail : List α} (htail : P.parse tail = none) :
    P.chain (rs.flatMap enc ++ tail) = rs := by
  induction rs with
  | nil => exact chain_of_none htail
  | cons r rs ih =>
    rw [List.flatMap_cons, List.append_assoc, chain_of_some (hP r _), ih]

theorem chain_flatMap {enc : ρ → List α} (hP : P.Recognises enc) (rs : List ρ)
    (hnil : P.parse [] = none) : P.chain (rs.flatMap enc) = rs := by
  simpa using chain_flatMap_append hP rs hnil

/-- **Accounting.** If every record takes up at least its size, the sizes of a chain add up
to at most the length of the input. -/
theorem sum_size_chain_le (size : ρ → ℕ)
    (hsize : ∀ {bs r rest}, P.parse bs = some (r, rest) → size r + rest.length ≤ bs.length)
    (bs : List α) : ((P.chain bs).map size).sum ≤ bs.length := by
  induction hn : bs.length using Nat.strong_induction_on generalizing bs with
  | _ n ih =>
    subst hn
    rcases hp : P.parse bs with _ | ⟨r, rest⟩
    · simp [chain_of_none hp]
    · have hrest := ih _ (P.shorter hp) rest rfl
      have hr := hsize hp
      rw [chain_of_some hp, List.map_cons, List.sum_cons]
      omega

variable (P) in
/-- The records of a chain that leaves nothing over. -/
def parseAll (bs : List α) : Option (List ρ) :=
  match bs with
  | [] => some []
  | b :: bs =>
    match _h : P.parse (b :: bs) with
    | none => none
    | some (r, rest) => (parseAll rest).map (r :: ·)
termination_by bs.length
decreasing_by exact P.shorter ‹_›

/-- **Exact round trip.** A concatenation of encoded records is parsed to its end. -/
theorem parseAll_flatMap {enc : ρ → List α} (hP : P.Recognises enc) (rs : List ρ) :
    P.parseAll (rs.flatMap enc) = some rs := by
  induction rs with
  | nil => simp [parseAll]
  | cons r rs ih =>
    have hparse := hP r (rs.flatMap enc)
    rw [List.flatMap_cons]
    rcases hbs : enc r ++ rs.flatMap enc with _ | ⟨b, bs⟩
    · have hshort := P.shorter hparse
      rw [hbs] at hshort
      exact absurd hshort (Nat.not_lt_zero _)
    · rw [hbs] at hparse
      rw [parseAll]
      split
      · next h => rw [hparse] at h; cases h
      · next h =>
        rw [hparse] at h
        cases h
        rw [ih, Option.map_some]

end RecordParser

end Librasp
