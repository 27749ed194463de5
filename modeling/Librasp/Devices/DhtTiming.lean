import Librasp.Devices.DhtValues
import Librasp.Foundation.Sampling

/-!
# `dht.c`: the response of a sensor in time

The sensor answers with a low level, a pulse, and 40 pulses more, short ones for a 0 and long ones
for a 1. The response loop looks at the line as often as it can, and takes the time after each
look, so that it tells a pulse by one round and the delay of the clock too long or too short at
most. The bits are read right as long as the pulses are so far away from the threshold of 50
microseconds (`DhtPaced.width_iff`).

* `DhtWave` are the changes of the line, as times, with what is asked of them: every level lasts
  for a round at least, and not as long as the break threshold.
* `DhtPaced` is the response loop in time: when the line is looked at, and what the clock tells
  after that. The looks are those of `Sampling`.
* Between two changes the looks make a stretch (`exists_stretch`), and there is one for every
  level (`DhtPaced.lt_next`).

**Main result.** `DhtPaced.sends_of_first`: what is sampled is the frame as it is sent.

The times are those of the counter behind the ticks, in microseconds.
-/

namespace Librasp

open Sampling

/-! ### The line -/

/-- The changes of the line, for rounds of `q` and a delay of `a`: the response begins with the fall
`edge 0`, and the pulse with the number `n`, of which the first is not one of the frame, rises at
`edge (2 * n + 1)` and falls at `edge (2 * n + 2)`. -/
structure DhtWave (q a : ℕ) (edge : ℕ → ℕ) (data : ℕ → UInt8) : Prop where
  seen : ∀ j < 83, edge j + q ≤ edge (j + 1)
  short : ∀ j < 83, edge (j + 1) + (q + a) ≤ edge j + 500
  one : ∀ b < 5, ∀ c < 8, (data b).toNat.testBit (7 - c) = true →
    edge (2 * (8 * b + c) + 3) + 50 + (q + a) ≤ edge (2 * (8 * b + c) + 4)
  zero : ∀ b < 5, ∀ c < 8, (data b).toNat.testBit (7 - c) = false →
    edge (2 * (8 * b + c) + 4) + (q + a) ≤ edge (2 * (8 * b + c) + 3) + 51

/-- The response loop in time: the line is looked at, and the clock is asked within `a`; there are
rounds of at most `q`. The first look may miss the fall that the response begins with. -/
structure DhtPaced (q a : ℕ) (edge : ℕ → ℕ) (t₀ : ℕ) (look ask : ℕ → ℕ) (start : UInt32)
    (x : ℕ → DhtSample) : Prop where
  start : start = stClo (UInt64.ofNat t₀)
  tick : ∀ k, (x k).2 = stClo (UInt64.ofNat (ask k))
  high : ∀ k, look k < edge 0 → (x k).1 = 1
  level : ∀ j < 83, ∀ k, edge j ≤ look k → look k < edge (j + 1) → (x k).1 = j % 2
  first : t₀ ≤ look 0
  soon : look 0 < edge 1
  idle : edge 0 + a ≤ t₀ + 500
  asked : ∀ k, look k ≤ ask k
  delay : ∀ k, ask k ≤ look k + a
  before : ∀ k, ask k < look (k + 1)
  round : ∀ k, look (k + 1) ≤ look k + q

section Samples

variable {q a t₀ : ℕ} {edge look ask : ℕ → ℕ} {start : UInt32} {x : ℕ → DhtSample}
  {data : ℕ → UInt8}

/-! ### Stretches -/

/-- Samples in a row at one level, none of which is later than the break threshold after the
first: such samples are a stretch, with the first of them as its start. -/
theorem exists_stretch {i j level : ℕ} (hij : i < j)
    (hlevel : ∀ k, i ≤ k → k < j → (x k).1 = level)
    (hshort : ∀ k, i ≤ k → k < j → (x k).2 - (x i).2 < Dht.breakThrshd) :
    ∃ s : Stretch, s.first = (x i).2 ∧ s.samples level = (List.range' i (j - i)).map x := by
  have hrest : ∀ tick ∈ (List.range' (i + 1) (j - (i + 1))).map fun k => (x k).2,
      tick - (x i).2 < Dht.breakThrshd := by
    intro tick htick
    obtain ⟨k, hk, rfl⟩ := List.mem_map.mp htick
    rw [List.mem_range'_1] at hk
    exact hshort k (by omega) (by omega)
  refine ⟨⟨(x i).2, _, hrest⟩, rfl, ?_⟩
  rw [show j - i = j - (i + 1) + 1 by omega, List.range'_succ, List.map_cons, Stretch.samples,
    List.map_map]
  refine congrArg₂ List.cons (Prod.ext (hlevel i le_rfl hij).symm rfl) ?_
  refine List.map_congr_left fun k hk => ?_
  rw [List.mem_range'_1] at hk
  exact Prod.ext (hlevel k (by omega) (by omega)).symm rfl

variable (h : DhtPaced q a edge t₀ look ask start x)

include h

theorem DhtPaced.paced : Paced 1 q look where
  least k := (h.asked k).trans_lt (h.before k)
  most := h.round

theorem DhtPaced.ask_mono {i k : ℕ} (hik : i ≤ k) : ask i ≤ ask k := by
  refine monotone_nat_of_le_succ (fun n => ?_) hik
  exact ((h.before n).trans_le (h.asked (n + 1))).le

theorem DhtPaced.tick_sub {i k : ℕ} (hik : i ≤ k) (hlt : ask k < ask i + 2 ^ 32) :
    ((x k).2 - (x i).2).toNat = ask k - ask i := by
  rw [h.tick, h.tick]
  exact toNat_stClo_sub (h.ask_mono hik) hlt

/-- The first look after a change that is not the first one. -/
theorem DhtPaced.first_look {t i : ℕ} (ht : edge 1 ≤ t) (hi : First look t i) :
    look i < t + q := by
  rcases i with _ | i
  · have hsoon := h.soon
    have hreached := hi.reached
    omega
  · have hround := h.round i
    have hbefore := hi.before i (Nat.lt_succ_self i)
    omega

/-- While the line is idle no tick is far behind the first one: the sensor responds before the break
threshold. -/
theorem DhtPaced.idle_lt {i : ℕ} (hi : First look (edge 0) i) (tick : UInt32)
    (htick : tick ∈ (List.range i).map fun k => (x k).2) : tick - start < Dht.breakThrshd := by
  obtain ⟨k, hk, rfl⟩ := List.mem_map.mp htick
  have hbefore := hi.before k (List.mem_range.mp hk)
  have hdelay := h.delay k
  have hin := h.idle
  have hle : t₀ ≤ ask k := (h.first.trans (h.asked 0)).trans (h.ask_mono (Nat.zero_le k))
  have hthr : Dht.breakThrshd.toNat = 500 := rfl
  rw [UInt32.lt_iff_toNat_lt, hthr, h.tick, h.start, toNat_stClo_sub hle (by omega)]
  omega

/-- The samples of an idle line are high. -/
theorem DhtPaced.idle_samples {i : ℕ} (hi : First look (edge 0) i) :
    ((List.range i).map fun k => (x k).2).map (1, ·) = (List.range' 0 (i - 0)).map x := by
  rw [List.map_map, List.range_eq_range']
  refine List.map_congr_left fun k hk => ?_
  rw [List.mem_range'_1] at hk
  exact Prod.ext (h.high k (hi.before k (by omega))).symm rfl

variable (hwave : DhtWave q a edge data)

omit h in
include hwave in
theorem DhtWave.edge_le {i j : ℕ} (hij : i ≤ j) (hj : j ≤ 83) : edge i ≤ edge j := by
  induction j, hij using Nat.le_induction with
  | base => exact le_rfl
  | succ j _ ih =>
    have hseen := hwave.seen j (by omega)
    exact (ih (by omega)).trans (by omega)

include hwave

variable {n : ℕ → ℕ} (hn : ∀ j, First look (edge j) (n j))

include hn

/-- Every level is seen. From the first rise on a level lasts longer than a round takes, so that a
look falls into each, and the first look comes before that rise. -/
theorem DhtPaced.lt_next {j : ℕ} (hj : j < 83) : n j < n (j + 1) := by
  have hseen := hwave.seen j hj
  rcases j with _ | j
  · have hsoon := h.soon
    rw [Nat.zero_add] at hseen ⊢
    refine not_le.mp fun hle => ?_
    have hzero : n 1 ≠ 0 := by
      intro h0
      have hreached := (hn 1).reached
      rw [h0] at hreached
      omega
    have hlast := (hn 0).before (n 1 - 1) (by omega)
    have hreached := (hn 1).reached
    have hlook := h.round (n 1 - 1)
    rw [show n 1 - 1 + 1 = n 1 by omega] at hlook
    omega
  · have hlook := h.first_look (hwave.edge_le (by omega) (by omega)) (hn (j + 1))
    refine not_le.mp fun hle => ?_
    have hlate := (hn (j + 1 + 1)).of_le h.paced.monotone hle
    omega

/-- The samples between two changes. -/
theorem DhtPaced.exists_stretch {j : ℕ} (hj : j < 83) :
    ∃ s : Stretch, s.first = (x (n j)).2 ∧
      s.samples (j % 2) = (List.range' (n j) (n (j + 1) - n j)).map x := by
  refine Librasp.exists_stretch (h.lt_next hwave hn hj) (fun k hk hk' => ?_) fun k hk hk' => ?_
  · exact h.level j hj k ((hn j).of_le h.paced.monotone hk) ((hn (j + 1)).before k hk')
  · have hshort := hwave.short j hj
    have hfirst := (hn j).reached.trans (h.asked (n j))
    have hlast := (hn (j + 1)).before k hk'
    have hdelay := h.delay k
    have hthr : Dht.breakThrshd.toNat = 500 := rfl
    rw [UInt32.lt_iff_toNat_lt, hthr, h.tick_sub hk (by omega)]
    omega

/-- The width of a pulse, as it is sampled, tells its bit. Either end is seen up to a round late,
and the widths of the two bits keep that distance from 50. -/
theorem DhtPaced.width_iff {b c : ℕ} (hb : b < 5) (hc : c < 8) :
    50 < (x (n (2 * (8 * b + c) + 4))).2 - (x (n (2 * (8 * b + c) + 3))).2 ↔
      (data b).toNat.testBit (7 - c) = true := by
  have hlt : n (2 * (8 * b + c) + 3) < n (2 * (8 * b + c) + 4) :=
    h.lt_next hwave hn (show 2 * (8 * b + c) + 3 < 83 by omega)
  have hshort := hwave.short (2 * (8 * b + c) + 3) (by omega)
  have hone := hwave.one b hb c hc
  have hzero := hwave.zero b hb c hc
  have hrise := h.first_look (hwave.edge_le (by omega) (by omega)) (hn (2 * (8 * b + c) + 3))
  have hfall := h.first_look (hwave.edge_le (by omega) (by omega)) (hn (2 * (8 * b + c) + 4))
  have hrise' := (hn (2 * (8 * b + c) + 3)).reached.trans (h.asked _)
  have hfall' := (hn (2 * (8 * b + c) + 4)).reached.trans (h.asked _)
  have hdelay := h.delay (n (2 * (8 * b + c) + 3))
  have hdelay' := h.delay (n (2 * (8 * b + c) + 4))
  rw [show 2 * (8 * b + c) + 3 + 1 = 2 * (8 * b + c) + 4 from rfl] at hshort
  rw [UInt32.lt_iff_toNat_lt, show UInt32.toNat 50 = 50 from rfl, h.tick_sub hlt.le (by omega)]
  rcases hbit : (data b).toNat.testBit (7 - c) with _ | _
  · have hw := hzero hbit
    exact iff_of_false (by omega) Bool.false_ne_true
  · have hw := hone hbit
    exact iff_of_true (by omega) rfl

/-- A pulse, and the low level behind it. -/
theorem DhtPaced.exists_pulse {m : ℕ} (hm : m < 41) :
    ∃ p : Pulse, p.width = (x (n (2 * m + 2))).2 - (x (n (2 * m + 1))).2 ∧
      p.samples =
        (List.range' (n (2 * m + 1)) (n (2 * (m + 1) + 1) - n (2 * m + 1))).map x := by
  obtain ⟨high, hrise, hhigh⟩ := h.exists_stretch hwave hn (show 2 * m + 1 < 83 by omega)
  obtain ⟨low, hfall, hlow⟩ := h.exists_stretch hwave hn (show 2 * m + 2 < 83 by omega)
  have hlt : n (2 * m + 1) < n (2 * m + 2) := h.lt_next hwave hn (by omega)
  have hlt' : n (2 * m + 2) < n (2 * m + 3) := h.lt_next hwave hn (by omega)
  rw [show (2 * m + 1) % 2 = 1 by omega] at hhigh
  rw [show (2 * m + 2) % 2 = 0 by omega] at hlow
  refine ⟨⟨high, low⟩, by rw [Pulse.width, hrise, hfall], ?_⟩
  rw [Pulse.samples, hhigh, hlow, ← List.map_append]
  exact congrArg (List.map x) (range'_append_range' hlt.le hlt'.le)

/-- **The frame** is sampled as it is sent: an idle line, the low and the high level of the
response, and a pulse for each bit. -/
theorem DhtPaced.sends_of_first : DhtSends start data ((List.range (n 83)).map x) := by
  have hexists : ∀ m, ∃ p : Pulse, m < 41 →
      p.width = (x (n (2 * m + 2))).2 - (x (n (2 * m + 1))).2 ∧ p.samples =
        (List.range' (n (2 * m + 1)) (n (2 * (m + 1) + 1) - n (2 * m + 1))).map x := by
    intro m
    by_cases hm : m < 41
    · exact (h.exists_pulse hwave hn hm).imp fun p hp _ => hp
    · exact (h.exists_pulse hwave hn (show 0 < 41 by decide)).imp fun p _ hlt => absurd hlt hm
  choose pulse hpulse using hexists
  obtain ⟨low, -, hlow⟩ := h.exists_stretch hwave hn (show 0 < 83 by decide)
  have hpulses : (pulse 0 :: (List.range 40).map fun m => pulse (m + 1)).flatMap Pulse.samples =
      (List.range' (n 1) (n 83 - n 1)).map x := by
    have hall := (flatMap_range' (n := fun m => n (2 * m + 1)) (m := 41) fun m hm =>
      ((h.lt_next hwave hn (show 2 * m + 1 < 83 by omega)).trans
        (h.lt_next hwave hn (show 2 * m + 2 < 83 by omega))).le).2
    have hcons : (pulse 0 :: (List.range 40).map fun m => pulse (m + 1)) =
        (List.range 41).map pulse := by
      rw [List.range_succ_eq_map, List.map_cons, List.map_map]
      rfl
    rw [hcons, List.flatMap_map, ← hall, List.map_flatMap]
    exact List.flatMap_congr fun m hm => (hpulse m (List.mem_range.mp hm)).2
  have hcarries : Carries ((List.range 40).map fun m => pulse (m + 1)) data := by
    refine ⟨by rw [List.length_map, List.length_range], fun b hb c hc => ?_⟩
    have hm : 8 * b + c < 40 := by omega
    have hwidth := (hpulse (8 * b + c + 1) (by omega)).1
    rw [List.map_map, List.getD_eq_getElem _ _ (by simpa using hm), List.getElem_map,
      List.getElem_range, Function.comp_apply, hwidth, Bool.eq_iff_iff, decide_eq_true_iff]
    exact (h.width_iff hwave hn hb hc).symm
  have hlist : (List.range (n 83)).map x =
      ((List.range (n 0)).map fun k => (x k).2).map (1, ·) ++ (low.samples 0 ++
        ((pulse 0 :: (List.range 40).map fun m => pulse (m + 1)).flatMap Pulse.samples ++ [])) := by
    have hzero : low.samples 0 = _ := hlow
    have hlt : n 0 < n 1 := h.lt_next hwave hn (by decide)
    have hle : n 1 ≤ n 83 := (flatMap_range' (n := fun k => n (k + 1)) (m := 82) fun k hk =>
      (h.lt_next hwave hn (show k + 1 < 83 by omega)).le).1
    rw [h.idle_samples (hn 0), hzero, hpulses, List.append_nil, ← List.map_append, ← List.map_append,
      List.range_eq_range', range'_append_range' hlt.le hle,
      range'_append_range' (Nat.zero_le _) (hlt.le.trans hle), Nat.sub_zero]
  rw [hlist]
  exact .leading (h.idle_lt (hn 0)) low (pulse 0) hcarries []

end Samples

end Librasp
