import Librasp.Devices.DhtLoop

/-!
# `dht.c`: decoding a response

From 40 pulses on the widths are decoded to five bytes, each bit set for a pulse that is longer
than 50 ticks; the last byte is the sum of the others.

* **Results.** `DhtResult` says what the recorded pulses are to result in, by their number and
  their widths. `dhtResult_dhtDecode` is about the decoding alone, and `dhtRun_spec` about the
  loop over any samples: its indices, the level changes it sees, and its result. Where one pulse
  more is recorded than a frame has, the first one is skipped (`dhtSkip`).
* **Frames.** A sensor sends a frame as pulses (`DhtSends`): the line may be sampled any number of
  times in between (`Stretch`), as long as no level lasts for `BREAK_THRSHD` ticks, and the pulse
  before the frame may be missed. A stretch leaves the loop where it is after its first sample,
  and so a pulse is one step of a fold (`DhtLoop.record`).

**Main result.** `dhtDecode_of_sends`: the loop ends, and decodes just the bytes that were sent.

The ticks are 32 bits wide, and may turn at any time: a width is the difference of two of them.
-/

namespace Librasp

/-! ### Bytes -/

theorem testBit_one_shiftLeft : ∀ m < 8, ∀ q < 8,
    ((1 : UInt8) <<< UInt8.ofNat (7 - m)).toNat.testBit (7 - q) = decide (q = m) := by
  decide

/-- The bits of the bytes, from the highest on, are those of the pulses. The induction is on the
number of pulses, each of which sets one bit and leaves the others. -/
theorem testBit_dhtData (siglens : ℕ → UInt32) (j n b : ℕ) {q : ℕ} (hq : q < 8) :
    (dhtData siglens j n b).toNat.testBit (7 - q) =
      (decide (8 * b + q < n) && decide (50 < siglens (j + (8 * b + q)))) := by
  induction n with
  | zero => simp [dhtData]
  | succ n ih =>
    have hdiv : n >>> 3 = n / 8 := Nat.shiftRight_eq_div_pow n 3
    have hmod : n &&& 7 = n % 8 := Nat.and_two_pow_sub_one_eq_mod n 3
    -- a bit that is not the one of this pulse is there just when it was before
    have hother : 8 * b + q ≠ n → decide (8 * b + q < n) = decide (8 * b + q < n + 1) := by
      intro hne
      exact decide_eq_decide.mpr (by omega)
    rw [dhtData]
    simp only [hdiv, hmod]
    split_ifs with h50
    · by_cases hb : b = n / 8
      · rw [← hb, Function.update_self, UInt8.toNat_or, Nat.testBit_or, ih,
          testBit_one_shiftLeft _ (Nat.mod_lt n (by decide)) q hq]
        by_cases hbit : q = n % 8
        · have hn : 8 * b + q = n := by omega
          rw [hn, decide_eq_true hbit, Bool.or_true, decide_eq_true (Nat.lt_succ_self n),
            decide_eq_true h50]
          rfl
        · rw [hother (by omega), decide_eq_false hbit, Bool.or_false]
      · rw [Function.update_of_ne hb, ih, hother (by omega)]
    · rw [ih]
      by_cases hn : 8 * b + q = n
      · simp [hn, h50]
      · rw [hother hn]

/-- The checksum, in terms of numbers. -/
theorem dhtCrc_eq_iff (data : ℕ → UInt8) : dhtCrc data = data 4 ↔
    ((data 0).toNat + (data 1).toNat + (data 2).toNat + (data 3).toNat) % 256 =
      (data 4).toNat := by
  rw [← UInt8.toNat_inj, dhtCrc, UInt8.toNat_add, UInt8.toNat_add, UInt8.toNat_add]
  omega

/-! ### Results -/

/-- The number of pulses before those of the frame. -/
def dhtSkip (k : ℕ) : ℕ := if k = Dht.dtaBits + 1 then 1 else 0

/-- The bytes are those of the pulses behind the ones that are skipped: a bit is set for a pulse
that is longer than 50 ticks. -/
def IsData (ws : List UInt32) (data : ℕ → UInt8) : Prop :=
  ∀ b < 5, ∀ q < 8, (data b).toNat.testBit (7 - q) =
    decide (50 < ws.getD (dhtSkip ws.length + (8 * b + q)) 0)

/-- What the pulses that were recorded are to result in. -/
structure DhtResult (model : DhtModel) (ws : List UInt32)
    (r : LrErrc × Option (UInt32 × Int32)) : Prop where
  noResp : ws.length = 0 → r = (.noResp, none)
  crpt : 1 ≤ ws.length → ws.length ≤ 39 → r = (.dtaCrpt, none)
  data : 40 ≤ ws.length → ∃ data, IsData ws data ∧
    r = if ((data 0).toNat + (data 1).toNat + (data 2).toNat + (data 3).toNat) % 256 =
      (data 4).toNat then (.success, some (dhtValues data model)) else (.dtaCrpt, none)

/-- The indices at which `siglens` is accessed: while it is recorded, printed, and decoded. -/
def dhtIndices (t : DhtLoop) (xs : List DhtSample) : List ℕ :=
  (dhtRounds t xs).filterMap dhtAssigned ++ List.range (dhtLast t xs).i ++
    if (dhtLast t xs).i < Dht.dtaBits then []
    else (List.range Dht.dtaBits).map fun n =>
      (if Dht.dtaBits < (dhtLast t xs).i then 1 else 0) + n

section Results

variable {t : DhtLoop} {ws : List UInt32}

/-- The skipped pulse is that of a run which has recorded one more than those of a frame. -/
theorem dhtSkip_eq {k : ℕ} (h : k ≤ Dht.dtaBits + 1) :
    dhtSkip k = if Dht.dtaBits < k then 1 else 0 := by
  rw [dhtSkip]
  split_ifs <;> omega

/-- A width that was recorded. -/
theorem getD_widths (hws : ws = (List.range t.i).map t.siglens) {m : ℕ} (hm : m < t.i) :
    ws.getD m 0 = t.siglens m := by
  rw [hws, List.getD_eq_getElem _ _ (by simpa using hm), List.getElem_map, List.getElem_range]

/-- **Decoding.** Whatever the widths, the decoded bytes are those of the pulses behind the
skipped ones, a wrong sum is corrupted data, and too few pulses are no response. -/
theorem dhtResult_dhtDecode (model : DhtModel) (hi : t.i ≤ Dht.dtaBits + 1)
    (hws : ws = (List.range t.i).map t.siglens) :
    DhtResult model ws (dhtDecode model t.i t.siglens) := by
  have hlen : ws.length = t.i := by rw [hws, List.length_map, List.length_range]
  have h40 : Dht.dtaBits = 40 := rfl
  refine ⟨fun h => ?_, fun h1 h39 => ?_, fun h => ?_⟩
  · rw [dhtDecode, if_pos (hlen ▸ h)]
  · rw [dhtDecode, if_neg (by omega), if_pos (by omega)]
  · refine ⟨dhtData t.siglens (dhtSkip ws.length) Dht.dtaBits, fun b hb q hq => ?_, ?_⟩
    · have hskip : dhtSkip ws.length + (8 * b + q) < t.i := by
        rw [hlen, dhtSkip_eq hi]
        split_ifs <;> omega
      rw [testBit_dhtData _ _ _ _ hq, getD_widths hws hskip, decide_eq_true (by omega),
        Bool.true_and]
    · rw [dhtDecode, if_neg (by omega), if_neg (by omega), hlen, dhtSkip_eq hi]
      dsimp only
      by_cases hcrc : dhtCrc (dhtData t.siglens (if Dht.dtaBits < t.i then 1 else 0)
          Dht.dtaBits) = dhtData t.siglens (if Dht.dtaBits < t.i then 1 else 0) Dht.dtaBits 4
      · rw [if_neg (not_not.mpr hcrc), if_pos ((dhtCrc_eq_iff _).mp hcrc)]
      · rw [if_pos hcrc, if_neg fun hn => hcrc ((dhtCrc_eq_iff _).mpr hn)]

/-- The widths of the pulses that are complete in some samples of the response loop. -/
def dhtWidths (start : UInt32) (stack : ℕ → UInt32) (xs : List DhtSample) : List UInt32 :=
  pulseWidths ((dhtRounds (dhtStart start stack) xs).filterMap dhtChange).tail

/-- The response loop over any samples: the indices of `siglens` are in bounds, there are no more
level changes than a frame has, and the result is what the complete pulses say. -/
theorem dhtRun_spec (start : UInt32) (stack : ℕ → UInt32) (xs : List DhtSample) :
    let cs := (dhtRounds (dhtStart start stack) xs).filterMap dhtChange
    cs.length ≤ 83 ∧ (∀ m ∈ dhtIndices (dhtStart start stack) xs, m ≤ 40) ∧
      ∀ model t, dhtRun (dhtStart start stack) xs = .inr t →
        DhtResult model (dhtWidths start stack xs) (dhtDecode model t.i t.siglens) := by
  have hlogged : DhtLogged (dhtStart start stack) [] xs :=
    DhtSeen.run (.waiting rfl rfl) (Nat.succ_pos _) xs
  have hseen := hlogged.seen
  have hassigned := hlogged.assigned
  rw [List.nil_append] at hseen
  have hi := hseen.i_le
  have h40 : Dht.dtaBits = 40 := rfl
  refine ⟨hseen.length_le, fun m hm => ?_, fun model t ht => ?_⟩
  · rw [show (dhtStart start stack).i = 0 from rfl, List.range_zero, List.nil_append] at hassigned
    rw [dhtIndices, ← hassigned, List.mem_append, List.mem_append, or_self, List.mem_range] at hm
    obtain hm | hm := hm
    · omega
    · split_ifs at hm with hlt hmore
      · exact absurd hm List.not_mem_nil
      · obtain ⟨n, hn, rfl⟩ := List.mem_map.mp hm
        rw [List.mem_range] at hn
        omega
      · obtain ⟨n, hn, rfl⟩ := List.mem_map.mp hm
        rw [List.mem_range] at hn
        omega
  · have hlast : dhtLast (dhtStart start stack) xs = t := by
      rw [dhtLast, ht]
      rfl
    rw [hlast] at hseen hi
    exact dhtResult_dhtDecode model hi hseen.widths

end Results

/-! ### Frames -/

/-- Samples at one level, the last of them less than `BREAK_THRSHD` ticks after the first. -/
structure Stretch where
  first : UInt32
  rest : List UInt32
  short : ∀ tick ∈ rest, tick - first < Dht.breakThrshd

def Stretch.samples (s : Stretch) (level : ℕ) : List DhtSample :=
  (level, s.first) :: s.rest.map (level, ·)

/-- A pulse, with the low level behind it. -/
structure Pulse where
  high : Stretch
  low : Stretch

def Pulse.samples (p : Pulse) : List DhtSample := p.high.samples 1 ++ p.low.samples 0

/-- The width of a pulse, as it is sampled. -/
def Pulse.width (p : Pulse) : UInt32 := p.low.first - p.high.first

/-- A frame is sent by pulses, from the highest bit of the first byte on. -/
structure Carries (ps : List Pulse) (data : ℕ → UInt8) : Prop where
  length : ps.length = 40
  bits : ∀ b < 5, ∀ q < 8, (data b).toNat.testBit (7 - q) =
    decide (50 < (ps.map Pulse.width).getD (8 * b + q) 0)

/-- The line keeps a level for `BREAK_THRSHD` ticks, after it fell at `last`. -/
inductive KeepsLevel (last : UInt32) : List DhtSample → Prop
  | low {tick : UInt32} (h : Dht.breakThrshd ≤ tick - last) (rest : List DhtSample) :
    KeepsLevel last ((0, tick) :: rest)
  | high {s : Stretch} {tick : UInt32} (h : Dht.breakThrshd ≤ tick - s.first)
    (rest : List DhtSample) : KeepsLevel last (s.samples 1 ++ (1, tick) :: rest)

/-- The samples of a frame: the line falls, and the pulses follow. The pulse before those of the
frame may be missed; then the loop is left when the line keeps its level. -/
inductive DhtSends (start : UInt32) (data : ℕ → UInt8) : List DhtSample → Prop
  | leading {idle : List UInt32} (hidle : ∀ tick ∈ idle, tick - start < Dht.breakThrshd)
    (low : Stretch) (lead : Pulse) {ps : List Pulse} (hps : Carries ps data)
    (rest : List DhtSample) : DhtSends start data
      (idle.map (1, ·) ++ (low.samples 0 ++ ((lead :: ps).flatMap Pulse.samples ++ rest)))
  | plain {idle : List UInt32} (hidle : ∀ tick ∈ idle, tick - start < Dht.breakThrshd)
    (low : Stretch) {ps : List Pulse} {p : Pulse} (hps : Carries (ps ++ [p]) data)
    {rest : List DhtSample} (hrest : KeepsLevel p.low.first rest) : DhtSends start data
      (idle.map (1, ·) ++ (low.samples 0 ++ ((ps ++ [p]).flatMap Pulse.samples ++ rest)))

section Frames

variable {t t' : DhtLoop}

/-- Samples without a level change, all of them in time. -/
theorem dhtRun_quiet {level : ℕ} (hswitch : ∀ tick, dhtSwitch t level tick = none)
    {ticks : List UInt32} (hshort : ∀ tick ∈ ticks, tick - t.start < Dht.breakThrshd)
    (ys : List DhtSample) : dhtRun t (ticks.map (level, ·) ++ ys) = dhtRun t ys := by
  induction ticks with
  | nil => rfl
  | cons tick ticks ih =>
    rw [List.forall_mem_cons] at hshort
    have hstep : dhtStep t (level, tick) = .inl t := by
      rw [dhtStep, hswitch]
      exact if_neg (UInt32.not_le.mpr hshort.1)
    rw [List.map_cons, List.cons_append, dhtRun_cons_inl hstep]
    exact ih hshort.2

/-- A level change, and the samples behind it. Only the first of them counts; the others find the
level as it was, in time. -/
theorem dhtRun_stretch {s : Stretch} {level : ℕ} (hchange : dhtSwitch t level s.first = some t')
    (hi : t'.i < Dht.dtaBits + 1) (hstart : t'.start = s.first)
    (hquiet : ∀ tick, dhtSwitch t' level tick = none) (ys : List DhtSample) :
    dhtRun t (s.samples level ++ ys) = dhtRun t' ys := by
  have hstep : dhtStep t (level, s.first) = .inl t' := by
    rw [dhtStep, hchange]
    exact if_pos hi
  rw [Stretch.samples, List.cons_append, dhtRun_cons_inl hstep]
  exact dhtRun_quiet hquiet (hstart ▸ s.short) ys

/-- The variables after a rise. -/
def DhtLoop.rise (t : DhtLoop) (s : Stretch) : DhtLoop := { t with start := s.first, state := 1 }

/-- The variables after a pulse. -/
def DhtLoop.record (t : DhtLoop) (p : Pulse) : DhtLoop :=
  ⟨t.i + 1, 0, p.low.first, Function.update t.siglens t.i p.width⟩

theorem dhtRun_rise (h : t.state = 0) (hi : t.i < Dht.dtaBits + 1) (s : Stretch)
    (ys : List DhtSample) : dhtRun t (s.samples 1 ++ ys) = dhtRun (t.rise s) ys := by
  have hchange : dhtSwitch t 1 s.first = some (t.rise s) := by
    rw [dhtSwitch_low _ _ h]
    rfl
  refine dhtRun_stretch hchange hi rfl (fun tick => ?_) ys
  rw [dhtSwitch_high (t := t.rise s) _ _ rfl]
  rfl

theorem dhtSwitch_fall (t : DhtLoop) (p : Pulse) :
    dhtSwitch (t.rise p.high) 0 p.low.first = some (t.record p) := by
  rw [dhtSwitch_high (t := t.rise p.high) _ _ rfl]
  rfl

/-- A pulse is recorded. -/
theorem dhtRun_pulse (h : t.state = 0) (p : Pulse) (hi : t.i + 1 < Dht.dtaBits + 1)
    (ys : List DhtSample) : dhtRun t (p.samples ++ ys) = dhtRun (t.record p) ys := by
  rw [Pulse.samples, List.append_assoc, dhtRun_rise h (by omega)]
  refine dhtRun_stretch (dhtSwitch_fall t p) hi rfl (fun tick => ?_) ys
  rw [dhtSwitch_low (t := t.record p) _ _ rfl]
  rfl

/-- The last pulse ends the loop. -/
theorem dhtRun_last (h : t.state = 0) (p : Pulse) (hi : t.i + 1 = Dht.dtaBits + 1)
    (ys : List DhtSample) : dhtRun t (p.samples ++ ys) = .inr (t.record p) := by
  have hstep : dhtStep (t.rise p.high) (0, p.low.first) = .inr (t.record p) := by
    rw [dhtStep, dhtSwitch_fall]
    exact if_neg (show ¬ t.i + 1 < _ by omega)
  rw [Pulse.samples, List.append_assoc, dhtRun_rise h (by omega), Stretch.samples,
    List.cons_append, dhtRun_cons_inr hstep]

/-- Pulses of a frame are recorded. -/
theorem dhtRun_pulses {ps : List Pulse} (h : t.state = 0)
    (hi : t.i + ps.length < Dht.dtaBits + 1) (ys : List DhtSample) :
    dhtRun t (ps.flatMap Pulse.samples ++ ys) = dhtRun (ps.foldl DhtLoop.record t) ys := by
  induction ps generalizing t with
  | nil => rfl
  | cons p ps ih =>
    rw [List.length_cons] at hi
    rw [List.flatMap_cons, List.append_assoc, dhtRun_pulse h p (by omega), List.foldl_cons]
    exact ih rfl (show t.i + 1 + _ < _ by omega)

/-- The widths that are recorded. -/
theorem record_widths (ps : List Pulse) (h : t.state = 0) :
    let t' := ps.foldl DhtLoop.record t
    t'.state = 0 ∧ t'.i = t.i + ps.length ∧ (List.range t'.i).map t'.siglens =
      (List.range t.i).map t.siglens ++ ps.map Pulse.width := by
  induction ps generalizing t with
  | nil => exact ⟨h, rfl, (List.append_nil _).symm⟩
  | cons p ps ih =>
    obtain ⟨hstate, hi, hw⟩ := ih (t := t.record p) rfl
    refine ⟨hstate, hi.trans (Nat.add_right_comm t.i 1 ps.length), hw.trans ?_⟩
    rw [DhtLoop.record, map_range_update, List.append_assoc]
    rfl

/-- Pulses as many as there is room for end the loop. The induction is on the pulses, with the
room that is left. -/
theorem dhtRun_pulses_last {ps : List Pulse} {p : Pulse} (h : t.state = 0)
    (hi : t.i + (ps.length + 1) = Dht.dtaBits + 1) (ys : List DhtSample) :
    dhtRun t ((ps ++ [p]).flatMap Pulse.samples ++ ys) =
      .inr ((ps ++ [p]).foldl DhtLoop.record t) := by
  obtain ⟨hstate, hlen, -⟩ := record_widths ps h
  rw [List.flatMap_append, List.flatMap_singleton, List.append_assoc,
    dhtRun_pulses h (by omega), dhtRun_last hstate p (by omega), List.foldl_append]
  rfl

/-- The widths of a frame result in its bytes. Both the bytes the loop packs and those of the
frame have the bits that the widths tell, so they are the same, and the checksum is met. -/
theorem DhtResult.eq_success {model : DhtModel} {ws : List UInt32} {data : ℕ → UInt8}
    {r : LrErrc × Option (UInt32 × Int32)} (h : DhtResult model ws r) (hlen : 40 ≤ ws.length)
    (hdata : IsData ws data)
    (hsum : ((data 0).toNat + (data 1).toNat + (data 2).toNat + (data 3).toNat) % 256 =
      (data 4).toNat) : r = (.success, some (dhtValues data model)) := by
  obtain ⟨data', hdata', hr⟩ := h.data hlen
  have heq : ∀ b < 5, data' b = data b := by
    intro b hb
    refine UInt8.toNat_inj.mp (Nat.eq_of_testBit_eq fun i => ?_)
    by_cases hi : i < 8
    · have h7 : 7 - (7 - i) = i := by omega
      have hbit := (hdata' b hb (7 - i) (by omega)).trans (hdata b hb (7 - i) (by omega)).symm
      rwa [h7] at hbit
    · have hlt : ∀ x : UInt8, x.toNat < 2 ^ i := fun x =>
        x.toNat_lt.trans_le (Nat.pow_le_pow_right (by decide) (not_lt.mp hi))
      rw [Nat.testBit_lt_two_pow (hlt _), Nat.testBit_lt_two_pow (hlt _)]
  have hvalues : dhtValues data' model = dhtValues data model := by
    cases model <;> simp only [dhtValues, heq 0 (by decide), heq 1 (by decide), heq 2 (by decide),
      heq 3 (by decide)]
  rw [heq 0 (by decide), heq 1 (by decide), heq 2 (by decide), heq 3 (by decide),
    heq 4 (by decide), if_pos hsum, hvalues] at hr
  exact hr

/-- The samples up to the first pulse. -/
theorem dhtRun_begin {start : UInt32} {stack : ℕ → UInt32} {idle : List UInt32}
    (hidle : ∀ tick ∈ idle, tick - start < Dht.breakThrshd) (low : Stretch)
    (ys : List DhtSample) :
    dhtRun (dhtStart start stack) (idle.map (1, ·) ++ (low.samples 0 ++ ys)) =
      dhtRun ⟨0, 0, low.first, stack⟩ ys := by
  have hwait : ∀ level tick, dhtSwitch (dhtStart start stack) level tick =
      if level = 0 then some ⟨0, 0, tick, stack⟩ else none :=
    fun level tick => dhtSwitch_waiting level tick rfl
  rw [dhtRun_quiet (fun tick => hwait 1 tick) hidle]
  refine dhtRun_stretch (hwait 0 _) (Nat.succ_pos _) rfl (fun tick => ?_) ys
  rw [dhtSwitch_low _ _ rfl]
  rfl

/-- A line that keeps its level ends the loop, for the level lasts longer than the break
threshold. No pulse is added, whether the line stays low or high. -/
theorem dhtRun_keepsLevel {last : UInt32} {ys : List DhtSample} (h : KeepsLevel last ys)
    (hstate : t.state = 0) (hstart : t.start = last) (hi : t.i < Dht.dtaBits + 1) :
    ∃ t', dhtRun t ys = .inr t' ∧ t'.i = t.i ∧ t'.siglens = t.siglens := by
  cases h with
  | @low tick hbreak rest =>
    have hstep : dhtStep t (0, tick) = .inr t := by
      rw [dhtStep, dhtSwitch_low _ _ hstate]
      exact if_pos (hstart.symm ▸ hbreak)
    exact ⟨t, dhtRun_cons_inr hstep _, rfl, rfl⟩
  | @high s tick hbreak rest =>
    have hstep : dhtStep (t.rise s) (1, tick) = .inr (t.rise s) := by
      rw [dhtStep, dhtSwitch_high (t := t.rise s) _ _ rfl]
      exact if_pos hbreak
    exact ⟨t.rise s, (dhtRun_rise hstate hi s _).trans (dhtRun_cons_inr hstep _), rfl, rfl⟩

/-- The widths of a frame are its data, without the pulse before it. -/
theorem Carries.isData {ps : List Pulse} {data : ℕ → UInt8} (h : Carries ps data) :
    IsData (ps.map Pulse.width) data := by
  intro b hb q hq
  rw [List.length_map, h.length, dhtSkip, if_neg (by decide), Nat.zero_add]
  exact h.bits b hb q hq

/-- And with it. -/
theorem Carries.isData_cons {ps : List Pulse} {data : ℕ → UInt8} (h : Carries ps data)
    (lead : Pulse) : IsData ((lead :: ps).map Pulse.width) data := by
  intro b hb q hq
  rw [List.length_map, List.length_cons, h.length, dhtSkip, if_pos (by decide), Nat.add_comm 1,
    List.map_cons, List.getD_cons_succ]
  exact h.bits b hb q hq

/-- **Frames.** A frame that is sent is decoded to its bytes. If the pulse before it is seen, the
loop ends by the number of pulses, and the first one is skipped; if it is missed, the loop
ends by the line that keeps its level, and none is. -/
theorem dhtDecode_of_sends {start : UInt32} {stack : ℕ → UInt32} {data : ℕ → UInt8}
    {xs : List DhtSample} (h : DhtSends start data xs)
    (hsum : ((data 0).toNat + (data 1).toNat + (data 2).toNat + (data 3).toNat) % 256 =
      (data 4).toNat) (model : DhtModel) :
    ∃ t, dhtRun (dhtStart start stack) xs = .inr t ∧
      dhtDecode model t.i t.siglens = (.success, some (dhtValues data model)) := by
  have h40 : Dht.dtaBits = 40 := rfl
  cases h with
  | @leading idle hidle low lead ps hps rest =>
    obtain ⟨qs, p, hqs⟩ : ∃ qs p, lead :: ps = qs ++ [p] :=
      ⟨_, _, (List.dropLast_append_getLast (List.cons_ne_nil lead ps)).symm⟩
    have hlen : qs.length + 1 = 41 := by
      rw [← List.length_singleton (a := p), ← List.length_append, ← hqs, List.length_cons,
        hps.length]
    obtain ⟨-, hi, hw⟩ := record_widths (t := ⟨0, 0, low.first, stack⟩) (qs ++ [p]) rfl
    have hdata := hps.isData_cons lead
    rw [hqs] at hdata ⊢
    refine ⟨(qs ++ [p]).foldl DhtLoop.record ⟨0, 0, low.first, stack⟩, ?_, ?_⟩
    · rw [dhtRun_begin hidle]
      exact dhtRun_pulses_last rfl (show 0 + (qs.length + 1) = _ by omega) rest
    · rw [List.length_append, List.length_singleton, hlen] at hi
      refine (dhtResult_dhtDecode model hi.le hw.symm).eq_success ?_ hdata hsum
      change 40 ≤ ((qs ++ [p]).map Pulse.width).length
      rw [List.length_map, List.length_append, List.length_singleton, hlen]
      decide
  | @plain idle hidle low ps p hps rest hrest =>
    obtain ⟨hstate, hi, hw⟩ := record_widths (t := ⟨0, 0, low.first, stack⟩) (ps ++ [p]) rfl
    have hlt : 0 + (ps ++ [p]).length < Dht.dtaBits + 1 := by
      rw [hps.length]
      decide
    have hstart : ((ps ++ [p]).foldl DhtLoop.record ⟨0, 0, low.first, stack⟩).start =
        p.low.first := by
      rw [List.foldl_append]
      rfl
    obtain ⟨t, hrun, hti, htw⟩ := dhtRun_keepsLevel hrest hstate hstart (hi.trans_lt hlt)
    refine ⟨t, ?_, ?_⟩
    · rw [dhtRun_begin hidle, dhtRun_pulses rfl hlt]
      exact hrun
    · rw [← hti, ← htw] at hw
      have hle : t.i ≤ Dht.dtaBits + 1 := ((hti.trans hi).trans_lt hlt).le
      have hws : (ps ++ [p]).map Pulse.width = (List.range t.i).map t.siglens := hw.symm
      refine (dhtResult_dhtDecode model hle hws).eq_success ?_ hps.isData hsum
      rw [List.length_map, hps.length]

end Frames

/-- A pulse of 26 or 70 ticks. -/
def bitPulse (bit : Bool) : Pulse where
  high := ⟨0, [], List.forall_mem_nil _⟩
  low := ⟨if bit then 70 else 26, [], List.forall_mem_nil _⟩

/-- The pulses of some bytes. -/
def framePulses (data : ℕ → UInt8) : List Pulse :=
  (List.range 40).map fun n => bitPulse ((data (n / 8)).toNat.testBit (7 - n % 8))

/-- Every frame can be sent. -/
theorem carries_framePulses (data : ℕ → UInt8) : Carries (framePulses data) data where
  length := by rw [framePulses, List.length_map, List.length_range]
  bits b hb q hq := by
    have hlt : 8 * b + q < 40 := by omega
    have hwidth : ∀ bit, (decide (50 < (bitPulse bit).width)) = bit := by decide
    rw [framePulses, List.map_map, List.getD_eq_getElem _ _ (by simpa using hlt),
      List.getElem_map, List.getElem_range, Function.comp_apply, hwidth,
      show (8 * b + q) / 8 = b by omega, show (8 * b + q) % 8 = q by omega]

/-! ### What is written -/

/-- Values come with a success, and only then. -/
theorem dhtDecode_code {model : DhtModel} {i : ℕ} {siglens : ℕ → UInt32} {ret : LrErrc}
    {out : Option (UInt32 × Int32)} (h : dhtDecode model i siglens = (ret, out)) :
    ret ≠ .noDev ∧ (out ≠ none ↔ ret = .success) := by
  rw [dhtDecode] at h
  dsimp only at h
  generalize (if Dht.dtaBits < i then 1 else 0) = j at h
  split_ifs at h <;> · cases h; simp

/-- How a probe ends tells whether values were written. -/
theorem DhtEnds.out_iff {e : ProbeEnv} {g : ℕ} {model : DhtModel} {fuel : ℕ} {ret : LrErrc}
    {s s' : ProbeSt DhtVars} (h : DhtEnds e g model fuel s ret s') :
    s'.vars.out ≠ none ↔ ret = .success := by
  obtain ⟨⟨hret, -⟩, hout⟩ | ⟨start, s₀, t, -, -, hdecode⟩ := h
  · exact iff_of_false (not_not.mpr hout) hret
  · exact (dhtDecode_code hdecode).2

end Librasp
