import Librasp.Devices.Scratchpad

/-!
# `ds_therm.c`: the resolution of a thermometer

`dsth_set_res` reads the scratchpad and writes it back with another configuration register. A
thermometer takes over what is written to its scratchpad (`ValidScratchpad.onBus`), and sends its
scratchpad when it is read; the call may fail, or bring bytes whose checksum is wrong
(`ReadsFrom`).

* `SetsRes` lists the ways through `dsth_set_res`, by what the read delivers
  (`scratchpadDelivered`): a failed read and a wrong checksum end it with nothing written, and only
  these do; what was delivered is written back once, and nothing but the resolution bits differs
  (`IsWithRes`).
* `SetsRes.writes_iff`: the scratchpad is written exactly when it was delivered.
* `SetsRes.res_of_leaves`: a success leaves the thermometer with the resolution.

**Main result.** `dsthSetRes_spec` puts these together with `dsth_get_res`, which then returns the
resolution that was set, and with DS18S20, which has no such register.
-/

namespace Librasp

/-! ### The configuration register -/

/-- A configuration register with another resolution, as `dsth_set_res` computes it. -/
def withRes (cfgReg : UInt8) (res : DsthRes) : UInt8 :=
  ThermM.setBitfld cfgReg ((res.toUInt8 &&& 3) <<< 5) ((3 : UInt8) <<< 5)

/-- A register differs from another in its resolution bits only, and they are these. -/
structure IsWithRes (old : UInt8) (res : DsthRes) (new : UInt8) : Prop where
  res_eq : DsthRes.ofUInt8 (cfgRes new) = res
  kept : ∀ i < 8, i ≠ 5 → i ≠ 6 → new.toNat.testBit i = old.toNat.testBit i

theorem cfgRes_withRes (cfgReg : UInt8) (res : DsthRes) :
    cfgRes (withRes cfgReg res) = res.toUInt8 := by
  have hmask : ~~~((3 : UInt8) <<< 5) = 0x9f := rfl
  rw [cfgRes, withRes, ThermM.setBitfld, hmask, UInt8.shiftRight_or, UInt8.shiftRight_and]
  refine UInt8.toNat_inj.mp ?_
  rw [UInt8.toNat_and, UInt8.toNat_or, Nat.and_or_distrib_right, UInt8.toNat_and, Nat.and_assoc]
  cases res <;> simp [DsthRes.toUInt8]

theorem isWithRes_withRes (cfgReg : UInt8) (res : DsthRes) :
    IsWithRes cfgReg res (withRes cfgReg res) := by
  constructor
  · rw [cfgRes_withRes]
    cases res <;> rfl
  · intro i hi h5 h6
    have hmask : ~~~((3 : UInt8) <<< 5) = 0x9f := rfl
    have hkeep : (0x9f : UInt8).toNat.testBit i = true := by
      interval_cases i <;> first | rfl | contradiction
    have hset : ((res.toUInt8 &&& 3) <<< 5 : UInt8).toNat.testBit i = false := by
      cases res <;> interval_cases i <;> first | rfl | contradiction
    rw [withRes, ThermM.setBitfld, hmask, UInt8.toNat_or, UInt8.toNat_and, Nat.testBit_or,
      Nat.testBit_and, hkeep, hset, Bool.and_true, Bool.or_false]

/-! ### Thermometers -/

/-- The scratchpad after a write of the registers. -/
def ValidScratchpad.write (f : ValidScratchpad) (th tl cfgReg : UInt8) : ValidScratchpad where
  tempLsb := f.tempLsb
  tempHsb := f.tempHsb
  th := th
  tl := tl
  cfgReg := cfgReg
  reserved := f.reserved
  cntRem := f.cntRem
  cntPerC := f.cntPerC
  crc := crc8 [f.tempLsb, f.tempHsb, th, tl, cfgReg, f.reserved, f.cntRem, f.cntPerC]
  crc_eq := rfl

/-- What a thermometer makes of the bytes on the bus. -/
def ValidScratchpad.onBus (f : ValidScratchpad) (acts : Option (List BusAct)) :
    ValidScratchpad :=
  match acts with
  | some [.write c, .write th, .write tl, .write cfgReg] =>
    if c = writeScratchpad then f.write th tl cfgReg else f
  | _ => f

/-- A call leaves a scratchpad changed to another: one that fails need not have reached the
thermometer. -/
def BusCall.Leaves (c : BusCall) (f g : ValidScratchpad) : Prop :=
  g = f.onBus (busTrace c.sent) ∨ (c.ret ≠ some .success ∧ g = f)

/-- Some calls leave a scratchpad changed to another. -/
def LeavesAll (calls : List BusCall) (f g : ValidScratchpad) : Prop :=
  match calls with
  | [] => g = f
  | c :: calls => ∃ f', c.Leaves f f' ∧ LeavesAll calls f' g

/-- What the next read of a scratchpad delivers, before its checksum is looked at. -/
def scratchpadDelivered (cfg : Config) (env : ℕ → ThermEnv) (therm : UInt64) (s : ThermSt) :
    Outcome LrErrc (List UInt8) :=
  (ThermM.execCmd cfg env therm [ThermM.readScratchpad] 9 s).1

/-- The next read of a scratchpad fails, or brings the scratchpad, or bytes whose checksum is
wrong. -/
def ReadsFrom (cfg : Config) (env : ℕ → ThermEnv) (therm : UInt64) (s : ThermSt)
    (f : ValidScratchpad) : Prop :=
  ∀ bs, scratchpadDelivered cfg env therm s = .val bs →
    bs = f.toBytes ∨ crc8 (bs.take 8) ≠ (ThermM.scratchpadOf bs).crc

/-! ### The calls -/

/-- A call that reads the scratchpad. -/
def BusCall.Reads (c : BusCall) : Prop :=
  busTrace c.sent =
    some (.write ThermM.readScratchpad :: List.replicate 9 (.write 0xff))

/-- A call that writes the registers of the scratchpad. -/
def BusCall.Writes (c : BusCall) (th tl cfgReg : UInt8) : Prop :=
  busTrace c.sent = some [.write writeScratchpad, .write th, .write tl, .write cfgReg]

section Calls

variable {cfg : Config} {env : ℕ → ThermEnv} {s : ThermSt}

/-- A read of the scratchpad makes one call. It ends with that call, is refused for its checksum, or
returns the scratchpad, by what the call delivers. -/
theorem dsthReadScratchpad_cases {therm : UInt64} {f : ValidScratchpad}
    (hbuf : (env s.calls.length).cmdBuf ≠ 0) (hread : ReadsFrom cfg env therm s f) :
    ∃ c hndl, c.Reads ∧
      ((c.ret = some .success ∧
          ((scratchpadDelivered cfg env therm s = .val f.toBytes ∧
            ThermM.dsthReadScratchpad cfg env therm s =
              (.val f.toDsthScratchpad, ⟨hndl, s.calls ++ [c]⟩)) ∨
          (∃ bs, scratchpadDelivered cfg env therm s = .val bs ∧
            crc8 (bs.take 8) ≠ (ThermM.scratchpadOf bs).crc ∧
            ThermM.dsthReadScratchpad cfg env therm s =
              (.exit .dtaCrpt, ⟨hndl, s.calls ++ [c]⟩)))) ∨
        (c.ret ≠ some .success ∧ scratchpadDelivered cfg env therm s = ThermM.failed c.ret ∧
          ThermM.dsthReadScratchpad cfg env therm s =
            (ThermM.failed c.ret, ⟨hndl, s.calls ++ [c]⟩))) := by
  obtain ⟨c, hndl, htrace, ⟨hret, bs, hexec⟩ | ⟨hret, hexec⟩⟩ := execCmd_cases cfg hbuf therm
    [ThermM.readScratchpad] 9 (List.cons_ne_nil _ _) (by decide)
  · refine ⟨c, hndl, htrace, Or.inl ⟨hret, ?_⟩⟩
    have hdel : scratchpadDelivered cfg env therm s = .val bs := congrArg Prod.fst hexec
    rw [hdel, dsthReadScratchpad_of_val hexec]
    obtain rfl | hcrc := hread bs hdel
    · exact Or.inl ⟨rfl, Prod.ext (if_neg (not_not.mpr f.crc_eq)) rfl⟩
    · exact Or.inr ⟨bs, rfl, hcrc, Prod.ext (if_pos hcrc) rfl⟩
  · refine ⟨c, hndl, htrace, Or.inr ⟨hret, congrArg Prod.fst hexec, ?_⟩⟩
    exact ThermM.bind_of_failed hexec _

/-- How `dsth_set_res` ends, for a thermometer with a configuration register, by what the read of
its scratchpad delivers. -/
inductive SetsRes (delivered : Outcome LrErrc (List UInt8)) (f : ValidScratchpad) (res : DsthRes)
    (calls : List BusCall) : Outcome LrErrc Unit × ThermSt → Prop
  | readFailed {c : BusCall} {hndl : W1Hndl} (hc : c.Reads) (hret : c.ret ≠ some .success)
    (hdel : delivered = ThermM.failed c.ret) :
    SetsRes delivered f res calls (ThermM.failed c.ret, ⟨hndl, calls ++ [c]⟩)
  | refused {c : BusCall} {hndl : W1Hndl} {bs : List UInt8} (hc : c.Reads)
    (hret : c.ret = some .success) (hdel : delivered = .val bs)
    (hcrc : crc8 (bs.take 8) ≠ (ThermM.scratchpadOf bs).crc) :
    SetsRes delivered f res calls (.exit .dtaCrpt, ⟨hndl, calls ++ [c]⟩)
  | writeFailed {c w : BusCall} {hndl : W1Hndl} {cfgReg : UInt8} (hc : c.Reads)
    (hret : c.ret = some .success) (hdel : delivered = .val f.toBytes)
    (hw : w.Writes f.th f.tl cfgReg) (hres : IsWithRes f.cfgReg res cfgReg)
    (hwret : w.ret ≠ some .success) :
    SetsRes delivered f res calls (ThermM.failed w.ret, ⟨hndl, calls ++ [c, w]⟩)
  | written {c w : BusCall} {hndl : W1Hndl} {cfgReg : UInt8} (hc : c.Reads)
    (hret : c.ret = some .success) (hdel : delivered = .val f.toBytes)
    (hw : w.Writes f.th f.tl cfgReg) (hres : IsWithRes f.cfgReg res cfgReg)
    (hwret : w.ret = some .success) :
    SetsRes delivered f res calls (.val (), ⟨hndl, calls ++ [c, w]⟩)

theorem setsRes_dsthSetRes {therm : UInt64} {f : ValidScratchpad} (res : DsthRes)
    (hfam : dsthGetFamily therm ≠ ds18s20) (hbuf : ∀ k, (env k).cmdBuf ≠ 0)
    (hread : ReadsFrom cfg env therm s f) :
    SetsRes (scratchpadDelivered cfg env therm s) f res s.calls
      (ThermM.dsthSetRes cfg env therm res s) := by
  rw [ThermM.dsthSetRes, if_pos hfam]
  obtain ⟨c, hndl, hc, ⟨hret, ⟨hdel, hval⟩ | ⟨bs, hdel, hcrc, hcrpt⟩⟩ | ⟨hret, hdel, hfail⟩⟩ :=
    dsthReadScratchpad_cases (hbuf _) hread
  · rw [Prog.bind_of_val hval, ThermM.dsthWriteScratchpad, if_pos hfam, ← withRes]
    obtain ⟨w, hndl', hw, ⟨hwret, out, hexec⟩ | ⟨hwret, hexec⟩⟩ := execCmd_cases cfg
      (s := ⟨hndl, s.calls ++ [c]⟩) (hbuf _) therm
      [writeScratchpad, f.th, f.tl, withRes f.cfgReg res] 0
      (List.cons_ne_nil _ _) (by simp)
    · rw [Prog.bind_of_val hexec, List.append_assoc]
      exact .written hc hret hdel hw (isWithRes_withRes f.cfgReg res) hwret
    · rw [ThermM.bind_of_failed hexec, List.append_assoc]
      exact .writeFailed hc hret hdel hw (isWithRes_withRes f.cfgReg res) hwret
  · rw [Prog.bind_of_exit hcrpt]
    exact .refused hc hret hdel hcrc
  · rw [ThermM.bind_of_failed hfail]
    exact .readFailed hc hret hdel

/-- The scratchpad is written, once and with nothing but its resolution changed, exactly when it
was delivered: every other way through the function ends before the write. -/
theorem SetsRes.writes_iff {delivered : Outcome LrErrc (List UInt8)} {f : ValidScratchpad}
    {res : DsthRes} {calls : List BusCall} {r : Outcome LrErrc Unit × ThermSt}
    (h : SetsRes delivered f res calls r) :
    delivered = .val f.toBytes ↔ ∃ c w cfgReg, r.2.calls = calls ++ [c, w] ∧ c.Reads ∧
      w.Writes f.th f.tl cfgReg ∧ IsWithRes f.cfgReg res cfgReg := by
  have hone {c c' w : BusCall} (h : calls ++ [c] = calls ++ [c', w]) : False := by
    have hlen := congrArg List.length (List.append_cancel_left h)
    exact absurd hlen (by simp)
  cases h with
  | readFailed hc hret hdel =>
    refine iff_of_false (fun h => ?_) fun ⟨_, _, _, h, _⟩ => hone h
    exact ThermM.failed_ne_val _ _ (hdel.symm.trans h)
  | refused hc hret hdel hcrc =>
    refine iff_of_false (fun h => hcrc ?_) fun ⟨_, _, _, h, _⟩ => hone h
    obtain rfl := Outcome.val.inj (hdel.symm.trans h)
    exact f.crc_eq
  | writeFailed hc hret hdel hw hres hwret =>
    exact iff_of_true hdel ⟨_, _, _, rfl, hc, hw, hres⟩
  | written hc hret hdel hw hres hwret =>
    exact iff_of_true hdel ⟨_, _, _, rfl, hc, hw, hres⟩

/-- When the resolution was set, it is in the scratchpad that the thermometer is left with. -/
theorem SetsRes.res_of_leaves {delivered : Outcome LrErrc (List UInt8)} {f g : ValidScratchpad}
    {res : DsthRes} {calls news : List BusCall} {r : Outcome LrErrc Unit × ThermSt}
    (h : SetsRes delivered f res calls r) (hval : r.1 = .val ())
    (hcalls : r.2.calls = calls ++ news) (hleaves : LeavesAll news f g) :
    DsthRes.ofUInt8 (cfgRes g.cfgReg) = res := by
  cases h with
  | readFailed hc hret hdel => exact absurd hval (ThermM.failed_ne_val _ _)
  | refused hc hret hdel hcrc => cases hval
  | writeFailed hc hret hdel hw hres hwret => exact absurd hval (ThermM.failed_ne_val _ _)
  | @written c w hndl cfgReg hc hret hdel hw hres hwret =>
    obtain rfl : [c, w] = news := List.append_cancel_left hcalls
    obtain ⟨f₁, hf₁ | ⟨hne, -⟩, f₂, hf₂ | ⟨hne', -⟩, rfl⟩ := hleaves
    · -- the read leaves the scratchpad as it is, and the write has had its effect
      have hread : f₁ = f := by
        rw [hf₁, hc]
        rfl
      rw [hf₂, hread, hw]
      exact hres.res_eq
    · exact absurd hwret hne'
    · exact absurd hret hne
    · exact absurd hret hne

/-- `dsth_get_res` returns what is in the scratchpad, when it returns something; and it does so
when the scratchpad is delivered. -/
theorem dsthGetRes_of_readsFrom {therm : UInt64} {g : ValidScratchpad}
    (hfam : dsthGetFamily therm ≠ ds18s20) (hbuf : (env s.calls.length).cmdBuf ≠ 0)
    (hread : ReadsFrom cfg env therm s g) :
    (∀ res, (ThermM.dsthGetRes cfg env therm s).1 = .val res →
      res = DsthRes.ofUInt8 (cfgRes g.cfgReg)) ∧
    (scratchpadDelivered cfg env therm s = .val g.toBytes →
      (ThermM.dsthGetRes cfg env therm s).1 = .val (.ofUInt8 (cfgRes g.cfgReg))) := by
  rw [ThermM.dsthGetRes, if_pos hfam]
  constructor
  · intro res hres
    obtain ⟨c, hndl, -, ⟨-, ⟨-, hval⟩ | ⟨bs, -, -, hcrpt⟩⟩ | ⟨-, -, hfail⟩⟩ :=
      dsthReadScratchpad_cases hbuf hread
    · rw [Prog.bind_of_val hval] at hres
      cases hres
      rfl
    · rw [Prog.bind_of_exit hcrpt] at hres
      cases hres
    · rw [ThermM.bind_of_failed hfail] at hres
      exact absurd hres (ThermM.failed_ne_val _ _)
  · intro hdel
    rw [Prog.bind_of_val (Prod.ext ((dsthReadScratchpad_delivered g hdel).1 rfl) rfl)]
    rfl

/-- **The resolution.** On a thermometer with a configuration register `dsth_set_res` reads the
scratchpad. If the read fails or its checksum does not match, nothing is written; a scratchpad that
is delivered is written once, with the resolution bits changed and all else kept. After a success
`dsth_get_res` returns the resolution. For DS18S20 there are no calls, and only 12 bits succeed. -/
theorem dsthSetRes_spec (cfg : Config) (env : ℕ → ThermEnv) (therm : UInt64) (res : DsthRes)
    (s : ThermSt) (f : ValidScratchpad) (hbuf : ∀ k, (env k).cmdBuf ≠ 0) :
    (dsthGetFamily therm ≠ ds18s20 → ReadsFrom cfg env therm s f →
      SetsRes (scratchpadDelivered cfg env therm s) f res s.calls
        (ThermM.dsthSetRes cfg env therm res s) ∧
      (scratchpadDelivered cfg env therm s = .val f.toBytes ↔
        ∃ c w cfgReg, (ThermM.dsthSetRes cfg env therm res s).2.calls = s.calls ++ [c, w] ∧
          c.Reads ∧ w.Writes f.th f.tl cfgReg ∧ IsWithRes f.cfgReg res cfgReg) ∧
      ∀ s', ThermM.dsthSetRes cfg env therm res s = (.val (), s') →
        ∀ news g, s'.calls = s.calls ++ news → LeavesAll news f g →
          ReadsFrom cfg env therm s' g →
          (∀ res', (ThermM.dsthGetRes cfg env therm s').1 = .val res' → res' = res) ∧
          (scratchpadDelivered cfg env therm s' = .val g.toBytes →
            (ThermM.dsthGetRes cfg env therm s').1 = .val res)) ∧
    (dsthGetFamily therm = ds18s20 →
      ThermM.dsthSetRes cfg env therm res s =
        (if res = .bit12 then .val () else .exit .devErr, s) ∧
      ThermM.dsthGetRes cfg env therm s = (.val .bit12, s)) := by
  constructor
  · intro hfam hread
    have hsets := setsRes_dsthSetRes res hfam hbuf hread
    refine ⟨hsets, hsets.writes_iff, fun s' hs' news g hnews hleaves hread' => ?_⟩
    have hres := hsets.res_of_leaves (by rw [hs']) (by rw [hs']; exact hnews) hleaves
    have hget := dsthGetRes_of_readsFrom hfam (hbuf _) hread'
    rwa [hres] at hget
  · intro hfam
    rw [ThermM.dsthSetRes, ThermM.dsthGetRes, if_neg (not_not.mpr hfam),
      if_neg (not_not.mpr hfam)]
    refine ⟨?_, rfl⟩
    by_cases h12 : res = .bit12
    · rw [if_neg (not_not.mpr h12), if_pos h12]
      rfl
    · rw [if_pos h12, if_neg h12]
      rfl

end Calls

/-! ### A resolution that is set -/

/-- What is on the bus while the resolution of a thermometer is set, and then read. -/
def setReplies (f : ValidScratchpad) (res : DsthRes) : ℕ → List UInt8
  | 0 => [ThermM.readScratchpad] ++ f.toBytes
  | 1 => [writeScratchpad, f.th, f.tl, withRes f.cfgReg res] ++ []
  | _ => [ThermM.readScratchpad] ++ (f.write f.th f.tl (withRes f.cfgReg res)).toBytes

theorem length_setReplies (f : ValidScratchpad) (res : DsthRes) :
    ∀ k, (setReplies f res k).length < 256
  | 0 => show 10 < 256 by decide
  | 1 => show 4 < 256 by decide
  | _ + 2 => show 10 < 256 by decide

section Answered

variable (cfg : Config) {therm : UInt64} (f : ValidScratchpad) (res : DsthRes)

/-- The calls for a thermometer that answers. -/
abbrev setEnv (therm : UInt64) : ℕ → ThermEnv :=
  repliesEnv therm (setReplies f res) (length_setReplies f res)

/-- A scratchpad that is delivered is read from. -/
theorem readsFrom_of_delivered {cfg : Config} {env : ℕ → ThermEnv} {f : ValidScratchpad}
    {s s' : ThermSt}
    (h : ThermM.execCmd cfg env therm [ThermM.readScratchpad] 9 s = (.val f.toBytes, s')) :
    ReadsFrom cfg env therm s f := by
  intro bs hbs
  rw [scratchpadDelivered, h] at hbs
  cases hbs
  exact Or.inl rfl

/-- A thermometer that answers takes the resolution over. -/
theorem dsthSetRes_setEnv (therm : UInt64) (hfam : dsthGetFamily therm ≠ ds18s20) :
    ∃ s' news g, ThermM.dsthSetRes cfg (setEnv f res therm) therm res ⟨w1Init, []⟩ = (.val (), s') ∧
      s'.calls = [] ++ news ∧ LeavesAll news f g ∧
      ReadsFrom cfg (setEnv f res therm) therm ⟨w1Init, []⟩ f ∧
      (ThermM.execCmd cfg (setEnv f res therm) therm [ThermM.readScratchpad] 9 s').1 =
        .val g.toBytes := by
  obtain ⟨c, s₁, hread, hcalls₁, hret₁, htrace₁, hs₁⟩ := execCmd_repliesEnv cfg therm
    [ThermM.readScratchpad] f.toBytes (h := length_setReplies f res)
    (s := ⟨w1Init, []⟩) rfl (List.cons_ne_nil _ _) (show 10 ≤ 32 by decide) rfl
  obtain ⟨w, s₂, hwrite, hcalls₂, hret₂, htrace₂, hs₂⟩ := execCmd_repliesEnv cfg therm
    [writeScratchpad, f.th, f.tl, withRes f.cfgReg res] []
    (h := length_setReplies f res) hs₁ (List.cons_ne_nil _ _) (show 4 ≤ 32 by decide)
    (by rw [hcalls₁]; rfl)
  obtain ⟨c', s₃, hread', -, -, -, -⟩ := execCmd_repliesEnv cfg therm
    [ThermM.readScratchpad] (f.write f.th f.tl (withRes f.cfgReg res)).toBytes
    (h := length_setReplies f res) hs₂ (List.cons_ne_nil _ _) (show 10 ≤ 32 by decide)
    (by rw [hcalls₂, hcalls₁]; rfl)
  have hval : ThermM.dsthReadScratchpad cfg (setEnv f res therm) therm ⟨w1Init, []⟩ =
      (.val f.toDsthScratchpad, s₁) :=
    (dsthReadScratchpad_of_val hread).trans (Prod.ext (if_neg (not_not.mpr f.crc_eq)) rfl)
  have hset : ThermM.dsthSetRes cfg (setEnv f res therm) therm res ⟨w1Init, []⟩ =
      (.val (), s₂) := by
    rw [ThermM.dsthSetRes, if_pos hfam, Prog.bind_of_val hval, ThermM.dsthWriteScratchpad,
      if_pos hfam]
    exact Prog.bind_of_val hwrite _
  have hleaves : LeavesAll [c, w] f (f.write f.th f.tl (withRes f.cfgReg res)) := by
    refine ⟨f, Or.inl ?_, _, Or.inl ?_, rfl⟩
    · rw [htrace₁]
      rfl
    · rw [htrace₂]
      rfl
  exact ⟨s₂, [c, w], _, hset, by rw [hcalls₂, hcalls₁]; rfl, hleaves,
    readsFrom_of_delivered hread, congrArg Prod.fst hread'⟩

/-- The power-on scratchpad is set to 9 bits, and then read. -/
theorem dsthSetRes_powerOn :
    ∃ s', ThermM.dsthSetRes ⟨false, .lp64⟩ (setEnv powerOnScratchpad .bit9 0x28) 0x28 .bit9
        ⟨w1Init, []⟩ = (.val (), s') ∧
      (ThermM.dsthGetRes ⟨false, .lp64⟩ (setEnv powerOnScratchpad .bit9 0x28) 0x28 s').1 =
        .val .bit9 := by
  obtain ⟨s', news, g, hset, hcalls, hleaves, hread, hdel⟩ := dsthSetRes_setEnv ⟨false, .lp64⟩
    powerOnScratchpad .bit9 0x28 (by decide)
  obtain ⟨-, -, hget⟩ := (dsthSetRes_spec ⟨false, .lp64⟩ (setEnv powerOnScratchpad .bit9 0x28) 0x28
    .bit9 ⟨w1Init, []⟩ powerOnScratchpad fun _ => show 16 ≠ 0 by decide).1 (by decide) hread
  exact ⟨s', hset, (hget s' hset news g hcalls hleaves
    (readsFrom_of_delivered (Prod.ext hdel rfl))).2 hdel⟩

end Answered

end Librasp
