import Librasp.Devices.Thermometer

/-!
# `ds_therm.c`: a probe from end to end

The functions for one thermometer are programs of requests and of waiting (`DsthIo`). With the
requests of `ThermM` they are the operations of the library (`dsthProbe_thermM`); with those of
`SiteM` they run against a thermometer.

`dsth_probe` then returns what the thermometer has measured in this very call, or the failure of
one of its requests (`dsthProbe_measures`); a thermometer that is slower than the library waits
for is read too early, and nothing tells (`dsthProbe_stale`).

* `failing` is the way in which a program may leave early: one of its own requests was not
  answered, or was answered with errors. There is one lemma for each function that is called, with
  what it returns and the state after it (`ensures_readScratchpad`, `ensures_getRes`).
* A conversion comes to its end if it has time enough and power (`settle_convert`). `dsth_probe`
  waits as long as the resolution says, by a sleep or by the strong pull-up.
* `Noticed` says of the flips in a scratchpad that its checksum is wrong, if there are any.

**Main result.** `dsthProbe_measures`, with its conditions: no sleep is cut short, a conversion
takes no longer than the library says, and a thermometer without a supply is known for one.
-/

namespace Librasp

/-! ### The functions -/

/-- What the functions for a thermometer do outside of the library. -/
structure DsthIo (σ : Type) where
  execCmd : List UInt8 → ℕ → Prog LrErrc σ (List UInt8)
  execCmdPullup : UInt8 → UInt32 → Prog LrErrc σ (List UInt8)
  usleep : UInt32 → Prog LrErrc σ Unit

namespace DsthIo

variable {σ : Type} (io : DsthIo σ) (cfg : Config) (therm : UInt64)

/-- `dsth_read_pow_supply`. -/
def dsthReadPowSupply : Prog LrErrc σ Bool := do
  let resp ← io.execCmd [ThermM.readPowSupply] 1
  pure (resp.getD 0 0 &&& 1 = 0)

/-- `dsth_convert_t`. -/
def dsthConvertT (statLen : ℕ) : Prog LrErrc σ (List UInt8) := io.execCmd [convertT] statLen

/-- `dsth_convert_t_with_pullup`. -/
def dsthConvertTWithPullup (pullup : UInt32) : Prog LrErrc σ (List UInt8) :=
  if cfg.writePullup then io.execCmdPullup convertT pullup else Prog.exit .notSupp

/-- `dsth_read_scratchpad`. -/
def dsthReadScratchpad : Prog LrErrc σ DsthScratchpad := do
  let bs ← io.execCmd [ThermM.readScratchpad] 9
  if crc8 (bs.take 8) ≠ (ThermM.scratchpadOf bs).crc then Prog.exit .dtaCrpt
  else pure (ThermM.scratchpadOf bs)

/-- `dsth_write_scratchpad`. -/
def dsthWriteScratchpad (th tl cfgReg : UInt8) : Prog LrErrc σ (List UInt8) :=
  if dsthGetFamily therm ≠ ds18s20 then io.execCmd [writeScratchpad, th, tl, cfgReg] 0
  else io.execCmd [writeScratchpad, th, tl] 0

/-- `dsth_copy_scratchpad`. -/
def dsthCopyScratchpad : Prog LrErrc σ (List UInt8) := io.execCmd [copyScratchpad] 0

/-- `dsth_copy_scratchpad_with_pullup`. -/
def dsthCopyScratchpadWithPullup (pullup : UInt32) : Prog LrErrc σ (List UInt8) :=
  if cfg.writePullup then io.execCmdPullup copyScratchpad pullup else Prog.exit .notSupp

/-- `dsth_recall_eeprom`. -/
def dsthRecallEeprom (status : Bool) : Prog LrErrc σ (List UInt8) :=
  io.execCmd [recallEeprom] (if status then 1 else 0)

/-- `dsth_get_res`. -/
def dsthGetRes : Prog LrErrc σ DsthRes :=
  if dsthGetFamily therm ≠ ds18s20 then do
    let scpd ← io.dsthReadScratchpad
    pure (.ofUInt8 (cfgRes scpd.cfgReg))
  else pure .bit12

/-- `dsth_set_res`. -/
def dsthSetRes (res : DsthRes) : Prog LrErrc σ Unit :=
  if dsthGetFamily therm ≠ ds18s20 then do
    let scpd ← io.dsthReadScratchpad
    let _ ← io.dsthWriteScratchpad therm scpd.th scpd.tl
      (ThermM.setBitfld scpd.cfgReg ((res.toUInt8 &&& 3) <<< 5) ((3 : UInt8) <<< 5))
    pure ()
  else if res ≠ .bit12 then Prog.exit .devErr
  else pure ()

/-- `dsth_probe` up to its conversion. -/
def probePower : Prog LrErrc σ Bool :=
  if cfg.writePullup then io.dsthReadPowSupply else pure false

/-- The conversion of `dsth_probe`, with the waiting for it. -/
def probeConvert (isParas : Bool) (convTime : UInt32) : Prog LrErrc σ Unit :=
  if isParas then do
    let _ ← io.dsthConvertTWithPullup cfg convTime
    pure ()
  else do
    let _ ← io.dsthConvertT 0
    io.usleep (convTime * 1000)

/-- `dsth_probe`. -/
def dsthProbe : Prog LrErrc σ (Option ℤ) := do
  let isParas ← io.probePower cfg
  let res ← io.dsthGetRes therm
  io.probeConvert cfg isParas (ThermM.dsthGetConvTime res)
  let scpd ← io.dsthReadScratchpad
  pure (dsthGetTempScratchpad therm scpd)

end DsthIo

/-- The requests of the operations; the waiting does not show there. -/
def ThermM.io (cfg : Config) (env : ℕ → ThermEnv) (therm : UInt64) : DsthIo ThermSt where
  execCmd := ThermM.execCmd cfg env therm
  execCmdPullup := ThermM.execCmdPullup cfg env therm
  usleep := fun _ => pure ()

/-- The operations are the functions. -/
theorem dsthSetRes_thermM (cfg : Config) (env : ℕ → ThermEnv) (therm : UInt64) (res : DsthRes) :
    (ThermM.io cfg env therm).dsthSetRes therm res = ThermM.dsthSetRes cfg env therm res := rfl

theorem dsthProbe_thermM (cfg : Config) (env : ℕ → ThermEnv) (therm : UInt64) :
    (ThermM.io cfg env therm).dsthProbe cfg therm = ThermM.dsthProbe cfg env therm := by
  have hconv : ∀ isParas res, (ThermM.io cfg env therm).probeConvert cfg isParas
      (ThermM.dsthGetConvTime res) =
      (ThermM.probeConvert cfg env therm isParas res >>= fun _ => pure ()) := by
    intro isParas res
    cases isParas <;> rfl
  have hrest : ∀ isParas res, ((ThermM.io cfg env therm).probeConvert cfg isParas
        (ThermM.dsthGetConvTime res) >>= fun _ => do
          let scpd ← (ThermM.io cfg env therm).dsthReadScratchpad
          pure (dsthGetTempScratchpad therm scpd)) =
      (ThermM.probeConvert cfg env therm isParas res >>= fun _ => do
        let scpd ← ThermM.dsthReadScratchpad cfg env therm
        pure (dsthGetTempScratchpad therm scpd)) := by
    intro isParas res
    rw [hconv, Prog.bind_assoc]
    rfl
  unfold DsthIo.dsthProbe ThermM.dsthProbe
  simp only [hrest]
  rfl

/-! ### Requests to a thermometer -/

/-- The requests of the functions, to a thermometer. -/
def SiteM.io (cfg : Config) (w : Site) : DsthIo SiteSt where
  execCmd := SiteM.execCmd cfg w
  execCmdPullup := SiteM.execCmdPullup cfg w
  usleep := SiteM.usleep w

/-- The flips in a scratchpad that arrives. -/
def flips (err : ℕ → UInt8) : List UInt8 := (List.range 9).map err

/-- The flips in a scratchpad are noticed by its checksum, if there are any. -/
def Noticed (err : ℕ → UInt8) : Prop :=
  (∀ i < 9, err i = 0) ∨ true ∈ bitsOf (flips err) ∧ Detectable (bitsOf (flips err))

/-- A request is answered, and its reply is as it was sent. -/
def Fate.Clean (fate : Fate) : Prop := ∃ err, fate = .answered err ∧ ∀ i < 9, err i = 0

/-- A request is answered. -/
def Fate.Answered (fate : Fate) : Prop := ∃ err, fate = .answered err

theorem Fate.Clean.answered {fate : Fate} (h : fate.Clean) : fate.Answered := by
  obtain ⟨err, herr, -⟩ := h
  exact ⟨err, herr⟩

/-- A request ends with what it returns, or leaves early, in the same state. -/
theorem ensures_result {σ α : Type} {m : Prog LrErrc σ α} {fate : Fate}
    {out : (ℕ → UInt8) → α} {s s' : σ} (h : m s = (fate.result out, s')) :
    Prog.Ensures m s (fun a t => t = s' ∧ ∃ err, fate = .answered err ∧ a = out err)
      ⟨fun _ t => t = s' ∧ ¬ fate.Answered, fun _ => False⟩ := by
  unfold Prog.Ensures
  rw [h]
  cases fate with
  | answered err => exact ⟨rfl, err, rfl, rfl⟩
  | lost reached => exact ⟨rfl, by rintro ⟨err, ⟨⟩⟩⟩
  | notSent => exact ⟨rfl, by rintro ⟨err, ⟨⟩⟩⟩

namespace Thermometer

variable {d : Thermometer} {now : ℕ}

theorem settle_eq_or (now : ℕ) (d : Thermometer) :
    d.settle now = d ∨ ∃ r, d.settle now = { d with scpd := d.scpd.measure r, conv := none } := by
  rw [settle]
  rcases d.conv with _ | ⟨t, r⟩
  · exact Or.inl rfl
  · dsimp only
    split_ifs
    · exact Or.inr ⟨r, rfl⟩
    · exact Or.inl rfl

@[simp]
theorem settle_parasitic : (d.settle now).parasitic = d.parasitic := by
  rcases settle_eq_or now d with h | ⟨r, h⟩ <;> rw [h]

@[simp]
theorem settle_eeprom : (d.settle now).eeprom = d.eeprom := by
  rcases settle_eq_or now d with h | ⟨r, h⟩ <;> rw [h]

@[simp]
theorem settle_settings : (d.settle now).scpd.settings = d.scpd.settings := by
  rcases settle_eq_or now d with h | ⟨r, h⟩
  · rw [h]
  · rw [h]
    rfl

theorem settle_of_none (h : d.conv = none) : d.settle now = d := by
  rw [settle, h]

@[simp]
theorem measure_settle (r : Reading) :
    (d.settle now).scpd.measure r = d.scpd.measure r := by
  rcases settle_eq_or now d with h | ⟨r', h⟩
  · rw [h]
  · rw [h]
    rfl

/-- The line while a thermometer may send, behind a command of one byte. -/
theorem line_read (err : ℕ → UInt8) (c : UInt8) (n : ℕ) :
    d.line err ([c] ++ List.replicate n 0xff) =
      [c] ++ (List.range n).map fun i => (d.heard err c).getD i 0xff := by
  have hones : ∀ b : UInt8, (0xff : UInt8) &&& b = b := fun b => by
    rw [UInt8.and_comm]
    exact UInt8.and_neg_one
  refine congrArg (c :: ·) (List.ext_getElem (by simp) fun i h₁ h₂ => ?_)
  simp [hones]

@[simp]
theorem res_settle {w : Site} : (d.settle now).res w = d.res w := by
  have hcfg : (d.settle now).scpd.cfgReg = d.scpd.cfgReg :=
    congrArg Settings.cfgReg settle_settings
  rw [res, res]
  exact congrArg (fun c => if dsthGetFamily w.therm ≠ ds18s20 then DsthRes.ofUInt8 (cfgRes c)
    else .bit12) hcfg

end Thermometer

namespace SiteM

open Prog

variable {cfg : Config} {w : Site} {s : SiteSt} {n : ℕ}

/-- The state after a request that changes nothing. -/
def asked (w : Site) (s : SiteSt) : SiteSt :=
  ⟨⟨s.hndl.seq + 1⟩, nextDev w s, nextTime w s, s.reqs + 1⟩

/-- A program leaves early only if one of its requests, which are those from `n` on, was not
answered or was answered with errors. -/
def failing (w : Site) (n : ℕ) : Exits LrErrc SiteSt where
  exit _ s' := ∃ k, n ≤ k ∧ k < s'.reqs ∧ ¬ (w.fate k).Clean
  more _ := False

/-- A request ends with what it returns, or leaves early. -/
theorem ensures_request {m : SiteM (List UInt8)} {out : (ℕ → UInt8) → List UInt8} {s' : SiteSt}
    (h : m s = ((w.fate s.reqs).result out, s')) (hn : n ≤ s.reqs) (hreqs : s'.reqs = s.reqs + 1) :
    Ensures m s (fun bs t => t = s' ∧ ∃ err, w.fate s.reqs = .answered err ∧ bs = out err)
      (failing w n) := by
  refine (ensures_result h).mono_exits ?_ fun _ h => h
  rintro e t ⟨rfl, hne⟩
  exact ⟨s.reqs, hn, by omega, fun hclean => hne hclean.answered⟩

/-- A command of one byte that changes nothing, with what is read behind it. -/
theorem execCmd_read {c : UInt8} (hc : c ∉ [convertT, writeScratchpad, copyScratchpad,
    recallEeprom]) {outLen : ℕ} (hlen : outLen ≤ 31) :
    execCmd cfg w [c] outLen s = ((w.fate s.reqs).result fun err =>
      (List.range outLen).map fun i => ((nextDev w s).heard err c).getD i 0xff, asked w s) := by
  have hobey : (nextDev w s).obey w (nextTime w s) none ([c] ++ List.replicate outLen 0xff) =
      nextDev w s := by
    simp only [List.mem_cons, List.not_mem_nil, or_false, not_or] at hc
    rw [List.cons_append, Thermometer.obey, if_neg hc.1, if_neg hc.2.1, if_neg hc.2.2.1,
      if_neg hc.2.2.2]
  have hread : execCmd cfg w [c] outLen s = _ := execCmd_eq (List.cons_ne_nil c [])
    (show [c].length + outLen ≤ 32 by rw [List.length_singleton]; omega)
    fun err => (nextDev w s).line_read err c outLen
  rw [hobey, ite_self] at hread
  exact hread

/-- What is read of the power supply. -/
theorem ensures_readPowSupply (hn : n ≤ s.reqs) :
    Ensures (io cfg w).dsthReadPowSupply s (fun isParas s' => s' = asked w s ∧
      ∃ err, w.fate s.reqs = .answered err ∧
        isParas = decide (((if s.dev.parasitic then 0 else 0xff) ^^^ err 0) &&& 1 = 0))
      (failing w n) := by
  have hread : execCmd cfg w [ThermM.readPowSupply] 1 s = _ :=
    execCmd_read (by decide) (show 1 ≤ 31 by decide)
  refine ensures_bind (ensures_request hread hn rfl) ?_
  rintro bs s' ⟨rfl, err, herr, rfl⟩
  refine ⟨rfl, err, herr, ?_⟩
  have hheard : (nextDev w s).heard err ThermM.readPowSupply =
      [(if s.dev.parasitic then 0 else 0xff) ^^^ err 0] := by
    have hans : (nextDev w s).answer ThermM.readPowSupply =
        [if (nextDev w s).parasitic then 0 else 0xff] := rfl
    rw [Thermometer.heard, hans, nextDev, Thermometer.settle_parasitic]
    rfl
  rw [hheard]
  rfl

/-- The scratchpad that arrives. -/
theorem heard_readScratchpad (d : Thermometer) (err : ℕ → UInt8) :
    (List.range 9).map (fun i => (d.heard err ThermM.readScratchpad).getD i 0xff) =
      corrupt d.scpd.toBytes (flips err) := rfl

theorem corrupt_of_clean {bs : List UInt8} (hlen : bs.length = 9) {err : ℕ → UInt8}
    (h : ∀ i < 9, err i = 0) : corrupt bs (flips err) = bs := by
  refine List.ext_getElem (by simp [corrupt, flips, hlen]) fun i h₁ h₂ => ?_
  simp [corrupt, flips, h i (by omega)]

/-- What becomes of the read of a scratchpad: it is returned if it arrives as it was sent, and not
otherwise. -/
theorem ensures_readScratchpad_asked
    (hnoise : ∀ err, w.fate s.reqs = .answered err → Noticed err) :
    Ensures (io cfg w).dsthReadScratchpad s (fun scpd s' => s' = asked w s ∧
        (w.fate s.reqs).Clean ∧ scpd = (nextDev w s).scpd.toDsthScratchpad)
      ⟨fun _ s' => s' = asked w s ∧ ¬ (w.fate s.reqs).Clean, fun _ => False⟩ := by
  have hread : execCmd cfg w [ThermM.readScratchpad] 9 s = _ :=
    execCmd_read (by decide) (show 9 ≤ 31 by decide)
  have hreq : Ensures (execCmd cfg w [ThermM.readScratchpad] 9) s _
      ⟨fun _ s' => s' = asked w s ∧ ¬ (w.fate s.reqs).Clean, fun _ => False⟩ :=
    (ensures_result hread).mono_exits (fun _ _ h => ⟨h.1, fun hc => h.2 hc.answered⟩) fun _ h => h
  refine ensures_bind hreq ?_
  rintro bs s' ⟨rfl, err, herr, rfl⟩
  rw [heard_readScratchpad]
  rcases hnoise err herr with hclean | ⟨hne, hdet⟩
  · rw [corrupt_of_clean rfl hclean, scratchpadOf_toBytes,
      if_neg (not_not.mpr (nextDev w s).scpd.crc_eq)]
    exact ⟨rfl, ⟨err, herr, hclean⟩, rfl⟩
  · rw [if_pos ((nextDev w s).scpd.crc8_corrupt_ne rfl hne hdet)]
    refine ⟨rfl, ?_⟩
    rintro ⟨err', herr', hclean⟩
    obtain rfl : err = err' := Fate.answered.inj (herr.symm.trans herr')
    -- a scratchpad without flips has no bit set in its pattern
    have hzero : flips err = List.replicate 9 0 := by
      refine List.eq_replicate_iff.mpr ⟨by simp [flips], fun b hb => ?_⟩
      obtain ⟨i, hi, rfl⟩ := List.mem_map.mp hb
      exact hclean i (List.mem_range.mp hi)
    rw [hzero] at hne
    exact absurd hne (by decide)

/-- A scratchpad that is returned is the one that was sent. -/
theorem ensures_readScratchpad (hn : n ≤ s.reqs)
    (hnoise : ∀ err, w.fate s.reqs = .answered err → Noticed err) :
    Ensures (io cfg w).dsthReadScratchpad s (fun scpd s' => s' = asked w s ∧
      scpd = (nextDev w s).scpd.toDsthScratchpad) (failing w n) := by
  refine ((ensures_readScratchpad_asked hnoise).mono fun _ _ h => ⟨h.1, h.2.2⟩).mono_exits ?_
    fun _ h => h
  rintro e s' ⟨rfl, hclean⟩
  exact ⟨s.reqs, hn, Nat.lt_succ_self _, hclean⟩

/-- The resolution that is returned is that of the thermometer. -/
theorem ensures_getRes (hn : n ≤ s.reqs)
    (hnoise : ∀ err, w.fate s.reqs = .answered err → Noticed err) :
    Ensures ((io cfg w).dsthGetRes w.therm) s (fun res s' => (s' = s ∨ s' = asked w s) ∧
      res = s.dev.res w) (failing w n) := by
  have hres : (nextDev w s).res w = s.dev.res w := Thermometer.res_settle
  rw [DsthIo.dsthGetRes]
  by_cases hfam : dsthGetFamily w.therm ≠ ds18s20
  · rw [if_pos hfam]
    refine ensures_bind (ensures_readScratchpad hn hnoise) ?_
    rintro scpd s' ⟨rfl, rfl⟩
    refine ensures_pure ⟨Or.inr rfl, ?_⟩
    rw [← hres, Thermometer.res, if_pos hfam]
  · rw [if_neg hfam]
    refine ensures_pure ⟨Or.inl rfl, ?_⟩
    rw [Thermometer.res, if_neg hfam]

/-! ### The conversion -/

/-- The strong pull-up of a conversion. -/
def probePullup (isParas : Bool) (convTime : UInt32) : Option ℕ :=
  if isParas then some (convTime.toNat % 2 ^ 16) else none

/-- How long a conversion is waited for, after a number of requests. -/
def probeWait (w : Site) (reqs : ℕ) (isParas : Bool) (convTime : UInt32) : ℕ :=
  if isParas then 1000 * (convTime.toNat % 2 ^ 16) else w.nap reqs (convTime * 1000).toNat

/-- The state after the conversion of `dsth_probe`. -/
def converted (w : Site) (s : SiteSt) (isParas : Bool) (convTime : UInt32) : SiteSt where
  hndl := ⟨s.hndl.seq + 1⟩
  dev := (nextDev w s).convert w (nextTime w s) (probePullup isParas convTime)
  now := nextTime w s + probeWait w (s.reqs + 1) isParas convTime
  reqs := s.reqs + 1

theorem ensures_probeConvert (hn : n ≤ s.reqs) {isParas : Bool}
    (hcfg : isParas = true → cfg.writePullup = true) (convTime : UInt32) :
    Ensures ((io cfg w).probeConvert cfg isParas convTime) s
      (fun _ s' => s' = converted w s isParas convTime) (failing w n) := by
  cases isParas with
  | true =>
    have hreq := execCmdPullup_eq (w := w) (s := s) (hcfg rfl) convertT convTime
    have hconv : (io cfg w).dsthConvertTWithPullup cfg convTime =
        execCmdPullup cfg w convertT convTime := if_pos (hcfg rfl)
    refine ensures_bind (Q := fun _ s' => s' = converted w s true convTime) ?_ fun _ s' h => h
    rw [hconv]
    refine (ensures_request hreq hn rfl).mono ?_
    rintro bs s' ⟨rfl, err, herr, -⟩
    rw [herr]
    rfl
  | false =>
    have hline : ∀ err, (nextDev w s).line err ([convertT] ++ List.replicate 0 0xff) =
        [convertT] ++ (fun _ => []) err := fun _ => rfl
    have hreq : execCmd cfg w [convertT] 0 s = _ :=
      execCmd_eq (List.cons_ne_nil convertT []) (show 1 ≤ 32 by decide) hline
    refine ensures_bind (ensures_request hreq hn rfl) ?_
    rintro bs s' ⟨rfl, err, herr, -⟩
    refine ensures_modify ?_
    rw [herr]
    rfl

end SiteM

namespace Thermometer

variable {w : Site} {d : Thermometer} {t : ℕ}

/-- What a thermometer is after a conversion that began at a time. -/
def measured (w : Site) (t : ℕ) (d : Thermometer) : Thermometer :=
  { d with scpd := d.scpd.measure (w.sense t), conv := none }

/-- A conversion that has time enough, and power, comes to its end. -/
theorem settle_convert {pullup : Option ℕ} {now : ℕ}
    (hpow : d.parasitic = true → w.convTime (d.res w) ≤ 1000 * pullup.getD 0)
    (hnow : t + w.convTime (d.res w) ≤ now) :
    (d.convert w t pullup).settle now = d.measured w t := by
  rw [convert]
  by_cases hpar : d.parasitic = true
  · rw [if_pos hpar, if_pos (hpow hpar)]
    exact settle_of_none rfl
  · rw [if_neg hpar, settle]
    exact if_pos hnow

/-- A conversion that is still in progress does not show. -/
theorem scpd_settle_convert {pullup : Option ℕ} {now : ℕ} (hpar : d.parasitic = false)
    (hnow : now < t + w.convTime (d.res w)) :
    ((d.convert w t pullup).settle now).scpd = d.scpd := by
  rw [convert, if_neg (by rw [hpar]; decide), settle]
  dsimp only
  rw [if_neg (by omega)]

theorem measured_settle {now : ℕ} : (d.settle now).measured w t = d.measured w t := by
  rw [measured, measured, measure_settle]
  rcases settle_eq_or now d with h | ⟨r, h⟩ <;> rw [h]

end Thermometer

theorem dsthGetConvTime_le (res : DsthRes) : (ThermM.dsthGetConvTime res).toNat ≤ 750 := by
  cases res <;> decide

theorem toNat_convTime_mul (res : DsthRes) :
    (ThermM.dsthGetConvTime res * 1000).toNat = 1000 * (ThermM.dsthGetConvTime res).toNat := by
  cases res <;> decide

/-! ### The probe -/

namespace SiteM

open Prog

variable {cfg : Config} {w : Site} {s : SiteSt}

/-- The power supply that `dsth_probe` goes by. A thermometer without a supply of its own is taken
for one, if the library can do with a strong pull-up and the bit that tells is as it was sent. -/
theorem ensures_probePower :
    Ensures ((io cfg w).probePower cfg) s (fun isParas s' => (s' = s ∨ s' = asked w s) ∧
      (isParas = true → cfg.writePullup = true) ∧
      (s.dev.parasitic = true → cfg.writePullup = true →
        (∀ err, w.fate s.reqs = .answered err → err 0 &&& 1 = 0) → isParas = true))
      (failing w s.reqs) := by
  rw [DsthIo.probePower]
  by_cases hcfg : cfg.writePullup = true
  · rw [if_pos hcfg]
    refine (ensures_readPowSupply le_rfl).mono ?_
    rintro isParas s' ⟨rfl, err, herr, rfl⟩
    refine ⟨Or.inr rfl, fun _ => hcfg, fun hpar _ hbit => ?_⟩
    rw [if_pos hpar, UInt8.zero_xor, hbit err herr]
    rfl
  · rw [if_neg hcfg]
    exact ensures_pure ⟨Or.inl rfl, fun h => absurd h (by decide), fun _ h => absurd h hcfg⟩

/-- What requests keep that start no conversion and change no register. -/
structure Kept (w : Site) (s s' : SiteSt) : Prop where
  parasitic : s'.dev.parasitic = s.dev.parasitic
  res : s'.dev.res w = s.dev.res w
  measured : ∀ t, s'.dev.measured w t = s.dev.measured w t
  idle : s.dev.conv = none → s'.dev = s.dev
  now_le : s.now ≤ s'.now
  reqs_le : s.reqs ≤ s'.reqs

theorem kept_of_asked {s' : SiteSt} (h : s' = s ∨ s' = asked w s) : Kept w s s' := by
  rcases h with rfl | rfl
  · exact ⟨rfl, rfl, fun _ => rfl, fun _ => rfl, le_rfl, le_rfl⟩
  · exact ⟨Thermometer.settle_parasitic, Thermometer.res_settle,
      fun _ => Thermometer.measured_settle, Thermometer.settle_of_none, Nat.le_add_right _ _,
      Nat.le_succ _⟩

theorem Kept.trans {s' s'' : SiteSt} (h : Kept w s s') (h' : Kept w s' s'') : Kept w s s'' :=
  ⟨h'.parasitic.trans h.parasitic, h'.res.trans h.res,
    fun t => (h'.measured t).trans (h.measured t),
    fun hidle => (h'.idle (by rw [h.idle hidle, hidle])).trans (h.idle hidle),
    h.now_le.trans h'.now_le, h.reqs_le.trans h'.reqs_le⟩

/-- What comes of `dsth_probe`: the conversion began at a time, was waited for, and the scratchpad
was read that the thermometer then had. The parts of the probe are those of the source: the
power supply, the conversion, the scratchpad. -/
theorem ensures_probe
    (hnoise : ∀ k err, w.fate k = .answered err → Noticed err) :
    Ensures ((io cfg w).dsthProbe cfg w.therm) s (fun temp s' => ∃ s₁ isParas,
      Kept w s s₁ ∧ (isParas = true → cfg.writePullup = true) ∧
      (s.dev.parasitic = true → cfg.writePullup = true →
        (∀ err, w.fate s.reqs = .answered err → err 0 &&& 1 = 0) → isParas = true) ∧
      s' = asked w (converted w s₁ isParas (ThermM.dsthGetConvTime (s.dev.res w))) ∧
      temp = dsthGetTempScratchpad w.therm s'.dev.scpd.toDsthScratchpad) (failing w s.reqs) := by
  refine ensures_bind ensures_probePower ?_
  rintro isParas s₀ ⟨hs₀, hcfg, hpar⟩
  have hkept := kept_of_asked hs₀
  refine ensures_bind (ensures_getRes hkept.reqs_le (hnoise _)) ?_
  rintro res s₁ ⟨hs₁, rfl⟩
  have hkept₁ := hkept.trans (kept_of_asked hs₁)
  rw [hkept.res]
  refine ensures_bind (ensures_probeConvert hkept₁.reqs_le hcfg _) ?_
  rintro - s₂ rfl
  refine ensures_bind (ensures_readScratchpad
    (hkept₁.reqs_le.trans (Nat.le_succ _)) (hnoise _)) ?_
  rintro scpd s₃ ⟨rfl, rfl⟩
  exact ensures_pure ⟨s₁, isParas, hkept₁, hcfg, hpar, rfl, rfl⟩

/-- A conversion that takes no longer than the library says has come to its end when the
scratchpad is read, whether it was slept for or powered by the pull-up. -/
theorem dev_asked_converted {s₁ : SiteSt} {isParas : Bool} (hkept : Kept w s s₁)
    (hpar : s.dev.parasitic = true → isParas = true)
    (hconv : w.convTime (s.dev.res w) ≤ 1000 * (ThermM.dsthGetConvTime (s.dev.res w)).toNat)
    (hnap : ∀ k usec, usec ≤ w.nap k usec) :
    (asked w (converted w s₁ isParas (ThermM.dsthGetConvTime (s.dev.res w)))).dev =
      s.dev.measured w (nextTime w s₁) := by
  have hle := dsthGetConvTime_le (s.dev.res w)
  have hmul := toNat_convTime_mul (s.dev.res w)
  obtain ⟨convTime, htime⟩ : ∃ c, c = ThermM.dsthGetConvTime (s.dev.res w) := ⟨_, rfl⟩
  rw [← htime] at hconv hle hmul ⊢
  have hmod : convTime.toNat % 2 ^ 16 = convTime.toNat := Nat.mod_eq_of_lt (by omega)
  -- the waiting is long enough, whichever way it is done
  have hwait : 1000 * convTime.toNat ≤ probeWait w (s₁.reqs + 1) isParas convTime := by
    rw [probeWait]
    split_ifs
    · rw [hmod]
    · rw [← hmul]
      exact hnap _ _
  have hres : (nextDev w s₁).res w = s.dev.res w := Thermometer.res_settle.trans hkept.res
  rw [asked, nextDev, converted, Thermometer.settle_convert, nextDev,
    Thermometer.measured_settle, hkept.measured]
  · intro hdpar
    have htrue : isParas = true :=
      hpar (hkept.parasitic.symm.trans (Thermometer.settle_parasitic.symm.trans hdpar))
    rw [hres, probePullup, if_pos htrue, Option.getD_some, hmod]
    exact hconv
  · rw [hres, nextTime]
    exact (Nat.add_le_add_left (hconv.trans hwait) _).trans (Nat.le_add_right _ _)

/-- **A probe.** If a conversion takes no longer than the library says, no sleep is cut short, every
error in a scratchpad is one that its checksum notices, and a thermometer without a supply is found
to be one, then `dsth_probe` either returns a failure, and a request of its own was not answered as
it was sent; or it returns the temperature that the thermometer has measured in this call, to less
than a thousandth of a degree, and nothing else of the thermometer is changed. -/
theorem dsthProbe_measures (cfg : Config) (w : Site) (s : SiteSt)
    (hconv : w.convTime (s.dev.res w) ≤ 1000 * (ThermM.dsthGetConvTime (s.dev.res w)).toNat)
    (hnap : ∀ k usec, usec ≤ w.nap k usec)
    (hnoise : ∀ k err, w.fate k = .answered err → Noticed err)
    (hpow : s.dev.parasitic = true → cfg.writePullup = true ∧
      ∀ err, w.fate s.reqs = .answered err → err 0 &&& 1 = 0) :
    let r := (io cfg w).dsthProbe cfg w.therm s
    (∃ e k, r.1 = .exit e ∧ s.reqs ≤ k ∧ k < r.2.reqs ∧ ¬ (w.fate k).Clean) ∨
      ∃ temp t, r.1 = .val (some temp) ∧ s.now ≤ t ∧ t ≤ r.2.now ∧
        r.2.dev = s.dev.measured w t ∧
        |(temp : ℚ) - 1000 * r.2.dev.scpd.exactTemp w.therm| < 1 := by
  intro r
  have hprobe : Ensures ((io cfg w).dsthProbe cfg w.therm) s _ _ := ensures_probe hnoise
  obtain ⟨temp, hval, s₁, isParas, hkept, hcfg, hpar, hs', htemp⟩ |
    ⟨e, hexit, k, hk, hlt, hclean⟩ | ⟨-, hmore⟩ := hprobe.outcome
  · have hdev : r.2.dev = s.dev.measured w (nextTime w s₁) := by
      rw [hs']
      exact dev_asked_converted hkept (fun hdpar => hpar hdpar (hpow hdpar).1 (hpow hdpar).2)
        hconv hnap
    rw [dsthGetTempScratchpad_eq] at htemp
    refine Or.inr ⟨_, nextTime w s₁, htemp ▸ hval, hkept.now_le.trans (Nat.le_add_right _ _), ?_,
      hdev, abs_intTemp_sub_lt _ _⟩
    rw [hs']
    exact (Nat.le_add_right _ _).trans (Nat.le_add_right _ _)
  · exact Or.inl ⟨e, k, hexit, hk, hlt, hclean⟩
  · exact hmore.elim

/-- A thermometer on the bus of a probe that is not disturbed: it measures 25.0625 degrees. -/
def quietSite (convTime : DsthRes → ℕ) : Site where
  therm := 0x28
  sense := fun _ => ⟨0x91, 0x01, 0x0c⟩
  convTime := convTime
  brownOut := ⟨0x50, 0x05, 0x0c⟩
  weakCopy := ⟨0, 0, 0⟩
  fate := fun _ => .answered fun _ => 0
  delay := fun _ => 0
  nap := fun _ usec => usec

/-- The thermometer was just powered. -/
def powerOnSt : SiteSt := ⟨w1Init, ⟨powerOnScratchpad, ⟨0x4b, 0x46, 0x7f⟩, false, none⟩, 0, 0⟩

/-- What it has measured. -/
theorem exactTemp_powerOn {therm : UInt64} (hfam : dsthGetFamily therm ≠ ds18s20) :
    (powerOnScratchpad.measure ⟨0x91, 0x01, 0x0c⟩).exactTemp therm = 401 / 16 := by
  have hcleared : (powerOnScratchpad.measure ⟨0x91, 0x01, 0x0c⟩).cleared = 401 := by decide
  rw [DsthScratchpad.exactTemp, if_pos hfam, hcleared]
  rfl

theorem dsthProbe_measures_quiet :
    ∃ temp, ((io ⟨false, .lp64⟩ (quietSite fun _ => 750000)).dsthProbe ⟨false, .lp64⟩ 0x28
      powerOnSt).1 = .val (some temp) ∧ |(temp : ℚ) - 25062.5| < 1 := by
  obtain ⟨e, k, -, -, -, hclean⟩ | ⟨temp, t, hval, -, -, hdev, htemp⟩ :=
    dsthProbe_measures ⟨false, .lp64⟩ (quietSite fun _ => 750000) powerOnSt (by decide)
      (fun _ _ => le_rfl) (fun k err h => Or.inl fun i _ => by rw [← Fate.answered.inj h])
      fun h => absurd h (by decide)
  · exact absurd ⟨_, rfl, fun _ _ => rfl⟩ hclean
  · have hexact : (powerOnSt.dev.measured (quietSite fun _ => 750000) t).scpd.exactTemp 0x28 =
        401 / 16 := exactTemp_powerOn (by decide)
    refine ⟨temp, hval, ?_⟩
    rw [hdev] at htemp
    rw [show (quietSite fun _ => 750000).therm = 0x28 from rfl, hexact] at htemp
    norm_num at htemp ⊢
    exact htemp

/-- A thermometer that is slower than it is waited for: what is returned is what it had measured
before, and there is no failure. -/
theorem dsthProbe_stale (hcfg : cfg.writePullup = false) (hpar : s.dev.parasitic = false)
    (hidle : s.dev.conv = none)
    (hslow : ∀ k, w.nap k (1000 * (ThermM.dsthGetConvTime (s.dev.res w)).toNat) + w.delay k <
      w.convTime (s.dev.res w))
    (hclean : ∀ k, (w.fate k).Clean) :
    ((io cfg w).dsthProbe cfg w.therm s).1 =
      .val (dsthGetTempScratchpad w.therm s.dev.scpd.toDsthScratchpad) := by
  have hnoise : ∀ k err, w.fate k = .answered err → Noticed err := by
    intro k err herr
    obtain ⟨err', herr', hzero⟩ := hclean k
    rw [Fate.answered.inj (herr.symm.trans herr')]
    exact Or.inl hzero
  have hprobe : Ensures ((io cfg w).dsthProbe cfg w.therm) s _ _ := ensures_probe hnoise
  obtain ⟨temp, hval, s₁, isParas, hkept, hparas, -, hs', htemp⟩ | ⟨e, -, k, -, -, hne⟩ |
    ⟨-, hmore⟩ := hprobe.outcome
  · have hfalse : isParas = false := Bool.eq_false_iff.mpr fun h => by
      rw [hparas h] at hcfg
      cases hcfg
    have hdev : nextDev w s₁ = s.dev := by
      rw [nextDev, hkept.idle hidle, Thermometer.settle_of_none hidle]
    rw [hval, htemp, hs', hfalse, asked, nextDev, converted, hdev,
      Thermometer.scpd_settle_convert hpar]
    rw [nextTime, probeWait, if_neg Bool.false_ne_true, toNat_convTime_mul, Nat.add_assoc]
    exact Nat.add_lt_add_left (hslow (s₁.reqs + 1)) _
  · exact absurd (hclean k) hne
  · exact hmore.elim

end SiteM

end Librasp
