import Librasp.Foundation.Attempts
import Librasp.Devices.ThermProbe

/-!
# `ds_therm.c`: histories of a thermometer

A thermometer under any sequence of the functions for it. Requests and replies may be lost, and
what it sends may be disturbed. So a function that fails may or may not have had its effect. But
it has it as a whole, and those that succeed have it and return the right value: what is returned
is explained by a thermometer on which the functions are carried out one after the other.

* The state of the abstract thermometer are its settings, in the scratchpad and in the EEPROM
  (`ThermRegs`). Of the other bytes of a scratchpad, two are what they were in the beginning, and
  three are a reading, which a conversion has set (`Site.Holds`).
* A scratchpad is returned as it was, or not at all, since a disturbance is noticed by its
  checksum. So are the resolution and the temperature, which are computed from one.
* The bit that tells of the power supply has no checksum. It is right if the reply to its request
  is not disturbed.

**Main result.** `site_history`, for any thermometer and any sequence of calls. It is the rule of
`Attempts` with the invariant `SeenAs`: what the thermometer has become, as far as its settings do
not tell. `ensures_siteOp` is the step, by a lemma for each function.
-/

namespace Librasp

/-! ### The abstract thermometer -/

/-- The settings in the scratchpad and in the EEPROM. -/
structure ThermRegs where
  scpd : Settings
  eeprom : Settings
  deriving DecidableEq, Repr

/-- A call of a function for a thermometer. -/
inductive SiteOp
  | readPowSupply
  | convertT
  | convertTWithPullup (pullup : UInt32)
  | readScratchpad
  | writeScratchpad (th tl cfgReg : UInt8)
  | copyScratchpad
  | copyScratchpadWithPullup (pullup : UInt32)
  | recallEeprom (status : Bool)
  | getRes
  | setRes (res : DsthRes)
  | probe

/-- What a call returns. -/
inductive SiteVal
  | done
  | isParas (isParas : Bool)
  | scratchpad (scpd : DsthScratchpad)
  | status (bs : List UInt8)
  | res (res : DsthRes)
  | temp (temp : Option ℤ)

/-- The registers that a conversion has set. -/
def ValidScratchpad.reading (f : ValidScratchpad) : Reading := ⟨f.tempLsb, f.tempHsb, f.cntRem⟩

namespace Site

variable (w : Site) (d₀ : Thermometer)

/-- A reading that a thermometer may show: it had it in the beginning, or a conversion has set it,
which may have been short of power. -/
def Measured (rd : Reading) : Prop :=
  rd = d₀.scpd.reading ∨ (∃ t, d₀.conv = some (t, rd)) ∨ rd = w.brownOut ∨ ∃ t, rd = w.sense t

/-- The scratchpad of a thermometer with some settings. -/
structure Holds (sc : Settings) (f : ValidScratchpad) : Prop where
  settings : f.settings = sc
  reserved : f.reserved = d₀.scpd.reserved
  cntPerC : f.cntPerC = d₀.scpd.cntPerC
  reading : w.Measured d₀ f.reading

end Site

section Abstract

variable (w : Site) (parasitic : Bool)

/-- The settings after they were written: DS18S20 has no configuration register. -/
def Settings.write (r : Settings) (th tl cfgReg : UInt8) : Settings :=
  if dsthGetFamily w.therm ≠ ds18s20 then ⟨th, tl, cfgReg⟩ else ⟨th, tl, r.cfgReg⟩

/-- The settings after they were copied, with a strong pull-up of some milliseconds. -/
def ThermRegs.copy (r : ThermRegs) (ms : ℕ) : ThermRegs :=
  { r with eeprom := if parasitic = true ∧ ms < 10 then w.weakCopy else r.scpd }

namespace SiteOp

/-- What a call is to do to the settings. -/
def effect : SiteOp → ThermRegs → ThermRegs
  | writeScratchpad th tl cfgReg, r => { r with scpd := r.scpd.write w th tl cfgReg }
  | copyScratchpad, r => r.copy w parasitic 0
  | copyScratchpadWithPullup pullup, r => r.copy w parasitic (pullup.toNat % 2 ^ 16)
  | recallEeprom _, r => { r with scpd := r.eeprom }
  | setRes res, r =>
    if dsthGetFamily w.therm ≠ ds18s20 then
      { r with scpd := { r.scpd with cfgReg := withRes r.scpd.cfgReg res } }
    else r
  | _, r => r

/-- What a call is to return, whose first request has this number; `d₀` is the thermometer in the
beginning. -/
def returns (d₀ : Thermometer) : SiteOp → ThermRegs → SiteVal × ℕ → Prop
  | readPowSupply, _, (v, k) =>
    ∃ isParas, v = .isParas isParas ∧ ((w.fate k).Clean → isParas = d₀.parasitic)
  | readScratchpad, r, (v, _) => ∃ f, w.Holds d₀ r.scpd f ∧ v = .scratchpad f.toDsthScratchpad
  | recallEeprom status, _, (v, _) => v = .status (List.replicate (if status then 1 else 0) 0xff)
  | getRes, r, (v, _) => v = .res
    (if dsthGetFamily w.therm ≠ ds18s20 then .ofUInt8 (cfgRes r.scpd.cfgReg) else .bit12)
  | setRes res, _, (v, _) =>
    v = .done ∧ (dsthGetFamily w.therm = ds18s20 → res = .bit12)
  | probe, r, (v, _) => ∃ f, w.Holds d₀ r.scpd f ∧
    v = .temp (dsthGetTempScratchpad w.therm f.toDsthScratchpad)
  | _, _, (v, _) => v = .done

end SiteOp

end Abstract

/-! ### The calls -/

section Calls

variable (cfg : Config) (w : Site)

namespace SiteOp

/-- The function that is called. -/
def prog : SiteOp → SiteM SiteVal
  | readPowSupply => do
    let isParas ← (SiteM.io cfg w).dsthReadPowSupply
    pure (.isParas isParas)
  | convertT => do
    let _ ← (SiteM.io cfg w).dsthConvertT 0
    pure .done
  | convertTWithPullup pullup => do
    let _ ← (SiteM.io cfg w).dsthConvertTWithPullup cfg pullup
    pure .done
  | readScratchpad => do
    let scpd ← (SiteM.io cfg w).dsthReadScratchpad
    pure (.scratchpad scpd)
  | writeScratchpad th tl cfgReg => do
    let _ ← (SiteM.io cfg w).dsthWriteScratchpad w.therm th tl cfgReg
    pure .done
  | copyScratchpad => do
    let _ ← (SiteM.io cfg w).dsthCopyScratchpad
    pure .done
  | copyScratchpadWithPullup pullup => do
    let _ ← (SiteM.io cfg w).dsthCopyScratchpadWithPullup cfg pullup
    pure .done
  | recallEeprom status => do
    let bs ← (SiteM.io cfg w).dsthRecallEeprom status
    pure (.status bs)
  | getRes => do
    let res ← (SiteM.io cfg w).dsthGetRes w.therm
    pure (.res res)
  | setRes res => do
    (SiteM.io cfg w).dsthSetRes w.therm res
    pure .done
  | probe => do
    let temp ← (SiteM.io cfg w).dsthProbe cfg w.therm
    pure (.temp temp)

end SiteOp

/-- What a program returned, if it succeeded. -/
def Outcome.value {ε α : Type} : Outcome ε α → Option α
  | .val a => some a
  | _ => none

/-- A call, with what it returned, and the number of its first request. -/
def siteExec (s : SiteSt) (op : SiteOp) : Option (SiteVal × ℕ) × SiteSt :=
  ((op.prog cfg w s).1.value.map fun v => (v, s.reqs), (op.prog cfg w s).2)

end Calls

/-! ### The device -/

namespace Thermometer

/-- The settings of a thermometer. -/
def regs (d : Thermometer) : ThermRegs := ⟨d.scpd.settings, d.eeprom⟩

/-- What a thermometer has become that was `d₀` in the beginning, with these settings. -/
structure SeenAs (d : Thermometer) (w : Site) (d₀ : Thermometer) (r : ThermRegs) : Prop where
  scpd : w.Holds d₀ r.scpd d.scpd
  eeprom : d.eeprom = r.eeprom
  parasitic : d.parasitic = d₀.parasitic
  conv : ∀ t rd, d.conv = some (t, rd) → w.Measured d₀ rd

variable {w : Site} {d d₀ : Thermometer} {r : ThermRegs} {now : ℕ}

theorem seenAs_self (w : Site) (d : Thermometer) : d.SeenAs w d d.regs :=
  ⟨⟨rfl, rfl, rfl, Or.inl rfl⟩, rfl, rfl, fun t _ h => Or.inr (Or.inl ⟨t, h⟩)⟩

theorem SeenAs.regs_eq (h : d.SeenAs w d₀ r) : d.regs = r := by
  rw [regs, h.scpd.settings, h.eeprom]

/-- A conversion sets its reading. -/
theorem SeenAs.measure (h : d.SeenAs w d₀ r) {rd : Reading} (hrd : w.Measured d₀ rd) :
    SeenAs { d with scpd := d.scpd.measure rd, conv := none } w d₀ r :=
  ⟨⟨h.scpd.settings, h.scpd.reserved, h.scpd.cntPerC, hrd⟩, h.eeprom, h.parasitic,
    fun _ _ hconv => absurd hconv.symm (Option.some_ne_none _)⟩

theorem SeenAs.settle (h : d.SeenAs w d₀ r) : (d.settle now).SeenAs w d₀ r := by
  rw [Thermometer.settle]
  rcases hconv : d.conv with _ | ⟨t, rd⟩
  · exact h
  · dsimp only
    split_ifs
    · exact h.measure (h.conv t rd hconv)
    · exact h

theorem SeenAs.convert (h : d.SeenAs w d₀ r) (pullup : Option ℕ) :
    (d.convert w now pullup).SeenAs w d₀ r := by
  have hsense : w.Measured d₀ (w.sense now) := Or.inr (Or.inr (Or.inr ⟨now, rfl⟩))
  rw [Thermometer.convert]
  by_cases hpar : d.parasitic = true
  · rw [if_pos hpar]
    refine h.measure ?_
    split_ifs
    · exact hsense
    · exact Or.inr (Or.inr (Or.inl rfl))
  · rw [if_neg hpar]
    refine ⟨h.scpd, h.eeprom, h.parasitic, fun t rd hconv => ?_⟩
    obtain ⟨-, rfl⟩ := Prod.mk.inj (Option.some.inj hconv)
    exact hsense

theorem SeenAs.copyRegs (h : d.SeenAs w d₀ r) (pullup : Option ℕ) :
    (d.copyRegs w pullup).SeenAs w d₀ (r.copy w d₀.parasitic (pullup.getD 0)) := by
  refine ⟨h.scpd, ?_, h.parasitic, h.conv⟩
  rw [Thermometer.copyRegs, ThermRegs.copy, h.scpd.settings, h.parasitic]

/-- The registers are written. -/
theorem SeenAs.write (h : d.SeenAs w d₀ r) (sc : Settings) :
    SeenAs { d with scpd := d.scpd.write sc.th sc.tl sc.cfgReg } w d₀ { r with scpd := sc } :=
  ⟨⟨rfl, h.scpd.reserved, h.scpd.cntPerC, h.scpd.reading⟩, h.eeprom, h.parasitic, h.conv⟩

theorem SeenAs.recallRegs (h : d.SeenAs w d₀ r) :
    d.recallRegs.SeenAs w d₀ { r with scpd := r.eeprom } := by
  have hsc : (⟨r.eeprom, r.eeprom⟩ : ThermRegs) = ⟨d.eeprom, r.eeprom⟩ := by rw [h.eeprom]
  rw [hsc]
  exact h.write d.eeprom

/-- A command that a thermometer sends nothing for leaves the line to the master. -/
theorem line_silent {c : UInt8} (hc : d.answer c = []) (err : ℕ → UInt8) (bs : List UInt8) :
    d.line err (c :: bs) = c :: bs := by
  have hones : ∀ b : UInt8, b &&& 0xff = b := fun b => UInt8.and_neg_one
  refine congrArg (c :: ·) (List.ext_getElem (by simp) fun i h₁ h₂ => ?_)
  simp [heard, hc, hones]

end Thermometer

/-! ### The requests -/

namespace SiteM

open Prog Thermometer

variable {cfg : Config} {w : Site} {s : SiteSt} {d₀ : Thermometer} {r r' : ThermRegs}

/-- A call that fails has had its effect or not. -/
def failsAs (w : Site) (d₀ : Thermometer) (r r' : ThermRegs) : Exits LrErrc SiteSt where
  exit _ s' := s'.dev.SeenAs w d₀ r ∨ s'.dev.SeenAs w d₀ r'
  more _ := False

/-- A request that has an effect, with what it returns. -/
theorem ensures_effect_out {m : SiteM (List UInt8)} {out : (ℕ → UInt8) → List UInt8} {s' : SiteSt}
    (h : m s = ((w.fate s.reqs).result out, s')) {d' : Thermometer}
    (hdev : s'.dev = if (w.fate s.reqs).reached then d' else nextDev w s)
    (hs : s.dev.SeenAs w d₀ r) (hd' : d'.SeenAs w d₀ r') :
    Ensures m s (fun bs t => t.dev.SeenAs w d₀ r' ∧ ∃ err, bs = out err) (failsAs w d₀ r r') := by
  have hnext : (nextDev w s).SeenAs w d₀ r := hs.settle
  unfold Ensures
  rw [h]
  rcases hfate : w.fate s.reqs with err | reached | _ <;> rw [hfate] at hdev
  · refine ⟨?_, err, rfl⟩
    rw [hdev]
    exact hd'
  · cases reached with
    | true =>
      refine Or.inr ?_
      rw [hdev]
      exact hd'
    | false =>
      refine Or.inl ?_
      rw [hdev]
      exact hnext
  · refine Or.inl ?_
    rw [hdev]
    exact hnext

/-- A request that has an effect. -/
theorem ensures_effect {m : SiteM (List UInt8)} {out : (ℕ → UInt8) → List UInt8} {s' : SiteSt}
    (h : m s = ((w.fate s.reqs).result out, s')) {d' : Thermometer}
    (hdev : s'.dev = if (w.fate s.reqs).reached then d' else nextDev w s)
    (hs : s.dev.SeenAs w d₀ r) (hd' : d'.SeenAs w d₀ r') :
    Ensures m s (fun _ t => t.dev.SeenAs w d₀ r') (failsAs w d₀ r r') :=
  (ensures_effect_out h hdev hs hd').mono fun _ _ h => h.1

/-- A request that has none. -/
theorem ensures_asked {m : SiteM (List UInt8)} {out : (ℕ → UInt8) → List UInt8}
    (h : m s = ((w.fate s.reqs).result out, asked w s)) (hs : s.dev.SeenAs w d₀ r)
    (r' : ThermRegs) :
    Ensures m s (fun _ t => t.dev.SeenAs w d₀ r) (failsAs w d₀ r r') := by
  have hnext : (nextDev w s).SeenAs w d₀ r := hs.settle
  unfold Ensures
  rw [h]
  rcases w.fate s.reqs with err | reached | _
  · exact hnext
  · exact Or.inl hnext
  · exact Or.inl hnext

/-- A command for which nothing is sent. -/
theorem execCmd_silentCmd {c : UInt8} (hc : ∀ d : Thermometer, d.answer c = []) (args : List UInt8)
    {outLen : ℕ} (hlen : args.length + outLen ≤ 31) :
    execCmd cfg w (c :: args) outLen s = ((w.fate s.reqs).result
        fun _ => List.replicate outLen 0xff,
      { hndl := ⟨s.hndl.seq + 1⟩
        dev := if (w.fate s.reqs).reached then
            (nextDev w s).obey w (nextTime w s) none (c :: args ++ List.replicate outLen 0xff)
          else nextDev w s
        now := nextTime w s
        reqs := s.reqs + 1 }) :=
  execCmd_eq (List.cons_ne_nil c args)
    (show (c :: args).length + outLen ≤ 32 by rw [List.length_cons]; omega)
    fun err => line_silent (hc _) err _

theorem ensures_writeScratchpad (hs : s.dev.SeenAs w d₀ r) (th tl cfgReg : UInt8) :
    Ensures ((io cfg w).dsthWriteScratchpad w.therm th tl cfgReg) s
      (fun _ t => t.dev.SeenAs w d₀ { r with scpd := r.scpd.write w th tl cfgReg })
      (failsAs w d₀ r { r with scpd := r.scpd.write w th tl cfgReg }) := by
  have hnext : (nextDev w s).SeenAs w d₀ r := hs.settle
  rw [DsthIo.dsthWriteScratchpad, Settings.write]
  by_cases hfam : dsthGetFamily w.therm ≠ ds18s20
  · rw [if_pos hfam, if_pos hfam]
    exact ensures_effect (execCmd_silentCmd (fun _ => rfl) [th, tl, cfgReg]
      (show 3 ≤ 31 by decide)) rfl hs (hnext.write ⟨th, tl, cfgReg⟩)
  · -- the configuration register, which DS18S20 does not have, is not written
    have hcfg : (nextDev w s).scpd.cfgReg = r.scpd.cfgReg :=
      congrArg Settings.cfgReg hnext.scpd.settings
    rw [if_neg hfam, if_neg hfam, ← hcfg]
    exact ensures_effect (execCmd_silentCmd (fun _ => rfl) [th, tl] (show 2 ≤ 31 by decide)) rfl hs
      (hnext.write ⟨th, tl, _⟩)

theorem ensures_copyScratchpad (hs : s.dev.SeenAs w d₀ r) :
    Ensures (io cfg w).dsthCopyScratchpad s
      (fun _ t => t.dev.SeenAs w d₀ (r.copy w d₀.parasitic 0))
      (failsAs w d₀ r (r.copy w d₀.parasitic 0)) :=
  ensures_effect (execCmd_silentCmd (fun _ => rfl) [] (by decide)) rfl hs (hs.settle.copyRegs none)

theorem ensures_recallEeprom (hs : s.dev.SeenAs w d₀ r) (status : Bool) :
    Ensures ((io cfg w).dsthRecallEeprom status) s
      (fun bs t => t.dev.SeenAs w d₀ { r with scpd := r.eeprom } ∧
        bs = List.replicate (if status then 1 else 0) 0xff)
      (failsAs w d₀ r { r with scpd := r.eeprom }) := by
  have hlen : ([] : List UInt8).length + (if status then 1 else 0) ≤ 31 := by
    cases status <;> decide
  have hrecall : Ensures ((io cfg w).dsthRecallEeprom status) s
      (fun bs t => t.dev.SeenAs w d₀ { r with scpd := r.eeprom } ∧
        ∃ err : ℕ → UInt8, bs = (fun _ => List.replicate (if status then 1 else 0) 0xff) err)
      (failsAs w d₀ r { r with scpd := r.eeprom }) :=
    ensures_effect_out (execCmd_silentCmd (fun _ => rfl) [] hlen) rfl hs hs.settle.recallRegs
  exact hrecall.mono fun _ _ h => ⟨h.1, h.2.elim fun _ => id⟩

/-- A call without an effect fails without it, whatever its effect is said to be. -/
theorem ensures_noEffect {m : SiteM (List UInt8)} (r' : ThermRegs)
    (h : Ensures m s (fun _ t => t.dev.SeenAs w d₀ r) (failsAs w d₀ r r)) :
    Ensures m s (fun _ t => t.dev.SeenAs w d₀ r) (failsAs w d₀ r r') :=
  h.mono_exits (fun _ _ hexit => Or.inl (hexit.elim id id)) fun _ hmore => hmore

theorem ensures_convertT (hs : s.dev.SeenAs w d₀ r) (r' : ThermRegs) :
    Ensures ((io cfg w).dsthConvertT 0) s (fun _ t => t.dev.SeenAs w d₀ r)
      (failsAs w d₀ r r') :=
  ensures_noEffect r' (ensures_effect (execCmd_silentCmd (fun _ => rfl) [] (by decide)) rfl hs
    (hs.settle.convert none))

/-- A command with a strong pull-up behind it, if the library can do with one. -/
theorem ensures_pullup (hs : s.dev.SeenAs w d₀ r) {cmd : UInt8} {pullup : UInt32}
    (hobey : ∀ now,
      ((nextDev w s).obey w now (some (pullup.toNat % 2 ^ 16)) [cmd]).SeenAs w d₀ r') :
    Ensures (if cfg.writePullup then execCmdPullup cfg w cmd pullup else Prog.exit .notSupp) s
      (fun _ t => t.dev.SeenAs w d₀ r') (failsAs w d₀ r r') := by
  by_cases hcfg : cfg.writePullup = true
  · rw [if_pos hcfg]
    exact ensures_effect (execCmdPullup_eq hcfg cmd pullup) rfl hs (hobey _)
  · rw [if_neg hcfg]
    exact Or.inl hs

theorem ensures_convertTWithPullup (hs : s.dev.SeenAs w d₀ r) (r' : ThermRegs)
    (pullup : UInt32) :
    Ensures ((io cfg w).dsthConvertTWithPullup cfg pullup) s (fun _ t => t.dev.SeenAs w d₀ r)
      (failsAs w d₀ r r') :=
  ensures_noEffect r' (ensures_pullup hs fun _ => hs.settle.convert _)

theorem ensures_copyScratchpadWithPullup (hs : s.dev.SeenAs w d₀ r) (pullup : UInt32) :
    Ensures ((io cfg w).dsthCopyScratchpadWithPullup cfg pullup) s
      (fun _ t => t.dev.SeenAs w d₀ (r.copy w d₀.parasitic (pullup.toNat % 2 ^ 16)))
      (failsAs w d₀ r (r.copy w d₀.parasitic (pullup.toNat % 2 ^ 16))) :=
  ensures_pullup hs fun _ => hs.settle.copyRegs _

/-- What is read of the power supply is right, if it is read as it was sent. -/
theorem ensures_seen_readPowSupply (hs : s.dev.SeenAs w d₀ r) (r' : ThermRegs) :
    Ensures (io cfg w).dsthReadPowSupply s
      (fun isParas t => ((w.fate s.reqs).Clean → isParas = d₀.parasitic) ∧ t.dev.SeenAs w d₀ r)
      (failsAs w d₀ r r') := by
  have hseen : Ensures (io cfg w).dsthReadPowSupply s (fun _ t => t.dev.SeenAs w d₀ r)
      (failsAs w d₀ r r') :=
    ensures_bind (ensures_asked (execCmd_read (by decide) (by decide)) hs r') fun _ _ h => h
  refine ((ensures_readPowSupply le_rfl).and hseen).mono ?_
  rintro isParas t ⟨⟨-, err, herr, rfl⟩, ht⟩
  refine ⟨?_, ht⟩
  rintro ⟨err', herr', hzero⟩
  obtain rfl : err = err' := Fate.answered.inj (herr.symm.trans herr')
  rw [hzero 0 (by decide), UInt8.xor_zero, hs.parasitic]
  cases d₀.parasitic <;> rfl

/-- What is read of a scratchpad is the one of the thermometer. -/
theorem ensures_seen_readScratchpad (hs : s.dev.SeenAs w d₀ r)
    (hnoise : ∀ k err, w.fate k = .answered err → Noticed err) (r' : ThermRegs) :
    Ensures (io cfg w).dsthReadScratchpad s
      (fun scpd t => (∃ f, w.Holds d₀ r.scpd f ∧ scpd = f.toDsthScratchpad) ∧
        t.dev.SeenAs w d₀ r) (failsAs w d₀ r r') := by
  have hseen : Ensures (io cfg w).dsthReadScratchpad s (fun _ t => t.dev.SeenAs w d₀ r)
      (failsAs w d₀ r r') := by
    refine ensures_bind (ensures_asked (execCmd_read (by decide) (by decide)) hs r')
      fun bs t ht => ?_
    split_ifs
    · exact Or.inl ht
    · exact ht
  refine ((ensures_readScratchpad le_rfl (hnoise _)).and hseen).mono ?_
  rintro scpd t ⟨⟨-, rfl⟩, ht⟩
  exact ⟨⟨_, hs.settle.scpd, rfl⟩, ht⟩

/-- The resolution of some settings. -/
theorem ensures_seen_getRes (hs : s.dev.SeenAs w d₀ r)
    (hnoise : ∀ k err, w.fate k = .answered err → Noticed err) (r' : ThermRegs) :
    Ensures ((io cfg w).dsthGetRes w.therm) s
      (fun res t => res = (if dsthGetFamily w.therm ≠ ds18s20 then
        DsthRes.ofUInt8 (cfgRes r.scpd.cfgReg) else .bit12) ∧ t.dev.SeenAs w d₀ r)
      (failsAs w d₀ r r') := by
  rw [DsthIo.dsthGetRes]
  by_cases hfam : dsthGetFamily w.therm ≠ ds18s20
  · rw [if_pos hfam, if_pos hfam]
    refine ensures_bind (ensures_seen_readScratchpad hs hnoise r') ?_
    rintro scpd t ⟨⟨f, hf, rfl⟩, ht⟩
    exact ensures_pure ⟨by rw [← hf.settings]; rfl, ht⟩
  · rw [if_neg hfam, if_neg hfam]
    exact ensures_pure ⟨rfl, hs⟩

theorem ensures_setRes (hs : s.dev.SeenAs w d₀ r)
    (hnoise : ∀ k err, w.fate k = .answered err → Noticed err) (res : DsthRes) :
    Ensures ((io cfg w).dsthSetRes w.therm res) s
      (fun _ t => (dsthGetFamily w.therm = ds18s20 → res = .bit12) ∧
        t.dev.SeenAs w d₀ ((SiteOp.setRes res).effect w d₀.parasitic r))
      (failsAs w d₀ r ((SiteOp.setRes res).effect w d₀.parasitic r)) := by
  rw [DsthIo.dsthSetRes, SiteOp.effect]
  by_cases hfam : dsthGetFamily w.therm ≠ ds18s20
  · rw [if_pos hfam, if_pos hfam]
    refine ensures_bind (ensures_seen_readScratchpad hs hnoise _) ?_
    rintro scpd t ⟨⟨f, hf, rfl⟩, ht⟩
    have hwrite : Ensures ((io cfg w).dsthWriteScratchpad w.therm f.th f.tl
        (withRes f.cfgReg res)) t _ _ := ensures_writeScratchpad ht _ _ _
    have hset : r.scpd.write w f.th f.tl (withRes f.cfgReg res) =
        { r.scpd with cfgReg := withRes r.scpd.cfgReg res } := by
      rw [Settings.write, if_pos hfam, ← hf.settings]
      rfl
    rw [hset] at hwrite
    exact ensures_bind hwrite fun _ _ h => ensures_pure ⟨fun h' => absurd h' hfam, h⟩
  · rw [if_neg hfam, if_neg hfam]
    by_cases hres : res ≠ .bit12
    · rw [if_pos hres]
      exact Or.inl hs
    · rw [if_neg hres]
      exact ensures_pure ⟨fun _ => not_not.mp hres, hs⟩

/-- The temperature is that of the scratchpad of the thermometer. -/
theorem ensures_seen_probe (hs : s.dev.SeenAs w d₀ r)
    (hnoise : ∀ k err, w.fate k = .answered err → Noticed err) (r' : ThermRegs) :
    Ensures ((io cfg w).dsthProbe cfg w.therm) s
      (fun temp t => (∃ f, w.Holds d₀ r.scpd f ∧
        temp = dsthGetTempScratchpad w.therm f.toDsthScratchpad) ∧ t.dev.SeenAs w d₀ r)
      (failsAs w d₀ r r') := by
  have hpower : Ensures ((io cfg w).probePower cfg) s (fun _ t => t.dev.SeenAs w d₀ r)
      (failsAs w d₀ r r') := by
    rw [DsthIo.probePower]
    split_ifs
    · exact (ensures_seen_readPowSupply hs r').mono fun _ _ h => h.2
    · exact hs
  refine ensures_bind hpower fun isParas s₁ hs₁ => ?_
  refine ensures_bind (ensures_seen_getRes hs₁ hnoise r') ?_
  rintro res s₂ ⟨-, hs₂⟩
  have hconvert : Ensures ((io cfg w).probeConvert cfg isParas (ThermM.dsthGetConvTime res)) s₂
      (fun _ t => t.dev.SeenAs w d₀ r) (failsAs w d₀ r r') := by
    cases isParas with
    | true => exact ensures_bind (ensures_convertTWithPullup hs₂ r' _) fun _ _ h => h
    | false => exact ensures_bind (ensures_convertT hs₂ r') fun _ _ h => h
  refine ensures_bind hconvert fun _ s₃ hs₃ => ?_
  refine ensures_bind (ensures_seen_readScratchpad hs₃ hnoise r') ?_
  rintro scpd t ⟨⟨f, hf, rfl⟩, ht⟩
  exact ensures_pure ⟨⟨f, hf, rfl⟩, ht⟩

/-- **One call.** It has its effect if it succeeds, and returns what the thermometer had; if it
fails it has its effect or none. -/
theorem ensures_siteOp (hs : s.dev.SeenAs w d₀ r)
    (hnoise : ∀ k err, w.fate k = .answered err → Noticed err) (op : SiteOp) :
    Ensures (op.prog cfg w) s
      (fun v t => op.returns w d₀ r (v, s.reqs) ∧
        t.dev.SeenAs w d₀ (op.effect w d₀.parasitic r))
      (failsAs w d₀ r (op.effect w d₀.parasitic r)) := by
  rcases op with _ | _ | pullup | _ | ⟨th, tl, cfgReg⟩ | _ | pullup | status | _ | res | _
  · exact ensures_bind (ensures_seen_readPowSupply hs r) fun isParas _ h =>
      ⟨⟨isParas, rfl, h.1⟩, h.2⟩
  · exact ensures_bind (ensures_convertT hs r) fun _ _ h => ⟨rfl, h⟩
  · exact ensures_bind (ensures_convertTWithPullup hs r pullup) fun _ _ h => ⟨rfl, h⟩
  · refine ensures_bind (ensures_seen_readScratchpad hs hnoise r) ?_
    rintro scpd t ⟨⟨f, hf, rfl⟩, ht⟩
    exact ⟨⟨f, hf, rfl⟩, ht⟩
  · exact ensures_bind (ensures_writeScratchpad hs th tl cfgReg) fun _ _ h => ⟨rfl, h⟩
  · exact ensures_bind (ensures_copyScratchpad hs) fun _ _ h => ⟨rfl, h⟩
  · exact ensures_bind (ensures_copyScratchpadWithPullup hs pullup) fun _ _ h => ⟨rfl, h⟩
  · exact ensures_bind (ensures_recallEeprom hs status) fun _ _ h =>
      ⟨congrArg SiteVal.status h.2, h.1⟩
  · exact ensures_bind (ensures_seen_getRes hs hnoise r) fun _ _ h =>
      ⟨congrArg SiteVal.res h.1, h.2⟩
  · exact ensures_bind (ensures_setRes hs hnoise res) fun _ _ h => ⟨⟨rfl, h.1⟩, h.2⟩
  · refine ensures_bind (ensures_seen_probe hs hnoise r) ?_
    rintro temp t ⟨⟨f, hf, rfl⟩, ht⟩
    exact ⟨⟨f, hf, rfl⟩, ht⟩

end SiteM

/-! ### Histories -/

section History

variable {w : Site}

/-- **Histories.** Under any sequence of calls, each of whose requests may be lost or answered with
errors that a checksum notices, what the calls return and what the thermometer is left with are
explained by the calls being carried out one after the other: each that succeeds as a whole, each
that fails as a whole or not at all. What those return that succeed is right (`SiteOp.returns`). -/
theorem site_history (cfg : Config) (hnoise : ∀ k err, w.fate k = .answered err → Noticed err)
    (s : SiteSt) (ops : List SiteOp) :
    Attempts.Explains (SiteOp.effect w s.dev.parasitic) (SiteOp.returns w s.dev) s.dev.regs
      (Attempts.run (siteExec cfg w) s ops).1 (Attempts.run (siteExec cfg w) s ops).2.dev.regs := by
  refine Attempts.explains_run (I := fun t : SiteSt => t.dev.SeenAs w s.dev t.dev.regs)
    (f := fun t : SiteSt => t.dev.regs) (fun t op ht => ?_) (Thermometer.seenAs_self w s.dev) ops
  have hop : Prog.Ensures (op.prog cfg w) t _ _ := SiteM.ensures_siteOp ht hnoise op
  -- what is seen of the thermometer is what it has
  have hseen : ∀ {r : ThermRegs}, (siteExec cfg w t op).2.dev.SeenAs w s.dev r →
      (siteExec cfg w t op).2.dev.SeenAs w s.dev (siteExec cfg w t op).2.dev.regs ∧
        (siteExec cfg w t op).2.dev.regs = r := fun h => ⟨h.regs_eq.symm ▸ h, h.regs_eq⟩
  obtain ⟨v, hval, hret, heff⟩ | ⟨e, hexit, hfail⟩ | ⟨-, hmore⟩ := hop.outcome
  · refine ⟨(hseen heff).1, ?_⟩
    have hv : (siteExec cfg w t op).1 = some (v, t.reqs) := by
      rw [siteExec, hval]
      rfl
    rw [hv]
    exact ⟨hret, (hseen heff).2⟩
  · refine ⟨hfail.elim (fun h => (hseen h).1) fun h => (hseen h).1, ?_⟩
    have hv : (siteExec cfg w t op).1 = none := by
      rw [siteExec, hexit]
      rfl
    rw [hv]
    exact hfail.elim (fun h => Or.inr (hseen h).2) fun h => Or.inl (hseen h).2
  · exact hmore.elim

/-- The second reply is lost, the third request does not reach the bus. -/
def lossySite : Site :=
  { SiteM.quietSite fun _ => 750000 with
    fate := fun k =>
      if k = 1 then .lost true else if k = 2 then .notSent else .answered fun _ => 0 }

/-- A resolution that is set although the call fails, and is then lost again; and what is read of
the power supply and of the scratchpad. -/
theorem site_history_lossy :
    Attempts.Explains (SiteOp.effect lossySite false)
      (SiteOp.returns lossySite SiteM.powerOnSt.dev) SiteM.powerOnSt.dev.regs
      (Attempts.run (siteExec ⟨false, .lp64⟩ lossySite) SiteM.powerOnSt
        [.setRes .bit9, .copyScratchpad, .recallEeprom false, .getRes, .readPowSupply,
          .readScratchpad]).1
      (Attempts.run (siteExec ⟨false, .lp64⟩ lossySite) SiteM.powerOnSt
        [.setRes .bit9, .copyScratchpad, .recallEeprom false, .getRes, .readPowSupply,
          .readScratchpad]).2.dev.regs := by
  refine site_history ⟨false, .lp64⟩ (fun k err herr => Or.inl fun i _ => ?_) SiteM.powerOnSt _
  have hfate : (if k = 1 then Fate.lost true else if k = 2 then .notSent
      else .answered fun _ => 0) = .answered err := herr
  split_ifs at hfate
  rw [← Fate.answered.inj hfate]

end History

end Librasp
