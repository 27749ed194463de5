import Librasp.Devices.ThermNet

/-!
# `dsth_list2.c`: all thermometers at once

One command has all thermometers of a bus convert; after the time that the slowest of them may
take they are searched for, and read one by one. What is printed is the temperature of each of
them at the time of the one command, or `???` for a thermometer that could not be read
(`dsthList2_measures`).

* `dsthList2` is the loop of the program for one master: the command to all, a sleep of 750
  milliseconds, the search, and a line for each slave whose family has a name (`named`).
* A pass is given up only if the command to all or the search is not answered (`givenUp`). A
  thermometer that cannot be read does not keep the others from being read (`attempt`).
* `Converted` is the invariant of the reading: before each request the thermometers that are still
  to be read have come to the end of the conversion that the command began.

**Main result.** `dsthList2_measures`, for any bus with thermometers of their own supply;
`mixedNet` is one with two thermometers, a slave that is none, and a lost reply.
-/

namespace Librasp

/-! ### The listing -/

/-- `dsth_name`; `none` if the family is not supported. -/
def dsthName (id : UInt64) : Option String :=
  if dsthGetFamily id = ds18s20 then some "DS18S20"
  else if dsthGetFamily id = 0x22 then some "DS1822"
  else if dsthGetFamily id = 0x28 then some "DS18B20"
  else if dsthGetFamily id = 0x3b then some "DS1825"
  else if dsthGetFamily id = 0x42 then some "DS28EA00"
  else none

/-- `dsth_is_supported`. -/
def dsthIsSupported (id : UInt64) : Bool := (dsthName id).isSome

/-- The thermometers among slaves, with their names. -/
def named (ids : List UInt64) : List (String × UInt64) :=
  ids.filterMap fun id => (dsthName id).map fun name => (name, id)

/-- What is printed for a thermometer; `???` if there is no temperature. -/
structure ThermLine where
  name : String
  therm : UInt64
  temp : Option ℤ
  deriving DecidableEq, Repr

/-- `slavs_buf`, for `MAX_SLAVES` ids. -/
def slavsBuf : IdList := ⟨16, 128⟩

namespace NetM

open Prog

variable (cfg : Config) (w : ThermNet)

/-- `dsth_convert_t_all`. -/
def dsthConvertTAll : NetM (List UInt8) := execCmdAll cfg w [convertT]

/-- The temperature in the scratchpad of a thermometer. -/
def readTemp (therm : UInt64) : NetM (Option ℤ) :=
  single therm do
    let scpd ← (SiteM.io cfg (w.site therm)).dsthReadScratchpad
    pure (dsthGetTempScratchpad therm scpd)

/-- The line of a thermometer. -/
def readLine (x : String × UInt64) : NetM ThermLine := do
  let temp ← attempt (readTemp cfg w x.2)
  pure ⟨x.1, x.2, temp.join⟩

/-- The loop of `dsth_list2.c` for a master. -/
def dsthList2 : NetM (List ThermLine) := do
  let _ ← dsthConvertTAll cfg w
  usleep w (ThermM.dsthGetConvTime .bit12 * 1000)
  let ids ← searchW1Slaves cfg w slavsBuf
  forEach (readLine cfg w) (named ids)

end NetM

theorem allocated_slavsBuf (w : WordSize) : slavsBuf.Allocated w 8 where
  pos := by decide
  fits := (show 16 + 8 * 128 ≤ 2 ^ 32 by decide).trans w.two_pow_bits_ge

/-! ### The pass -/

/-- The thermometers on a bus. -/
def ThermNet.therms (w : ThermNet) : Set UInt64 := {id | id ∈ w.slaves ∧ dsthIsSupported id = true}

/-- What is named is a thermometer on the bus. -/
theorem ThermNet.mem_therms_of_named {w : ThermNet} {n : ℕ} {x : String × UInt64}
    (h : x ∈ named (w.slaves.take n)) : x.2 ∈ w.therms := by
  obtain ⟨id, hid, hname⟩ := List.mem_filterMap.mp h
  obtain ⟨name, hsome, rfl⟩ := Option.map_eq_some_iff.mp hname
  exact ⟨List.mem_of_mem_take hid, Option.isSome_iff_exists.mpr ⟨name, hsome⟩⟩

/-- What is printed for a thermometer by a request: the temperature at a time, to less than a
thousandth of a degree, if the scratchpad arrived as it was sent; and `???` otherwise. -/
structure ThermNet.Told (w : ThermNet) (devs : UInt64 → Thermometer) (t : ℕ)
    (x : (String × UInt64) × ℕ) (line : ThermLine) : Prop where
  name : line.name = x.1.1
  therm : line.therm = x.1.2
  lost : ¬ (w.fate x.2).Clean → line.temp = none
  temp : (w.fate x.2).Clean → ∃ temp, line.temp = some temp ∧
    |(temp : ℚ) - 1000 * ((devs x.1.2).measured (w.site x.1.2) t).scpd.exactTemp x.1.2| < 1

namespace NetM

open Prog

variable {cfg : Config} {w : ThermNet} {s : NetSt}

/-- What holds while the thermometers are read, before the request with a number: their conversion
has come to its end. -/
structure Converted (w : ThermNet) (ids : Set UInt64) (devs : UInt64 → Thermometer) (t n : ℕ)
    (s : NetSt) : Prop where
  reqs : s.reqs = n
  now : t ≤ s.now
  devs : ∀ id ∈ ids, ∀ now ≥ s.now, (s.devs id).settle now = (devs id).measured (w.site id) t

/-- The state after a read. -/
theorem Converted.put {ids : Set UInt64} {devs : UInt64 → Thermometer} {t n : ℕ}
    (h : Converted w ids devs t n s) {therm : UInt64} (hmem : therm ∈ ids) :
    Converted w ids devs t (n + 1) ((slavePart therm).put
      (SiteM.asked (w.site therm) ((slavePart therm).get s)) s) := by
  have hdev : SiteM.nextDev (w.site therm) ((slavePart therm).get s) =
      (devs therm).measured (w.site therm) t := h.devs therm hmem _ (Nat.le_add_right _ _)
  have hle : s.now ≤ SiteM.nextTime (w.site therm) ((slavePart therm).get s) :=
    Nat.le_add_right _ _
  refine ⟨congrArg (· + 1) h.reqs, h.now.trans hle, fun id hid now hnow => ?_⟩
  by_cases heq : id = therm
  · have hself := congrArg SiteSt.dev ((slavePart therm).get_put
      (SiteM.asked (w.site therm) ((slavePart therm).get s)) s)
    rw [heq]
    exact (congrArg (Thermometer.settle now) (hself.trans hdev)).trans
      (Thermometer.settle_of_none rfl)
  · have hother := Function.update_of_ne heq
      (SiteM.asked (w.site therm) ((slavePart therm).get s)).dev s.devs
    exact (congrArg (Thermometer.settle now) hother).trans (h.devs id hid now (hle.trans hnow))

/-- The read of a thermometer whose conversion has come to its end. -/
theorem ensures_readTemp {ids : Set UInt64} {devs : UInt64 → Thermometer} {t n : ℕ}
    (h : Converted w ids devs t n s) {therm : UInt64} (hmem : therm ∈ ids)
    (hnoise : ∀ k err, w.fate k = .answered err → Noticed err) :
    Ensures (readTemp cfg w therm) s (fun temp s' => Converted w ids devs t (n + 1) s' ∧
        (w.fate n).Clean ∧
          temp = some (((devs therm).measured (w.site therm) t).scpd.intTemp therm))
      ⟨fun _ s' => Converted w ids devs t (n + 1) s' ∧ ¬ (w.fate n).Clean, fun _ => False⟩ := by
  have hdev : SiteM.nextDev (w.site therm) ((slavePart therm).get s) =
      (devs therm).measured (w.site therm) t := h.devs therm hmem _ (Nat.le_add_right _ _)
  have hreqs : ((slavePart therm).get s).reqs = n := h.reqs
  have hread : Ensures (do
        let scpd ← (SiteM.io cfg (w.site therm)).dsthReadScratchpad
        pure (dsthGetTempScratchpad therm scpd)) ((slavePart therm).get s)
      (fun temp s' => s' = SiteM.asked (w.site therm) ((slavePart therm).get s) ∧
        (w.fate n).Clean ∧
          temp = some (((devs therm).measured (w.site therm) t).scpd.intTemp therm))
      ⟨fun _ s' => s' = SiteM.asked (w.site therm) ((slavePart therm).get s) ∧
        ¬ (w.fate n).Clean, fun _ => False⟩ := by
    have hscpd : Ensures (SiteM.io cfg (w.site therm)).dsthReadScratchpad
        ((slavePart therm).get s) _ _ := SiteM.ensures_readScratchpad_asked (hnoise _)
    rw [hreqs] at hscpd
    refine ensures_bind hscpd ?_
    rintro scpd s' ⟨rfl, hclean, rfl⟩
    refine ensures_pure ⟨rfl, hclean, ?_⟩
    rw [hdev, dsthGetTempScratchpad_eq]
  refine ((ensures_zoom (slavePart therm) hread).mono ?_).mono_exits ?_ ?_
  · rintro temp s' ⟨site, rfl, rfl, hclean, rfl⟩
    exact ⟨h.put hmem, hclean, rfl⟩
  · rintro e s' ⟨site, rfl, rfl, hclean⟩
    exact ⟨h.put hmem, hclean⟩
  · rintro s' ⟨site, -, hmore⟩
    exact hmore

/-- The line of a thermometer whose conversion has come to its end. -/
theorem ensures_readLine {ids : Set UInt64} {devs : UInt64 → Thermometer} {t n : ℕ}
    (h : Converted w ids devs t n s) {x : String × UInt64} (hmem : x.2 ∈ ids)
    (hnoise : ∀ k err, w.fate k = .answered err → Noticed err) {X : Exits LrErrc NetSt} :
    Ensures (readLine cfg w x) s (fun line s' => w.Told devs t (x, n) line ∧
      Converted w ids devs t (n + 1) s') X := by
  have htemp : Ensures (attempt (readTemp cfg w x.2)) s (fun temp s' =>
      (¬ (w.fate n).Clean ∧ temp = none ∨ (w.fate n).Clean ∧
        temp = some (some (((devs x.2).measured (w.site x.2) t).scpd.intTemp x.2))) ∧
      Converted w ids devs t (n + 1) s') X := by
    refine ensures_attempt (ensures_readTemp h hmem hnoise) ?_ ?_ ?_
    · rintro temp s' ⟨hconv, hclean, rfl⟩
      exact ⟨Or.inr ⟨hclean, rfl⟩, hconv⟩
    · rintro e s' ⟨hconv, hclean⟩
      exact ⟨Or.inl ⟨hclean, rfl⟩, hconv⟩
    · exact fun s' hmore => hmore.elim
  refine ensures_bind htemp ?_
  rintro temp s' ⟨htemp, hconv⟩
  rcases htemp with ⟨hclean, rfl⟩ | ⟨hclean, rfl⟩
  · exact ensures_pure ⟨⟨rfl, rfl, fun _ => rfl, fun h => absurd h hclean⟩, hconv⟩
  · exact ensures_pure
      ⟨⟨rfl, rfl, fun h => absurd hclean h, fun _ => ⟨_, rfl, abs_intTemp_sub_lt _ _⟩⟩, hconv⟩

/-- The lines of thermometers, in the order in which they were found. The induction is on those
that are left; reading one is no business of the others. -/
theorem ensures_readLines {ids : Set UInt64} {devs : UInt64 → Thermometer} {t n : ℕ}
    (h : Converted w ids devs t n s) {l : List (String × UInt64)} (hmem : ∀ x ∈ l, x.2 ∈ ids)
    (hnoise : ∀ k err, w.fate k = .answered err → Noticed err) {X : Exits LrErrc NetSt} :
    Ensures (forEach (readLine cfg w) l) s (fun lines s' =>
      List.Forall₂ (w.Told devs t) (l.zipIdx n) lines ∧
        Converted w ids devs t (n + l.length) s') X :=
  ensures_forEach (fun x hx _ _ h => ensures_readLine h (hmem x hx) hnoise) h

/-- What a pass is given up for: the command to all or the search is not answered. -/
def givenUp (w : ThermNet) (n : ℕ) : Exits LrErrc NetSt where
  exit _ _ := ¬ ((w.fate n).Answered ∧ (w.fate (n + 1)).Answered)
  more _ := False

/-- The state in which the thermometers are searched for. -/
def awaited (w : ThermNet) (s : NetSt) : NetSt where
  hndl := ⟨s.hndl.seq + 1⟩
  devs := fun therm => (nextDevs w s therm).convert (w.site therm) (nextTime w s) none
  now := nextTime w s + w.nap (s.reqs + 1) (ThermM.dsthGetConvTime .bit12 * 1000).toNat
  reqs := s.reqs + 1

/-- All thermometers convert, and are waited for: the command reaches every one of them at the
same time, with the byte behind it that `cmd_buf` had. -/
theorem ensures_convert :
    Ensures (dsthConvertTAll cfg w >>= fun _ =>
        usleep w (ThermM.dsthGetConvTime .bit12 * 1000)) s
      (fun _ s' => s' = awaited w s ∧ (w.fate s.reqs).Answered) (givenUp w s.reqs) := by
  have hreq : dsthConvertTAll cfg w s = _ := execCmdAll_eq (show 1 ≤ 31 by decide)
  have hall : Ensures (dsthConvertTAll cfg w) s _ (givenUp w s.reqs) :=
    (ensures_result hreq).mono_exits (fun _ _ h hboth => h.2 hboth.1) fun _ h => h
  refine ensures_bind hall ?_
  rintro - s' ⟨rfl, err, herr, -⟩
  refine ensures_modify ⟨?_, err, herr⟩
  rw [herr]
  rfl

/-- After the search a conversion of 750 milliseconds has come to its end. -/
theorem converted_awaited {ids : Set UInt64}
    (hsupply : ∀ id ∈ ids, (s.devs id).parasitic = false)
    (hconv : ∀ id ∈ ids, w.convTime id ((s.devs id).res (w.site id)) ≤ 750000)
    (hnap : ∀ k usec, usec ≤ w.nap k usec) (hndl : W1Hndl) :
    Converted w ids s.devs (nextTime w s) (s.reqs + 2)
      { awaited w s with
        hndl := hndl, now := nextTime w (awaited w s), reqs := (awaited w s).reqs + 1 } := by
  have hwait : nextTime w s + 750000 ≤ nextTime w (awaited w s) :=
    (Nat.add_le_add_left (hnap _ _) _).trans (Nat.le_add_right _ _)
  refine ⟨rfl, (Nat.le_add_right _ _).trans hwait, fun id hid now hnow => ?_⟩
  have hres : (nextDevs w s id).res (w.site id) = (s.devs id).res (w.site id) :=
    Thermometer.res_settle
  have hle : w.convTime id ((s.devs id).res (w.site id)) ≤ 750000 := hconv id hid
  refine (Thermometer.settle_convert (w := w.site id) ?_ ?_).trans Thermometer.measured_settle
  · intro hpar
    have hfalse : (nextDevs w s id).parasitic = false :=
      Thermometer.settle_parasitic.trans (hsupply id hid)
    rw [hfalse] at hpar
    cases hpar
  · rw [hres]
    exact (Nat.add_le_add_left hle _).trans (hwait.trans hnow)

/-- **A pass.** Let the thermometers on a bus have a supply of their own and convert in no more than
750 milliseconds, no sleep be cut short, and every error in a scratchpad be one that its checksum
notices. If the command to all and the search are answered, there is one time in the pass such that
what is printed are the thermometers among the first 128 slaves, in the order of the search and by
their names, each with its temperature at that time, or with `???` if its scratchpad did not arrive
as it was sent. Otherwise the pass is given up. -/
theorem dsthList2_measures (cfg : Config) (w : ThermNet) (s : NetSt)
    (hsupply : ∀ id ∈ w.therms, (s.devs id).parasitic = false)
    (hconv : ∀ id ∈ w.therms, w.convTime id ((s.devs id).res (w.site id)) ≤ 750000)
    (hnap : ∀ k usec, usec ≤ w.nap k usec)
    (hnoise : ∀ k err, w.fate k = .answered err → Noticed err) :
    let r := dsthList2 cfg w s
    let answered := (w.fate s.reqs).Answered ∧ (w.fate (s.reqs + 1)).Answered
    (answered → ∃ lines t, r.1 = .val lines ∧ s.now ≤ t ∧ t ≤ r.2.now ∧
      List.Forall₂ (w.Told s.devs t) ((named (w.slaves.take 128)).zipIdx (s.reqs + 2)) lines) ∧
    (¬ answered → ∃ e, r.1 = .exit e) := by
  intro r answered
  have hpass : Ensures (dsthList2 cfg w) s (fun lines s' => answered ∧ nextTime w s ≤ s'.now ∧
      List.Forall₂ (w.Told s.devs (nextTime w s))
        ((named (w.slaves.take 128)).zipIdx (s.reqs + 2)) lines) (givenUp w s.reqs) := by
    have hseq : dsthList2 cfg w = (dsthConvertTAll cfg w >>= fun _ =>
        usleep w (ThermM.dsthGetConvTime .bit12 * 1000)) >>= fun _ =>
          searchW1Slaves cfg w slavsBuf >>= fun ids => forEach (readLine cfg w) (named ids) :=
      (Prog.bind_assoc _ _ _).symm
    rw [hseq]
    refine ensures_bind ensures_convert ?_
    rintro - s₁ ⟨rfl, hall⟩
    have hsearch : searchW1Slaves cfg w slavsBuf (awaited w s) = _ :=
      searchW1Slaves_eq (allocated_slavsBuf _)
    have hfound : Ensures (searchW1Slaves cfg w slavsBuf) (awaited w s) _ (givenUp w s.reqs) :=
      (ensures_result hsearch).mono_exits (fun _ _ h hboth => h.2 hboth.2) fun _ h => h
    refine ensures_bind hfound ?_
    rintro ids s₂ ⟨rfl, err, hsome, rfl⟩
    have hstart := converted_awaited hsupply hconv hnap ⟨(awaited w s).hndl.seq + 1⟩
    refine (ensures_readLines hstart (fun x hx => ThermNet.mem_therms_of_named hx) hnoise).mono ?_
    rintro lines s' ⟨hlines, hend⟩
    exact ⟨⟨hall, err, hsome⟩, hend.now, hlines⟩
  obtain ⟨lines, hval, hboth, hnow, hlines⟩ | ⟨e, hexit, hfail⟩ | ⟨-, hmore⟩ := hpass.outcome
  · exact ⟨fun _ => ⟨lines, _, hval, Nat.le_add_right _ _, hnow, hlines⟩, fun h => absurd hboth h⟩
  · exact ⟨fun h => absurd h hfail, fun _ => ⟨e, hexit⟩⟩
  · exact hmore.elim

/-- A bus with a DS18B20, a slave that is no thermometer, and a DS18S20, of which the reply to the
request for its scratchpad is lost. -/
def mixedNet : ThermNet where
  master := 1
  found := [⟨[0x128, 0x101, 0x210], by decide⟩]
  sense := fun _ _ => ⟨0x91, 0x01, 0x0c⟩
  convTime := fun _ _ => 750000
  brownOut := fun _ => ⟨0x50, 0x05, 0x0c⟩
  weakCopy := fun _ => ⟨0, 0, 0⟩
  fate := fun k => if k = 3 then .lost true else .answered fun _ => 0
  delay := fun _ => 0
  nap := fun _ usec => usec
  stale := 0
  found_ne := List.cons_ne_nil _ _
  length_found := by decide

/-- Its thermometers were just powered. -/
def mixedSt : NetSt := ⟨w1Init, fun _ => SiteM.powerOnSt.dev, 0, 0⟩

theorem dsthList2_measures_mixed :
    ∃ temp, (dsthList2 ⟨false, .lp64⟩ mixedNet mixedSt).1 =
      .val [⟨"DS18B20", 0x128, some temp⟩, ⟨"DS18S20", 0x210, none⟩] ∧
        |(temp : ℚ) - 25062.5| < 1 := by
  have hnoise : ∀ k err, mixedNet.fate k = .answered err → Noticed err := by
    intro k err herr
    refine Or.inl fun i _ => ?_
    by_cases hk : k = 3
    · rw [show mixedNet.fate k = .lost true from if_pos hk] at herr
      cases herr
    · rw [show mixedNet.fate k = .answered fun _ => 0 from if_neg hk] at herr
      rw [← Fate.answered.inj herr]
  obtain ⟨lines, t, hval, -, -, hlines⟩ :=
    (dsthList2_measures ⟨false, .lp64⟩ mixedNet mixedSt (fun _ _ => rfl) (fun _ _ => le_rfl)
      (fun _ _ => le_rfl) hnoise).1 ⟨⟨_, rfl⟩, ⟨_, rfl⟩⟩
  have hnamed : (named (mixedNet.slaves.take 128)).zipIdx (mixedSt.reqs + 2) =
      [(("DS18B20", 0x128), 2), (("DS18S20", 0x210), 3)] := rfl
  rw [hnamed] at hlines
  obtain _ | @⟨_, ⟨_, _, _⟩, _, _, ⟨rfl, rfl, -, htemp⟩,
    _ | @⟨_, ⟨_, _, _⟩, _, _, ⟨rfl, rfl, hlost, -⟩, _ | _⟩⟩ := hlines
  obtain ⟨temp, rfl, habs⟩ := htemp ⟨_, rfl, fun _ _ => rfl⟩
  obtain rfl := hlost (by rintro ⟨err, ⟨⟩, -⟩)
  refine ⟨temp, hval, ?_⟩
  have hexact : ((mixedSt.devs 0x128).measured (mixedNet.site 0x128) t).scpd.exactTemp 0x128 =
      401 / 16 := SiteM.exactTemp_powerOn (by decide)
  dsimp only at habs
  rw [hexact] at habs
  norm_num at habs ⊢
  exact habs

end NetM

end Librasp
