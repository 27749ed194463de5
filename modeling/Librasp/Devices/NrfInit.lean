import Librasp.Devices.NrfSteps

/-!
# The two ends

The transmitter of `nrf_tx.c` is set up by `init_tx`, and the receiver of `nrf_rx.c` by `init_rx`.
Where both say that they are done, the two hear each other, whatever transfers failed meanwhile;
but for the data rate, which `hal_nrf_set_output_power` may have replaced by what a failed read
left (`init_hears`).

* Both programs are set-ups of `NrfSteps`: calls in a row, some in `NRF_EXEC` and some not. The
  first of them are the same at both ends (`initSteps`).
* `Paired` is what is asked of the two transceivers before: their addresses fit, which the
  programs do not set, and the extra features are off, as they are after power-on. The programs
  turn these off by calls whose errors they do not look at, so that a feature which is on may stay
  on.
* `NrfSetUp` is what both ends have in common after the first steps, and `Hears` says that what
  the one sends the other gets and acknowledges, as far as this rests on their registers.

**Main result.** `init_hears`: the two hear each other if and only if they hold the same data
rate, which they do unless one of them holds what a failed read has left.
-/

namespace Librasp

section Model

variable {δ : Type} (b : NrfBus δ)

/-- `init_rx`. -/
def initRx : NrfM δ Bool := do
  halNrfFlushRx b
  halNrfFlushTx b
  halNrfEnableDynamicPayload b false
  halNrfEnableAckPayload b false
  halNrfEnableDynamicAck b false
  nrfExec (halNrfSetRfChannel b 20) <|
    nrfExec (halNrfSetDatarate b .mbps1) <|
    nrfExec (halNrfSetCrcMode b .bit16) <|
    nrfExec (halNrfSetOperationMode b .prx) do
      halNrfClosePipe b .all
      nrfExec (halNrfConfigRxPipe b (.pipe 0) none true (UInt8.ofNat nrfMaxPl)) do
        halNrfSetOutputPower b .dbm0
        return true

/-- The steps that both have first. -/
def initSteps (opMode : HalNrfOperationMode) : List NrfStep :=
  [⟨.dynamicPayload false, false⟩, ⟨.ackPayload false, false⟩, ⟨.dynamicAck false, false⟩,
    ⟨.rfChannel 20, true⟩, ⟨.datarate .mbps1, true⟩, ⟨.crcMode .bit16, true⟩,
    ⟨.operationMode opMode, true⟩]

/-- The steps of `init_tx` after these. -/
def txSteps : List NrfStep :=
  [⟨.outputPower .dbm0, true⟩, ⟨.autoRetr 0 0, true⟩, ⟨.openPipe (.pipe 0) true, true⟩]

/-- The steps of `init_rx` after these. -/
def rxSteps : List NrfStep :=
  [⟨.closePipe .all, false⟩, ⟨.openPipe (.pipe 0) true, true⟩,
    ⟨.rxPayloadWidth (.pipe 0) (UInt8.ofNat nrfMaxPl), true⟩, ⟨.outputPower .dbm0, false⟩]

theorem initTx_eq (s : NrfSt δ) : initTx b s =
    nrfSteps b (initSteps .ptx ++ txSteps) (halNrfFlushTx b (halNrfFlushRx b s).2).2 := by
  have hconfig : nrfExec (halNrfConfigTx b none .dbm0 0 0) (pure true) = nrfSteps b txSteps := by
    rw [halNrfConfigTx, nrfExec_chk, nrfExec_chk]
    rfl
  have hprog : initTx b = (do
      halNrfFlushRx b
      halNrfFlushTx b
      nrfSteps b (initSteps .ptx ++ txSteps)) := by
    rw [initTx, hconfig]
    rfl
  rw [hprog, RegFile.nrfM_bind, RegFile.nrfM_bind]

theorem initRx_eq (s : NrfSt δ) : initRx b s =
    nrfSteps b (initSteps .prx ++ rxSteps) (halNrfFlushTx b (halNrfFlushRx b s).2).2 := by
  have hconfig : ∀ next, nrfExec (halNrfConfigRxPipe b (.pipe 0) none true
      (UInt8.ofNat nrfMaxPl)) next = nrfExec (halNrfOpenPipe b (.pipe 0) true)
        (nrfExec (halNrfSetRxPayloadWidth b (.pipe 0) (UInt8.ofNat nrfMaxPl)) next) :=
    fun next => nrfExec_chk _ _ next
  have hprog : initRx b = (do
      halNrfFlushRx b
      halNrfFlushTx b
      nrfSteps b (initSteps .prx ++ rxSteps)) := by
    rw [initRx, hconfig]
    rfl
  rw [hprog, RegFile.nrfM_bind, RegFile.nrfM_bind]

end Model

open RegFile

/-! ### The steps -/

/-- A setter that checks its reads and leaves the fields it does not set. -/
structure NrfSetter.Tame (c : NrfSetter) : Prop where
  checked : c.uncheckedReads = []
  frames : ∀ d, Frames c d

/-- The set-ups make no other calls. -/
def NrfStep.Known (st : NrfStep) : Prop := st.call = .outputPower .dbm0 ∨ st.call.Tame

theorem known_of_inRange {c : NrfSetter} {checked : Bool} (hc : c.uncheckedReads = [])
    (hr : c.InRange) : NrfStep.Known ⟨c, checked⟩ := Or.inr ⟨hc, fun _ => frames_of_inRange hr⟩

theorem known_initSteps {opMode : HalNrfOperationMode} : ∀ st ∈ initSteps opMode, st.Known := by
  have hchannel : (20 : UInt8) < 0x80 := by decide
  simp only [initSteps, List.forall_mem_cons]
  exact ⟨known_of_inRange rfl trivial, known_of_inRange rfl trivial, known_of_inRange rfl trivial,
    known_of_inRange rfl hchannel, known_of_inRange rfl trivial, known_of_inRange rfl trivial,
    known_of_inRange rfl trivial, nofun⟩

theorem known_txSteps : ∀ st ∈ txSteps, st.Known := by
  simp only [txSteps, List.forall_mem_cons]
  exact ⟨Or.inl rfl, Or.inr ⟨rfl, fun _ => frames_autoRetr 0 0⟩, known_of_inRange rfl trivial,
    nofun⟩

theorem known_rxSteps : ∀ st ∈ rxSteps, st.Known := by
  simp only [rxSteps, List.forall_mem_cons]
  exact ⟨known_of_inRange rfl trivial, known_of_inRange rfl trivial,
    known_of_inRange rfl ⟨0, rfl⟩, Or.inl rfl, nofun⟩

/-- The steps do not set a field. -/
def Leave (sts : List NrfStep) (f : NrfField) : Prop := ∀ st ∈ sts, ∀ d, st.call.value d f = none

section Ends

variable {b : NrfBus RegFile} (hb : b.answer = answer) {sts : List NrfStep}
  (hknown : ∀ st ∈ sts, st.Known)

include hb hknown

theorem leave_keeps {f : NrfField} {v : ℕ} (hf : ∀ i, fieldAt 0x06 0 i ≠ some f)
    (hleave : Leave sts f) : ∀ st ∈ sts, Keeps (f.Holds v) (st.call.exec b) := by
  intro st hst
  rcases hknown st hst with hcall | htame
  · rw [hcall]
    exact outputPower_keeps hb .dbm0 hf
  · exact fun s hs =>
      (held_exec_of_frames hb htame.checked htame.frames (hleave st hst) s).trans hs

theorem leave_keeps_rated {lo : ℕ} (hleave : Leave sts .datarate) :
    ∀ st ∈ sts, Keeps (Rated b lo) (st.call.exec b) := by
  intro st hst
  rcases hknown st hst with hcall | htame
  · rw [hcall]
    exact outputPower_keeps_rated hb .dbm0
  · exact fun s hs => hs.of_held_eq (exec_n_le b st.call s)
      (held_exec_of_frames hb htame.checked htame.frames (hleave st hst) s)

end Ends

/-! ### What is set up -/

/-- The fields of the addresses, which the set-ups leave. -/
def NrfField.IsAddress : NrfField → Prop
  | addressWidth | pipeAddress _ _ | txAddress _ => True
  | _ => False

/-- What both ends have in common, set up from a state to another. -/
structure NrfSetUp (b : NrfBus RegFile) (opMode : HalNrfOperationMode) (s s' : NrfSt RegFile) :
    Prop where
  operationMode : NrfField.operationMode.held s'.dev = opMode.code
  rfChannel : NrfField.rfChannel.held s'.dev = 20
  crcMode : NrfField.crcMode.held s'.dev = HalNrfCrcMode.bit16.code
  rated : Rated b s.n s'
  pipe : (NrfField.pipeStatus 0).held s'.dev = 3
  feature : ∀ f : NrfField, f.IsFeature → f.held s.dev = 0 → f.held s'.dev = 0
  address : ∀ f : NrfField, f.IsAddress → f.held s'.dev = f.held s.dev

/-- The fields that the first steps have to do with, and that the other steps leave. -/
def NrfField.IsCommon : NrfField → Prop
  | operationMode | rfChannel | crcMode | datarate => True
  | dynamicPayload | ackPayload | dynamicAck => True
  | addressWidth | pipeAddress _ _ | txAddress _ => True
  | _ => False

theorem fieldAt_rfSetup_ne {f : NrfField} (hpower : f ≠ .outputPower) (hrate : f ≠ .datarate)
    (hpll : f ≠ .pllMode) (hwave : f ≠ .continuousWave) (i : Fin 8) :
    fieldAt 0x06 0 i ≠ some f := by
  have hmap : ∀ i : Fin 8, fieldAt 0x06 0 i = none ∨ fieldAt 0x06 0 i = some .outputPower ∨
      fieldAt 0x06 0 i = some .datarate ∨ fieldAt 0x06 0 i = some .pllMode ∨
      fieldAt 0x06 0 i = some .continuousWave := by decide
  intro hf
  rcases hmap i with h | h | h | h | h
  · exact nomatch h.symm.trans hf
  · exact hpower (Option.some.inj (h.symm.trans hf)).symm
  · exact hrate (Option.some.inj (h.symm.trans hf)).symm
  · exact hpll (Option.some.inj (h.symm.trans hf)).symm
  · exact hwave (Option.some.inj (h.symm.trans hf)).symm

theorem leave_nil (f : NrfField) : Leave [] f := nofun

theorem leave_cons {st : NrfStep} {sts : List NrfStep} {f : NrfField}
    (h : ∀ d, st.call.value d f = none) (hrest : Leave sts f) : Leave (st :: sts) f :=
  List.forall_mem_cons.mpr ⟨h, hrest⟩

theorem leave_append {sts sts' : List NrfStep} {f : NrfField} (h : Leave sts f)
    (h' : Leave sts' f) : Leave (sts ++ sts') f := fun st hst =>
  (List.mem_append.mp hst).elim (h st) (h' st)

theorem NrfField.IsFeature.isCommon {f : NrfField} (h : f.IsFeature) : f.IsCommon := by
  cases f <;> first | exact h.elim | trivial

theorem NrfField.IsAddress.isCommon {f : NrfField} (h : f.IsAddress) : f.IsCommon := by
  cases f <;> first | exact h.elim | trivial

theorem NrfField.IsFeature.fieldAt_ne {f : NrfField} (h : f.IsFeature) (i : Fin 8) :
    fieldAt 0x06 0 i ≠ some f := by
  refine fieldAt_rfSetup_ne ?_ ?_ ?_ ?_ i
  all_goals
    rintro rfl
    exact h

theorem NrfField.IsAddress.fieldAt_ne {f : NrfField} (h : f.IsAddress) (i : Fin 8) :
    fieldAt 0x06 0 i ≠ some f := by
  refine fieldAt_rfSetup_ne ?_ ?_ ?_ ?_ i
  all_goals
    rintro rfl
    exact h

/-- A feature that is off stays off, whatever becomes of the calls that turn it off. -/
theorem initSteps_keeps_feature {b : NrfBus RegFile} (hb : b.answer = answer)
    {opMode : HalNrfOperationMode} {f : NrfField} (hf : f.IsFeature) {st : NrfStep}
    (hst : st ∈ initSteps opMode) : Keeps (f.Holds 0) (st.call.exec b) := by
  have hbyte : f.InByte 0x1d 0 := feature_inByte hf
  have hvalue : (∀ d, st.call.value d f = none) ∨
      st.call.uncheckedReads = [] ∧ st.call.InRange ∧ ∀ d, st.call.value d f = some 0 := by
    simp only [initSteps, List.mem_cons, List.not_mem_nil, or_false] at hst
    rcases hst with rfl | rfl | rfl | rfl | rfl | rfl | rfl
    all_goals
      cases f <;> first
        | exact hf.elim
        | exact Or.inl fun _ => rfl
        | exact Or.inr ⟨rfl, trivial, fun _ => rfl⟩
  have htold : f.told 0 = 0 := by
    cases f <;> first | exact hf.elim | rfl
  rcases hvalue with hnone | ⟨hc, hr, hzero⟩
  · have hknown : ∀ st' ∈ [st], st'.Known := List.forall_mem_singleton.mpr (known_initSteps st hst)
    have hleave : Leave [st] f := List.forall_mem_singleton.mpr hnone
    exact leave_keeps hb hknown hf.fieldAt_ne hleave st List.mem_cons_self
  · have hkeeps := keeps_of_value hb hc hr hzero hbyte
    rwa [htold] at hkeeps

section Common

variable {b : NrfBus RegFile} (hb : b.answer = answer) {opMode : HalNrfOperationMode}
  {rest : List NrfStep} (hknown : ∀ st ∈ rest, st.Known)
  (hleave : ∀ f : NrfField, f.IsCommon → Leave rest f) {s : NrfSt RegFile}

include hknown in
theorem known_append (k : ℕ) : ∀ st ∈ (initSteps opMode).drop k ++ rest, st.Known := fun st hst =>
  (List.mem_append.mp hst).elim (fun h => known_initSteps st (List.mem_of_mem_drop h)) (hknown st)

/-- What one of the first steps brings about. -/
theorem initSteps_set (k : ℕ) {c : NrfSetter} {U V : NrfSt RegFile → Prop}
    (hk : initSteps opMode =
      (initSteps opMode).take k ++ ⟨c, true⟩ :: (initSteps opMode).drop (k + 1))
    (hpre : ∀ st ∈ (initSteps opMode).take k, Keeps U (st.call.exec b))
    (hc : ∀ s, U s → (c.exec b s).2.ecomm = false → V (c.exec b s).2)
    (hpost : ∀ st ∈ (initSteps opMode).drop (k + 1) ++ rest, Keeps V (st.call.exec b)) (hs : U s)
    (hret : (nrfSteps b (initSteps opMode ++ rest) s).1 = true) :
    V (nrfSteps b (initSteps opMode ++ rest) s).2 := by
  rw [hk, List.append_assoc, List.cons_append] at hret ⊢
  exact steps_set hpre hc hpost hs hret

include hb hknown

/-- A field that one of the first steps sets and that is not in `RF_SETUP`. -/
theorem initSteps_holds (k : ℕ) {c : NrfSetter} {f : NrfField} {v : ℕ}
    (hk : initSteps opMode =
      (initSteps opMode).take k ++ ⟨c, true⟩ :: (initSteps opMode).drop (k + 1))
    (hc : c.uncheckedReads = []) (hr : c.InRange) (hv : ∀ d, c.value d f = some v)
    (hf : ∀ i, fieldAt 0x06 0 i ≠ some f) (hlast : Leave ((initSteps opMode).drop (k + 1)) f)
    (hrest : Leave rest f) (hret : (nrfSteps b (initSteps opMode ++ rest) s).1 = true) :
    f.held (nrfSteps b (initSteps opMode ++ rest) s).2.dev = f.told v := by
  have hset : ∀ s, True → (c.exec b s).2.ecomm = false → f.Holds (f.told v) (c.exec b s).2 :=
    fun s _ hok => held_exec_of_value hb hc hr hv s hok
  have hpost := leave_keeps (v := f.told v) hb (known_append hknown (k + 1)) hf
    (leave_append hlast hrest)
  exact initSteps_set (U := fun _ => True) (V := f.Holds (f.told v)) k hk
    (fun _ _ _ _ => trivial) hset hpost trivial hret

include hleave

/-- **The first steps.** What they have set up where the program gets to its end: each field by
the step that sets it, as the steps after it leave it. -/
theorem initSteps_setUp (hret : (nrfSteps b (initSteps opMode ++ rest) s).1 = true)
    (hpipe : (NrfField.pipeStatus 0).held (nrfSteps b (initSteps opMode ++ rest) s).2.dev = 3) :
    NrfSetUp b opMode s (nrfSteps b (initSteps opMode ++ rest) s).2 where
  operationMode :=
    initSteps_holds hb hknown 6 (c := .operationMode opMode) (f := .operationMode) rfl rfl trivial
      (fun _ => rfl) (by decide) (leave_nil _) (hleave _ trivial) hret
  rfChannel := by
    have hlast : Leave ((initSteps opMode).drop 4) .rfChannel :=
      leave_cons (fun _ => rfl) (leave_cons (fun _ => rfl) (leave_cons (fun _ => rfl)
        (leave_nil _)))
    exact initSteps_holds hb hknown 3 (c := .rfChannel 20) rfl rfl
      (show (20 : UInt8) < 0x80 by decide) (fun _ => rfl) (by decide) hlast (hleave _ trivial) hret
  crcMode := by
    have hlast : Leave ((initSteps opMode).drop 6) .crcMode :=
      leave_cons (fun _ => rfl) (leave_nil _)
    exact initSteps_holds hb hknown 5 (c := .crcMode .bit16) rfl rfl trivial (fun _ => rfl)
      (by decide) hlast (hleave _ trivial) hret
  rated := by
    have hlast : Leave ((initSteps opMode).drop 5) .datarate :=
      leave_cons (fun _ => rfl) (leave_cons (fun _ => rfl) (leave_nil _))
    have hrate := held_exec_of_value (c := .datarate .mbps1) (f := .datarate) hb rfl trivial
      fun _ => rfl
    have hset : ∀ s', s.n ≤ s'.n → ((NrfSetter.datarate .mbps1).exec b s').2.ecomm = false →
        Rated b s.n ((NrfSetter.datarate .mbps1).exec b s').2 := fun s' hn hok =>
      ⟨hn.trans (exec_n_le b _ s'), Or.inl (hrate s' hok)⟩
    have hpost : ∀ st ∈ (initSteps opMode).drop 5 ++ rest, Keeps (Rated b s.n) (st.call.exec b) :=
      leave_keeps_rated hb (known_append hknown 5) (leave_append hlast (hleave _ trivial))
    exact initSteps_set (U := fun s' => s.n ≤ s'.n) (V := Rated b s.n) 4 rfl
      (fun st _ s' hn => hn.trans (exec_n_le b st.call s')) hset hpost (Nat.le_refl s.n) hret
  pipe := hpipe
  feature f hf hzero := by
    have hkeeps : ∀ st ∈ initSteps opMode ++ rest, Keeps (f.Holds 0) (st.call.exec b) := by
      intro st hst
      rcases List.mem_append.mp hst with h | h
      · exact initSteps_keeps_feature hb hf h
      · exact leave_keeps hb hknown hf.fieldAt_ne (hleave f hf.isCommon) st h
    exact keeps_nrfSteps hkeeps s hzero
  address f hf := by
    have hinit : Leave (initSteps opMode) f := by
      cases f <;> first
        | exact hf.elim
        | ((repeat refine leave_cons (fun _ => rfl) ?_); exact leave_nil _)
    have hkeeps : ∀ st ∈ initSteps opMode ++ rest,
        Keeps (f.Holds (f.held s.dev)) (st.call.exec b) :=
      leave_keeps hb (known_append hknown 0) hf.fieldAt_ne
        (leave_append hinit (hleave f hf.isCommon))
    exact keeps_nrfSteps hkeeps s rfl

end Common

/-! ### The two programs -/

section Programs

variable {b : NrfBus RegFile} (hb : b.answer = answer) {s : NrfSt RegFile}

include hb

/-- The commands before the first step leave the registers. -/
theorem flush_dev : (halNrfFlushTx b (halNrfFlushRx b s).2).2.dev = s.dev :=
  (command_dev hb _ _).trans (command_dev hb s _)

omit hb in
theorem flush_n_le : s.n ≤ (halNrfFlushTx b (halNrfFlushRx b s).2).2.n :=
  (transmit_n_le b _ s).trans (transmit_n_le b _ _)

/-- What is set up after these commands. -/
theorem NrfSetUp.of_flush {opMode : HalNrfOperationMode} {s' : NrfSt RegFile}
    (h : NrfSetUp b opMode (halNrfFlushTx b (halNrfFlushRx b s).2).2 s') :
    NrfSetUp b opMode s s' := by
  have hdev := flush_dev hb (s := s)
  have hn : s.n ≤ (halNrfFlushTx b (halNrfFlushRx b s).2).2.n := flush_n_le
  refine { h with rated := ⟨hn.trans h.rated.le, ?_⟩, feature := ?_, address := ?_ }
  · exact h.rated.rate.imp_right fun ⟨i, hle, hi⟩ => ⟨i, hn.trans hle, hi⟩
  · rw [← hdev]
    exact h.feature
  · rw [← hdev]
    exact h.address

/-- Pipe 0 is opened, with acknowledgements. -/
theorem openPipe_holds (s : NrfSt RegFile)
    (hok : ((NrfSetter.openPipe (.pipe 0) true).exec b s).2.ecomm = false) :
    (NrfField.pipeStatus 0).Holds 3 ((NrfSetter.openPipe (.pipe 0) true).exec b s).2 := by
  have hvalue : ∀ d, (NrfSetter.openPipe (.pipe 0) true).value d (.pipeStatus 0) = some 3 :=
    fun d => by
      rw [NrfSetter.value, if_pos (HalNrfAddress.covers_pipe 0)]
      rfl
  exact held_exec_of_value (c := .openPipe (.pipe 0) true) hb rfl trivial hvalue s hok

/-- **The transmitter.** What `init_tx` has set up if it says so. Its last steps set the output
power, the retransmissions and pipe 0. -/
theorem initTx_setUp (hret : (initTx b s).1 = true) : NrfSetUp b .ptx s (initTx b s).2 := by
  rw [initTx_eq] at hret ⊢
  have hleave : ∀ f : NrfField, f.IsCommon → Leave txSteps f := by
    intro f hf
    cases f <;> first
      | exact hf.elim
      | ((repeat refine leave_cons (fun _ => rfl) ?_); exact leave_nil _)
  have hlast : initSteps .ptx ++ txSteps =
      (initSteps .ptx ++ txSteps.take 2) ++ ⟨.openPipe (.pipe 0) true, true⟩ :: [] := rfl
  refine NrfSetUp.of_flush hb (initSteps_setUp hb known_txSteps hleave hret ?_)
  rw [hlast] at hret ⊢
  exact steps_set (U := fun _ => True) (V := (NrfField.pipeStatus 0).Holds 3)
    (fun _ _ _ _ => trivial) (fun s _ => openPipe_holds hb s) (List.forall_mem_nil _) trivial hret

/-- **The receiver.** What `init_rx` has set up if it says so. Its last steps configure pipe 0
with its payload width, without an address. -/
theorem initRx_setUp (hret : (initRx b s).1 = true) :
    NrfSetUp b .prx s (initRx b s).2 ∧
      (NrfField.rxPayloadWidth 0).held (initRx b s).2.dev = nrfMaxPl := by
  rw [initRx_eq] at hret ⊢
  have hleave : ∀ f : NrfField, f.IsCommon → Leave rxSteps f := by
    intro f hf
    cases f <;> first
      | exact hf.elim
      | ((repeat refine leave_cons (fun _ => rfl) ?_); exact leave_nil _)
  have hopen : initSteps .prx ++ rxSteps = (initSteps .prx ++ rxSteps.take 1) ++
      ⟨.openPipe (.pipe 0) true, true⟩ :: rxSteps.drop 2 := rfl
  have hwidth : initSteps .prx ++ rxSteps = (initSteps .prx ++ rxSteps.take 2) ++
      ⟨.rxPayloadWidth (.pipe 0) (UInt8.ofNat nrfMaxPl), true⟩ :: rxSteps.drop 3 := rfl
  have hknown : ∀ k, ∀ st ∈ rxSteps.drop k, st.Known := fun k st hst =>
    known_rxSteps st (List.mem_of_mem_drop hst)
  constructor
  · refine NrfSetUp.of_flush hb (initSteps_setUp hb known_rxSteps hleave hret ?_)
    have hpost : Leave (rxSteps.drop 2) (.pipeStatus 0) :=
      leave_cons (fun _ => rfl) (leave_cons (fun _ => rfl) (leave_nil _))
    rw [hopen] at hret ⊢
    exact steps_set (U := fun _ => True) (V := (NrfField.pipeStatus 0).Holds 3)
      (fun _ _ _ _ => trivial) (fun s _ => openPipe_holds hb s)
      (leave_keeps hb (hknown 2) (by decide) hpost) trivial hret
  · have hvalue : ∀ d, (NrfSetter.rxPayloadWidth (.pipe 0) (UInt8.ofNat nrfMaxPl)).value d
        (.rxPayloadWidth 0) = some nrfMaxPl := fun d => by
      rw [NrfSetter.value, if_pos rfl]
      rfl
    have hset := held_exec_of_value (c := .rxPayloadWidth (.pipe 0) (UInt8.ofNat nrfMaxPl)) hb rfl
      ⟨0, rfl⟩ hvalue
    have hpost : Leave (rxSteps.drop 3) (.rxPayloadWidth 0) :=
      leave_cons (fun _ => rfl) (leave_nil _)
    rw [hwidth] at hret ⊢
    exact steps_set (U := fun _ => True) (V := (NrfField.rxPayloadWidth 0).Holds nrfMaxPl)
      (fun _ _ _ _ => trivial) (fun s _ => hset s)
      (leave_keeps hb (hknown 3) (by decide) hpost) trivial hret

end Programs

/-! ### Hearing each other -/

/-- The addresses of a transmitter and of a receiver fit, and no feature is on, as it is after
power-on. -/
structure Paired (tx rx : RegFile) : Prop where
  addressWidth : NrfField.addressWidth.held rx = NrfField.addressWidth.held tx
  /-- Pipe 0 of the receiver has the address that is sent to. -/
  address : ∀ j < NrfField.addressWidth.held tx,
    (NrfField.pipeAddress 0 j).held rx = (NrfField.txAddress j).held tx
  /-- The acknowledgement comes to pipe 0 of the transmitter. -/
  ackAddress : ∀ j < NrfField.addressWidth.held tx,
    (NrfField.pipeAddress 0 j).held tx = (NrfField.txAddress j).held tx
  feature : ∀ f : NrfField, f.IsFeature → f.held tx = 0 ∧ f.held rx = 0

/-- What the transmitter sends the receiver gets and acknowledges, as far as this rests on their
registers. -/
structure Hears (tx rx : RegFile) : Prop extends Paired tx rx where
  txMode : NrfField.operationMode.held tx = HalNrfOperationMode.ptx.code
  rxMode : NrfField.operationMode.held rx = HalNrfOperationMode.prx.code
  rfChannel : NrfField.rfChannel.held rx = NrfField.rfChannel.held tx
  crcMode : NrfField.crcMode.held rx = NrfField.crcMode.held tx
  datarate : NrfField.datarate.held rx = NrfField.datarate.held tx
  /-- Open, and with acknowledgements. -/
  txPipe : (NrfField.pipeStatus 0).held tx = 3
  rxPipe : (NrfField.pipeStatus 0).held rx = 3
  /-- The receiver takes payloads of the size that is sent. -/
  ploadWidth : (NrfField.rxPayloadWidth 0).held rx = nrfMaxPl

theorem Paired.setUp {bt br : NrfBus RegFile} {st st' sr sr' : NrfSt RegFile}
    (h : Paired st.dev sr.dev) (htx : NrfSetUp bt .ptx st st') (hrx : NrfSetUp br .prx sr sr') :
    Paired st'.dev sr'.dev := by
  have hwidth := htx.address .addressWidth trivial
  have htxAddress := fun j => htx.address (.txAddress j) trivial
  refine ⟨?_, fun j hj => ?_, fun j hj => ?_, fun f hf => ?_⟩
  · exact (hrx.address .addressWidth trivial).trans (h.addressWidth.trans hwidth.symm)
  · rw [hwidth] at hj
    exact (hrx.address (.pipeAddress 0 j) trivial).trans
      ((h.address j hj).trans (htxAddress j).symm)
  · rw [hwidth] at hj
    exact (htx.address (.pipeAddress 0 j) trivial).trans
      ((h.ackAddress j hj).trans (htxAddress j).symm)
  · exact ⟨htx.feature f hf (h.feature f hf).1, hrx.feature f hf (h.feature f hf).2⟩

/-- **The two ends.** Whatever transfers fail at either end, where `init_tx` and `init_rx` both say
that they are done, the two hear each other if and only if they have the same data rate; and they
do, or one of them has the rate that a read which failed meanwhile left in the buffer.

The addresses fitted before, and the extra features were off (`Paired`). `init_tx` and `init_rx` do
turn them off, but do not look whether this went well: a read that fails in
`hal_nrf_enable_dynamic_payload` ends the call, and leaves a feature that was on. -/
theorem init_hears {bt br : NrfBus RegFile} (hbt : bt.answer = RegFile.answer)
    (hbr : br.answer = RegFile.answer) {st sr : NrfSt RegFile} (hpaired : Paired st.dev sr.dev)
    (htx : (initTx bt st).1 = true) (hrx : (initRx br sr).1 = true) :
    let tx := (initTx bt st).2
    let rx := (initRx br sr).2
    (Hears tx.dev rx.dev ↔ NrfField.datarate.held rx.dev = NrfField.datarate.held tx.dev) ∧
      (Hears tx.dev rx.dev ∨ LeftRate bt st.n tx.n (NrfField.datarate.held tx.dev) ∨
        LeftRate br sr.n rx.n (NrfField.datarate.held rx.dev)) := by
  intro tx rx
  have ht : NrfSetUp bt .ptx st tx := initTx_setUp hbt htx
  obtain ⟨hr, hwidth⟩ : NrfSetUp br .prx sr rx ∧ _ := initRx_setUp hbr hrx
  have hhears : NrfField.datarate.held rx.dev = NrfField.datarate.held tx.dev →
      Hears tx.dev rx.dev := fun hrate =>
    { hpaired.setUp ht hr with
      txMode := ht.operationMode
      rxMode := hr.operationMode
      rfChannel := hr.rfChannel.trans ht.rfChannel.symm
      crcMode := hr.crcMode.trans ht.crcMode.symm
      datarate := hrate
      txPipe := ht.pipe
      rxPipe := hr.pipe
      ploadWidth := hwidth }
  refine ⟨⟨Hears.datarate, hhears⟩, ?_⟩
  rcases ht.rated.rate with htx | hleft
  · rcases hr.rated.rate with hrx | hleft
    · exact Or.inl (hhears (hrx.trans htx.symm))
    · exact Or.inr (Or.inr hleft)
  · exact Or.inr (Or.inl hleft)

/-- The registers after power-on, as far as they are read here. -/
def nrfReset : RegFile := fun r _ =>
  match r with
  | 0x00 => 0x08
  | 0x01 => 0x3f
  | 0x02 | 0x03 | 0x04 => 0x03
  | 0x05 => 0x02
  | 0x06 => 0x0e
  | 0x0a | 0x10 => 0xe7
  | _ => 0

theorem paired_nrfReset : Paired nrfReset nrfReset :=
  ⟨rfl, fun _ _ => rfl, fun _ _ => rfl, fun f hf => by
    cases f <;> first | exact hf.elim | exact ⟨rfl, rfl⟩⟩

/-- Transfers fail at both ends, in calls that are not in `NRF_EXEC`. -/
theorem init_hears_reset :
    let b : ℕ → NrfBus RegFile := fun n => { RegFile.bus with fails := fun i => i = n }
    Hears (initTx (b 2) ⟨nrfReset, 0, false, []⟩).2.dev
      (initRx (b 0) ⟨nrfReset, 0, false, []⟩).2.dev :=
  (init_hears rfl rfl paired_nrfReset rfl rfl).1.mpr rfl

/-- The read in `hal_nrf_set_output_power` fails, `init_tx` says that it is done, and the ends do
not hear each other. -/
example :
    let b : NrfBus RegFile :=
      { RegFile.bus with fails := fun i => i = 15, garbage := fun _ _ => 0x20 }
    let tx := initTx b ⟨nrfReset, 0, false, []⟩
    tx.1 = true ∧ ¬ Hears tx.2.dev (initRx RegFile.bus ⟨nrfReset, 0, false, []⟩).2.dev :=
  ⟨rfl, fun h => absurd h.datarate (by decide)⟩

end Librasp
