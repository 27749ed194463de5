import Librasp.Foundation.Run
import Librasp.Gpio.Events

/-!
# `gpio.c`: the status of events

The BCM latches an event of a pin in a bit of `GPEDS0` or `GPEDS1`, which a write of 1 clears.
`gpio_bcm_get_event_stat` reads the bit, and clears it by a second access. Events occur, and other
callers get along, between the two.

What happens is kept in a log: the events, what the calls return, which they know from their first
access on, and the clearing of the bits. Everything is said about the log.

* A call tells of an event just if there was one since the bit was cleared last. The bit does not
  say how many there were.
* An event after the first access and before the second is wiped out by the call, which tells of
  an earlier one. This is the only way in which an event is missed: a bit is cleared by none but
  the call that told of an event since.
* As long as the calls for one pin do not overlap, a call that tells of an event tells of one that
  none has told of before.

**Main result.** `eventStat_told`, over every run of events and accesses. Two invariants carry it,
one lemma each for a step: the log is right and says what is in the registers (`EdsSt.Logged`),
and of a bit that nobody is about to clear no call has told (`EdsSt.Once`). A call that nothing
comes between is the function of the source as a whole (`alone_of_idle`).
-/

namespace Librasp

/-- `GPEDS0`. -/
def gpeds0 : ℕ := 0x40

/-! ### The model -/

/-- The words of the status registers, by their offsets. -/
abbrev Eds := ℕ → UInt32

namespace Eds

/-- The register with the bit of a pin. -/
def reg (gpio : ℕ) : ℕ := gpeds0 + 4 * (gpio / 32)

/-- The bit of a pin. -/
def mask (gpio : ℕ) : UInt32 := 1 <<< UInt32.ofNat (gpio % 32)

/-- An event is latched. -/
def latch (w : Eds) (gpio : ℕ) : Eds := Function.update w (reg gpio) (w (reg gpio) ||| mask gpio)

/-- A write to a status register. -/
def write (w : Eds) (off : ℕ) (v : UInt32) : Eds := Function.update w off (w off &&& ~~~v)

/-- The status of a pin, as `gpio_bcm_get_event_stat` reads it. -/
def stat (w : Eds) (gpio : ℕ) : UInt32 := (w (reg gpio) >>> UInt32.ofNat (gpio % 32)) &&& 1

/-- An event of a pin is latched. -/
def bit (w : Eds) (gpio : ℕ) : Bool := (w (reg gpio)).toBitVec.getLsbD (gpio % 32)

end Eds

/-- `gpio_bcm_get_event_stat` up to its first access: what it returns, and what it writes to
`*p_stat`, if anything; `bcmEvents` is `CONFIG_BCM_GPIO_EVENTS`. -/
def gpioBcmReadEventStat (bcmEvents : Bool) (h : GpioHndl) (w : Eds) (gpio : ℕ) :
    LrErrc × Option UInt32 :=
  if gpioNum ≤ gpio then (.invArg, none)
  else if h.gpioIo then
    if bcmEvents then (.success, some (w.stat gpio)) else (.notSupp, none)
  else (.noinit, none)

/-- The second access, which clears the bit. -/
def gpioBcmClearEventStat (w : Eds) (gpio : ℕ) : Eds := w.write (Eds.reg gpio) (Eds.mask gpio)

/-- A call tells of an event, and goes on to its second access. -/
def tellsEvent (ret : LrErrc × Option UInt32) : Bool := ret.2.any (· ≠ 0)

/-- `gpio_bcm_get_event_stat`, when nothing else goes on. -/
def gpioBcmGetEventStat (bcmEvents : Bool) (h : GpioHndl) (w : Eds) (gpio : ℕ) :
    (LrErrc × Option UInt32) × Eds :=
  let ret := gpioBcmReadEventStat bcmEvents h w gpio
  (ret, if tellsEvent ret then gpioBcmClearEventStat w gpio else w)

/-- What happened, among the callers `ι`. -/
inductive EdsHap (ι : Type)
  | event (gpio : ℕ)
  | returns (caller : ι) (gpio : ℕ) (ret : LrErrc × Option UInt32)
  | clears (caller : ι) (gpio : ℕ)

/-- The registers among the callers `ι`, with what happened so far. -/
structure EdsSt (ι : Type) where
  words : Eds
  /-- The pin of which a caller has read that there was an event. -/
  clearing : ι → Option ℕ
  log : List (EdsHap ι)

/-- What happens to the registers. -/
inductive EdsAct (ι : Type)
  | event (gpio : ℕ)
  /-- The first access of a call, which ends it if there was no event. -/
  | read (caller : ι) (gpio : ℕ)
  /-- The second access, and the end of the call. -/
  | clear (caller : ι)

variable {ι : Type} [DecidableEq ι]

section Model

variable (bcmEvents : Bool) (h : GpioHndl)

/-- What an action makes of the state, if it is possible. -/
def edsStep (s : EdsSt ι) : EdsAct ι → Option (EdsSt ι)
  | .event gpio =>
    if gpio < gpioNum then
      some { s with words := s.words.latch gpio, log := s.log ++ [.event gpio] }
    else none
  | .read caller gpio =>
    if s.clearing caller = none then
      let ret := gpioBcmReadEventStat bcmEvents h s.words gpio
      some { s with
        clearing := Function.update s.clearing caller (if tellsEvent ret then some gpio else none)
        log := s.log ++ [.returns caller gpio ret] }
    else none
  | .clear caller =>
    (s.clearing caller).map fun gpio =>
      { words := gpioBcmClearEventStat s.words gpio
        clearing := Function.update s.clearing caller none
        log := s.log ++ [.clears caller gpio] }

/-- No other caller is about to clear the bit that is read. -/
def EdsAct.Apart (s : EdsSt ι) : EdsAct ι → Prop
  | .read _ gpio => ∀ caller, s.clearing caller ≠ some gpio
  | _ => True

/-- Nothing is going on. -/
structure EdsSt.Quiet (s : EdsSt ι) : Prop where
  clearing : ∀ caller, s.clearing caller = none
  log : s.log = []

end Model

/-! ### What the log says -/

section Log

variable {κ : Type}

/-- Who did something. -/
def EdsHap.caller : EdsHap κ → Option κ
  | .event _ => none
  | .returns caller _ _ => some caller
  | .clears caller _ => some caller

/-- Whether there was an event since the bit was cleared, when something else has happened. -/
def EdsHap.latched (gpio : ℕ) (b : Bool) : EdsHap κ → Bool
  | .event gpio' => b || decide (gpio' = gpio)
  | .returns .. => b
  | .clears _ gpio' => b && !decide (gpio' = gpio)

/-- How many events were neither told nor wiped out, when something else has happened. -/
def EdsHap.untold (gpio : ℕ) (n : ℕ) : EdsHap κ → ℕ
  | .event gpio' => if gpio' = gpio then n + 1 else n
  | .returns _ gpio' ret => if gpio' = gpio ∧ tellsEvent ret then 0 else n
  | .clears _ gpio' => if gpio' = gpio then 0 else n

/-- Whether there was an event of a pin since its bit was cleared last. -/
def latchedBy (b : Bool) (gpio : ℕ) (log : List (EdsHap κ)) : Bool :=
  log.foldl (EdsHap.latched gpio) b

/-- How many events of a pin were neither told nor wiped out. -/
def untoldBy (b : Bool) (gpio : ℕ) (log : List (EdsHap κ)) : ℕ :=
  log.foldl (EdsHap.untold gpio) b.toNat

/-- An event of a pin happened. -/
def EdsHap.isEvent (gpio : ℕ) : EdsHap κ → Bool
  | .event gpio' => gpio' = gpio
  | _ => false

/-- The number of events of a pin. -/
def eventsBy (gpio : ℕ) (log : List (EdsHap κ)) : ℕ := log.countP (EdsHap.isEvent gpio)

/-- A caller has told of an event, and done nothing since. The events of the pin that no call has
told of came after this. -/
def Told (b : Bool) (caller : κ) (gpio : ℕ) (log : List (EdsHap κ)) : Prop :=
  ∃ pre ret post, log = pre ++ .returns caller gpio ret :: post ∧ tellsEvent ret = true ∧
    (∀ x ∈ post, x.caller ≠ some caller) ∧ untoldBy b gpio log ≤ eventsBy gpio post

/-- What happens is right after what has happened; `b` are the bits of the start. -/
def EdsHap.Right (bcmEvents : Bool) (h : GpioHndl) (b : ℕ → Bool) (pre : List (EdsHap κ)) :
    EdsHap κ → Prop
  | .event gpio => gpio < gpioNum
  | .returns _ gpio ret =>
    (ret.1 = .success ↔ gpio < gpioNum ∧ h.gpioIo = true ∧ bcmEvents = true) ∧
      ret.2 = if ret.1 = .success then some (if latchedBy (b gpio) gpio pre then 1 else 0) else none
  | .clears caller gpio => Told (b gpio) caller gpio pre

/-- A call that tells of an event tells of one that no call told of before. -/
def EdsHap.Once (b : ℕ → Bool) (pre : List (EdsHap κ)) : EdsHap κ → Prop
  | .returns _ gpio ret => tellsEvent ret = true → 0 < untoldBy (b gpio) gpio pre
  | _ => True

/-- Everything in a log is right after what is before it. -/
def LogEach (ok : List (EdsHap κ) → EdsHap κ → Prop) (log : List (EdsHap κ)) : Prop :=
  ∀ pre x post, log = pre ++ x :: post → ok pre x

end Log

/-! ### Bits -/

namespace Eds

theorem mod_lt (gpio : ℕ) : gpio % 32 < 32 := Nat.mod_lt _ (by decide)

/-- The bits of two pins are two bits. -/
theorem bit_update (w : Eds) (gpio gpio' : ℕ) (v : UInt32) :
    bit (Function.update w (reg gpio) v) gpio' =
      if reg gpio' = reg gpio then v.toBitVec.getLsbD (gpio' % 32) else w.bit gpio' := by
  rw [bit]
  by_cases h : reg gpio' = reg gpio
  · rw [if_pos h, h, Function.update_self]
  · rw [if_neg h, Function.update_of_ne h, bit]

theorem eq_of_reg {gpio gpio' : ℕ} (h : reg gpio' = reg gpio) (hmod : gpio' % 32 = gpio % 32) :
    gpio' = gpio := by
  rw [reg, reg] at h
  omega

theorem bit_latch (w : Eds) (gpio gpio' : ℕ) :
    (w.latch gpio).bit gpio' = (w.bit gpio' || decide (gpio' = gpio)) := by
  rw [latch, bit_update]
  by_cases hreg : reg gpio' = reg gpio
  · rw [if_pos hreg, mask, getLsbD_setBit _ (mod_lt gpio), bit, hreg]
    by_cases hmod : gpio' % 32 = gpio % 32
    · rw [if_pos hmod, decide_eq_true (eq_of_reg hreg hmod), Bool.or_true]
    · rw [if_neg hmod, decide_eq_false fun h => hmod (congrArg (· % 32) h), Bool.or_false]
  · rw [if_neg hreg, decide_eq_false fun h => hreg (congrArg reg h), Bool.or_false]

theorem bit_write (w : Eds) (gpio gpio' : ℕ) :
    (w.write (reg gpio) (mask gpio)).bit gpio' = (w.bit gpio' && !decide (gpio' = gpio)) := by
  rw [write, bit_update]
  by_cases hreg : reg gpio' = reg gpio
  · rw [if_pos hreg, mask, getLsbD_clearBit _ (mod_lt gpio), bit, hreg]
    by_cases hmod : gpio' % 32 = gpio % 32
    · rw [if_pos hmod, decide_eq_true (eq_of_reg hreg hmod), Bool.not_true, Bool.and_false]
    · rw [if_neg hmod, decide_eq_false fun h => hmod (congrArg (· % 32) h), Bool.not_false,
        Bool.and_true]
  · rw [if_neg hreg, decide_eq_false fun h => hreg (congrArg reg h), Bool.not_false, Bool.and_true]

theorem stat_eq (w : Eds) (gpio : ℕ) : w.stat gpio = if w.bit gpio then 1 else 0 :=
  shr_and_one _ (mod_lt gpio)

end Eds

/-! ### The accesses -/

section Calls

variable {bcmEvents : Bool} {h : GpioHndl}

theorem readEventStat_success_iff (w : Eds) (gpio : ℕ) :
    (gpioBcmReadEventStat bcmEvents h w gpio).1 = .success ↔
      gpio < gpioNum ∧ h.gpioIo = true ∧ bcmEvents = true := by
  rw [gpioBcmReadEventStat]
  split_ifs with hgpio hio hevents
  · exact iff_of_false (by decide) fun h => absurd h.1 (Nat.not_lt.mpr hgpio)
  · exact iff_of_true rfl ⟨Nat.lt_of_not_le hgpio, hio, hevents⟩
  · exact iff_of_false (by decide) fun h => hevents h.2.2
  · exact iff_of_false (by decide) fun h => hio h.2.1

/-- What is read is written to the caller just on success, and it is the bit of that GPIO in the
event detect status. -/
theorem readEventStat_stat (w : Eds) (gpio : ℕ) :
    (gpioBcmReadEventStat bcmEvents h w gpio).2 =
      if (gpioBcmReadEventStat bcmEvents h w gpio).1 = .success then
        some (if w.bit gpio then 1 else 0)
      else none := by
  rw [gpioBcmReadEventStat]
  by_cases hgpio : gpioNum ≤ gpio
  · rw [if_pos hgpio]
    rfl
  by_cases hio : h.gpioIo = true
  · rw [if_neg hgpio, if_pos hio]
    cases bcmEvents
    · rfl
    · exact congrArg some (w.stat_eq gpio)
  · rw [if_neg hgpio, if_neg hio]
    rfl

/-- What is told is latched. -/
theorem bit_of_tells {w : Eds} {gpio : ℕ}
    (htells : tellsEvent (gpioBcmReadEventStat bcmEvents h w gpio) = true) :
    w.bit gpio = true := by
  by_contra hbit
  rw [tellsEvent, readEventStat_stat, if_neg hbit] at htells
  split_ifs at htells <;> exact absurd htells (by decide)

end Calls

/-! ### Logs -/

section Log

variable {κ : Type} {b : Bool} {caller : κ} {gpio : ℕ} {log : List (EdsHap κ)}

theorem LogEach.concat {ok : List (EdsHap κ) → EdsHap κ → Prop} {x : EdsHap κ}
    (hlog : LogEach ok log) (hx : ok log x) : LogEach ok (log ++ [x]) := by
  intro pre y post h
  rcases List.eq_nil_or_concat post with rfl | ⟨post', z, rfl⟩
  · obtain ⟨rfl, hy⟩ := List.append_inj' h rfl
    obtain rfl := (List.cons.inj hy).1
    exact hx
  · rw [List.concat_eq_append, ← List.cons_append, ← List.append_assoc] at h
    exact hlog pre y post' (List.append_inj' h rfl).1

theorem logEach_nil (ok : List (EdsHap κ) → EdsHap κ → Prop) : LogEach ok [] :=
  fun pre x post h =>
    absurd h.symm (List.append_ne_nil_of_right_ne_nil pre (List.cons_ne_nil x post))

theorem latchedBy_concat (b : Bool) (gpio : ℕ) (log : List (EdsHap κ)) (x : EdsHap κ) :
    latchedBy b gpio (log ++ [x]) = x.latched gpio (latchedBy b gpio log) := by
  rw [latchedBy, List.foldl_append]
  rfl

theorem untoldBy_concat (b : Bool) (gpio : ℕ) (log : List (EdsHap κ)) (x : EdsHap κ) :
    untoldBy b gpio (log ++ [x]) = x.untold gpio (untoldBy b gpio log) := by
  rw [untoldBy, List.foldl_append]
  rfl

/-- What is told or wiped out goes down to none, and an event is one more. So the events that a
clearing wipes out are among those since its caller has read. -/
theorem untold_le (gpio n : ℕ) (x : EdsHap κ) : x.untold gpio n ≤ n + eventsBy gpio [x] := by
  cases x with
  | event gpio' =>
    rw [EdsHap.untold]
    split_ifs with hg
    · rw [eventsBy, List.countP_singleton, EdsHap.isEvent, if_pos (decide_eq_true hg)]
    · exact Nat.le_add_right ..
  | returns =>
    rw [EdsHap.untold]
    split_ifs
    · exact Nat.zero_le _
    · exact Nat.le_add_right ..
  | clears =>
    rw [EdsHap.untold]
    split_ifs
    · exact Nat.zero_le _
    · exact Nat.le_add_right ..

theorem eventsBy_append (gpio : ℕ) (log log' : List (EdsHap κ)) :
    eventsBy gpio (log ++ log') = eventsBy gpio log + eventsBy gpio log' :=
  List.countP_append

/-- A call tells of an event. -/
theorem told_returns {ret : LrErrc × Option UInt32} (htells : tellsEvent ret = true) :
    Told b caller gpio (log ++ [.returns caller gpio ret]) := by
  refine ⟨log, ret, [], rfl, htells, fun x hx => absurd hx List.not_mem_nil, ?_⟩
  rw [untoldBy_concat, EdsHap.untold, if_pos ⟨rfl, htells⟩]
  exact Nat.zero_le _

/-- And something else happens. -/
theorem Told.concat {x : EdsHap κ} (h : Told b caller gpio log) (hx : x.caller ≠ some caller) :
    Told b caller gpio (log ++ [x]) := by
  obtain ⟨pre, ret, post, rfl, htells, hpost, hle⟩ := h
  refine ⟨pre, ret, post ++ [x], ?_, htells, fun y hy => ?_, ?_⟩
  · rw [List.append_assoc, List.cons_append]
  · rcases List.mem_append.mp hy with hy | hy
    · exact hpost y hy
    · exact List.mem_singleton.mp hy ▸ hx
  · rw [untoldBy_concat, eventsBy_append]
    exact (untold_le gpio _ x).trans (Nat.add_le_add_right hle _)

end Log

/-! ### Steps -/

/-- The log is right, and says what is in the registers. -/
structure EdsSt.Logged (bcmEvents : Bool) (h : GpioHndl) (b : ℕ → Bool) (s : EdsSt ι) : Prop where
  bit : ∀ gpio, s.words.bit gpio = latchedBy (b gpio) gpio s.log
  told : ∀ caller gpio, s.clearing caller = some gpio → Told (b gpio) caller gpio s.log
  right : LogEach (EdsHap.Right bcmEvents h b) s.log

/-- Of a bit that is set, and that nobody is about to clear, no call has told. -/
structure EdsSt.Once (b : ℕ → Bool) (s : EdsSt ι) : Prop where
  fresh : ∀ gpio, s.words.bit gpio = true → (∀ caller, s.clearing caller ≠ some gpio) →
    0 < untoldBy (b gpio) gpio s.log
  once : LogEach (EdsHap.Once b) s.log

section Steps

variable {bcmEvents : Bool} {h : GpioHndl} {b : ℕ → Bool} {s s' : EdsSt ι} {gpio : ℕ} {caller : ι}

theorem edsStep_event (hstep : edsStep bcmEvents h s (.event gpio) = some s') :
    gpio < gpioNum ∧
      s' = { s with words := s.words.latch gpio, log := s.log ++ [.event gpio] } := by
  rw [edsStep] at hstep
  split_ifs at hstep with hgpio
  exact ⟨hgpio, (Option.some.inj hstep).symm⟩

theorem edsStep_read_eq (hidle : s.clearing caller = none) :
    edsStep bcmEvents h s (.read caller gpio) =
      let ret := gpioBcmReadEventStat bcmEvents h s.words gpio
      some { s with
        clearing := Function.update s.clearing caller (if tellsEvent ret then some gpio else none)
        log := s.log ++ [.returns caller gpio ret] } :=
  if_pos hidle

/-- The first access: the call ends, or the caller is to clear the bit. -/
theorem edsStep_read (hstep : edsStep bcmEvents h s (.read caller gpio) = some s') :
    s.clearing caller = none ∧ s' = { s with
      clearing := Function.update s.clearing caller
        (if tellsEvent (gpioBcmReadEventStat bcmEvents h s.words gpio) then some gpio else none)
      log := s.log ++ [.returns caller gpio (gpioBcmReadEventStat bcmEvents h s.words gpio)] } := by
  by_cases hidle : s.clearing caller = none
  · rw [edsStep_read_eq hidle] at hstep
    exact ⟨hidle, (Option.some.inj hstep).symm⟩
  · rw [edsStep, if_neg hidle] at hstep
    exact absurd hstep.symm (Option.some_ne_none s')

/-- The second access. -/
theorem edsStep_clear (hstep : edsStep bcmEvents h s (.clear caller) = some s') :
    ∃ gpio, s.clearing caller = some gpio ∧ s' =
      { words := gpioBcmClearEventStat s.words gpio
        clearing := Function.update s.clearing caller none
        log := s.log ++ [.clears caller gpio] } := by
  obtain ⟨gpio, hgpio, hs'⟩ := Option.map_eq_some_iff.mp hstep
  exact ⟨gpio, hgpio, hs'.symm⟩

/-- Who is about to clear a bit when a caller goes on was so before, or is this caller. -/
theorem clearing_update {f : ι → Option ℕ} {caller c : ι} {g : Option ℕ} {gpio : ℕ}
    (hc : Function.update f caller g c = some gpio) :
    c = caller ∧ g = some gpio ∨ c ≠ caller ∧ f c = some gpio := by
  by_cases hcc : c = caller
  · subst hcc
    exact Or.inl ⟨rfl, (Function.update_self c g f).symm.trans hc⟩
  · exact Or.inr ⟨hcc, (Function.update_of_ne hcc g f).symm.trans hc⟩

/-- A step keeps the log right, case by case: an event is latched, a first access tells what is
latched, and a second one clears what its caller has told of. -/
theorem EdsSt.Logged.step {a : EdsAct ι} (hs : s.Logged bcmEvents h b)
    (hstep : edsStep bcmEvents h s a = some s') : s'.Logged bcmEvents h b := by
  cases a with
  | event gpio =>
    obtain ⟨hgpio, rfl⟩ := edsStep_event hstep
    refine ⟨fun gpio' => ?_, fun c gpio' hc => ?_, hs.right.concat hgpio⟩
    · rw [latchedBy_concat, ← hs.bit gpio', EdsHap.latched, Eds.bit_latch]
      exact congrArg _ (decide_eq_decide.mpr eq_comm)
    · exact (hs.told c gpio' hc).concat (Option.some_ne_none c).symm
  | read caller gpio =>
    obtain ⟨hidle, rfl⟩ := edsStep_read hstep
    refine ⟨fun gpio' => ?_, fun c gpio' hc => ?_, hs.right.concat ?_⟩
    · rw [latchedBy_concat]
      exact hs.bit gpio'
    · rcases clearing_update hc with ⟨rfl, hg⟩ | ⟨hcc, hc⟩
      · split_ifs at hg with htells
        obtain rfl := Option.some.inj hg
        exact told_returns htells
      · exact (hs.told c gpio' hc).concat fun h => hcc (Option.some.inj h).symm
    · refine ⟨readEventStat_success_iff .., ?_⟩
      rw [← hs.bit gpio]
      exact readEventStat_stat ..
  | clear caller =>
    obtain ⟨gpio, hgpio, rfl⟩ := edsStep_clear hstep
    refine ⟨fun gpio' => ?_, fun c gpio' hc => ?_, hs.right.concat (hs.told caller gpio hgpio)⟩
    · rw [latchedBy_concat, ← hs.bit gpio', EdsHap.latched, gpioBcmClearEventStat, Eds.bit_write]
      exact congrArg (s.words.bit gpio' && !·) (decide_eq_decide.mpr eq_comm)
    · rcases clearing_update hc with ⟨-, hg⟩ | ⟨hcc, hc⟩
      · exact absurd hg (Option.some_ne_none gpio').symm
      · exact (hs.told c gpio' hc).concat fun h => hcc (Option.some.inj h).symm

/-- One step of a run in which the callers keep apart. An event is there to be told of as long as
its bit is set and no caller is about to clear it; a read tells of it once, and that caller is
to clear it then. -/
theorem EdsSt.Once.step {a : EdsAct ι} (hs : s.Once b) (ha : a.Apart s)
    (hstep : edsStep bcmEvents h s a = some s') : s'.Once b := by
  cases a with
  | event gpio =>
    obtain ⟨-, rfl⟩ := edsStep_event hstep
    refine ⟨fun gpio' hbit hfree => ?_, hs.once.concat trivial⟩
    rw [untoldBy_concat, EdsHap.untold]
    split_ifs with hg
    · exact Nat.succ_pos _
    · refine hs.fresh gpio' ?_ hfree
      rwa [Eds.bit_latch, decide_eq_false (Ne.symm hg), Bool.or_false] at hbit
  | read caller gpio =>
    obtain ⟨hidle, rfl⟩ := edsStep_read hstep
    refine ⟨fun gpio' hbit hfree => ?_, hs.once.concat fun htells => ?_⟩
    · -- if the call tells of an event the caller is to clear the bit
      rw [untoldBy_concat, EdsHap.untold, if_neg]
      · refine hs.fresh gpio' hbit fun c hc => hfree c ?_
        have hcc : c ≠ caller := by
          rintro rfl
          exact Option.some_ne_none gpio' (hc.symm.trans hidle)
        exact (Function.update_of_ne hcc ..).trans hc
      · rintro ⟨rfl, htells⟩
        refine hfree caller ((Function.update_self ..).trans ?_)
        rw [if_pos htells]
    · exact hs.fresh gpio (bit_of_tells htells) ha
  | clear caller =>
    obtain ⟨gpio, hgpio, rfl⟩ := edsStep_clear hstep
    refine ⟨fun gpio' hbit hfree => ?_, hs.once.concat trivial⟩
    rw [gpioBcmClearEventStat, Eds.bit_write, Bool.and_eq_true] at hbit
    have hg : gpio ≠ gpio' := fun h => by
      rw [decide_eq_true h.symm] at hbit
      exact Bool.false_ne_true hbit.2
    rw [untoldBy_concat, EdsHap.untold, if_neg hg]
    refine hs.fresh gpio' hbit.1 fun c hc => hfree c ?_
    have hcc : c ≠ caller := by
      rintro rfl
      exact hg (Option.some.inj (hgpio.symm.trans hc))
    exact (Function.update_of_ne hcc ..).trans hc

end Steps

/-! ### Calls and runs -/

section Runs

variable {bcmEvents : Bool} {h : GpioHndl} {s t : EdsSt ι}

/-- A call that nothing comes between is `gpio_bcm_get_event_stat`. -/
def EdsSt.Alone (bcmEvents : Bool) (h : GpioHndl) (s : EdsSt ι) (caller : ι) (gpio : ℕ) : Prop :=
  let r := gpioBcmGetEventStat bcmEvents h s.words gpio
  Run.run (edsStep bcmEvents h) s
      (.read caller gpio :: if tellsEvent r.1 then [.clear caller] else []) = some { s with
    words := r.2
    log := s.log ++
      .returns caller gpio r.1 :: if tellsEvent r.1 then [.clears caller gpio] else [] }

/-- A caller that is between two calls and does both accesses in a row, the read and the clear,
does what `gpio_bcm_get_event_stat` does. -/
theorem alone_of_idle {caller : ι} (hidle : s.clearing caller = none) (gpio : ℕ) :
    s.Alone bcmEvents h caller gpio := by
  obtain ⟨ret, hret⟩ : ∃ ret, gpioBcmReadEventStat bcmEvents h s.words gpio = ret := ⟨_, rfl⟩
  have hread : edsStep bcmEvents h s (.read caller gpio) = _ := edsStep_read_eq hidle
  rw [EdsSt.Alone, gpioBcmGetEventStat]
  dsimp only at hread ⊢
  rw [hret] at hread ⊢
  rw [Run.run_cons hread]
  rcases htells : tellsEvent ret with _ | _
  · rw [if_neg Bool.false_ne_true, if_neg Bool.false_ne_true, if_neg Bool.false_ne_true,
      if_neg Bool.false_ne_true, Function.update_eq_self_iff.mpr hidle.symm]
    rfl
  · rw [if_pos rfl, if_pos rfl, if_pos rfl, if_pos rfl]
    refine Run.run_cons ?_ []
    rw [edsStep]
    dsimp only
    rw [Function.update_self, Option.map_some, Function.update_idem,
      Function.update_eq_self_iff.mpr hidle.symm, List.append_assoc]
    rfl

/-- **Events.** However events and the accesses of any callers follow one another: a call returns
whether there was an event since the bit of its pin was cleared last; and a bit is cleared by none
but a call that has told of an event, so that the events it wipes out came after it told. Where no
call for a pin starts while another one is to clear its bit, a call that tells of an event tells of
one that no call has told of before. -/
theorem eventStat_told (hs : s.Quiet) {as : List (EdsAct ι)}
    (hrun : Run.run (edsStep bcmEvents h) s as = some t) :
    (∀ gpio, t.words.bit gpio = latchedBy (s.words.bit gpio) gpio t.log) ∧
      LogEach (EdsHap.Right bcmEvents h s.words.bit) t.log ∧
      (Run.Meets (edsStep bcmEvents h) (fun s a => a.Apart s) s as →
        LogEach (EdsHap.Once s.words.bit) t.log) ∧
      ∀ caller gpio, t.clearing caller = none → t.Alone bcmEvents h caller gpio := by
  have hlogged : s.Logged bcmEvents h s.words.bit := by
    refine ⟨fun gpio => ?_, fun c gpio hc => ?_, ?_⟩
    · rw [hs.log]
      rfl
    · exact absurd (hc.symm.trans (hs.clearing c)) (Option.some_ne_none gpio)
    · rw [hs.log]
      exact logEach_nil _
  have honce : s.Once s.words.bit := by
    refine ⟨fun gpio hbit _ => ?_, ?_⟩
    · rw [hs.log, hbit]
      exact Nat.one_pos
    · rw [hs.log]
      exact logEach_nil _
  have ht := Run.run_invariant (I := EdsSt.Logged bcmEvents h s.words.bit)
    (fun _ _ _ hI _ hstep => hI.step hstep) hlogged (Run.meets_true s as) hrun
  refine ⟨ht.bit, ht.right, fun hapart => ?_, fun _ gpio hidle => alone_of_idle hidle gpio⟩
  exact (Run.run_invariant (I := EdsSt.Once s.words.bit)
    (fun _ _ _ hI ha hstep => hI.step ha hstep) honce hapart hrun).once

/-- Two callers, and an event between the accesses of one of them, which it wipes out. -/
theorem eventStat_told_two :
    ∃ t : EdsSt Bool, Run.run (edsStep true ⟨some .io, true, fun _ => none⟩)
        ⟨fun _ => 0, fun _ => none, []⟩
        [.event 3, .event 40, .read false 3, .event 3, .read true 40, .clear true, .clear false,
          .read true 3] = some t ∧
      LogEach (EdsHap.Right true ⟨some .io, true, fun _ => none⟩ (Eds.bit fun _ => 0)) t.log ∧
        LogEach (EdsHap.Once (Eds.bit fun _ => 0)) t.log := by
  have hquiet : EdsSt.Quiet (⟨fun _ => 0, fun _ => none, []⟩ : EdsSt Bool) := ⟨fun _ => rfl, rfl⟩
  obtain ⟨t, hrun⟩ : ∃ t : EdsSt Bool, Run.run (edsStep true ⟨some .io, true, fun _ => none⟩)
      ⟨fun _ => 0, fun _ => none, []⟩
      [.event 3, .event 40, .read false 3, .event 3, .read true 40, .clear true, .clear false,
        .read true 3] = some t := ⟨_, rfl⟩
  have htold := eventStat_told hquiet hrun
  refine ⟨t, hrun, htold.2.1, htold.2.2.1 ?_⟩
  refine Run.meets_cons trivial rfl ?_
  refine Run.meets_cons trivial rfl ?_
  refine Run.meets_cons (fun _ => (Option.some_ne_none 3).symm) rfl ?_
  refine Run.meets_cons trivial rfl ?_
  refine Run.meets_cons (by rintro (_ | _) <;> decide) rfl ?_
  refine Run.meets_cons trivial rfl ?_
  refine Run.meets_cons trivial rfl ?_
  exact Run.meets_cons (by rintro (_ | _) <;> decide) rfl trivial

end Runs

end Librasp
