import Mathlib.Tactic.MkIffOfInductiveProp
import EspHosted.Lib.Machine

/-!
# Flow control of the SDIO slave

The slave asks the host to stop and resume Wi-Fi traffic with two interrupts. It raises
`HOST_INT_START_THROTTLE` when its receive queue fills up and `HOST_INT_STOP_THROTTLE` when
the queue has drained, and remembers the last request in `current_throttling`. Both
interrupts are sticky bits of one raw register: the host reads the register, clears what it
read and applies START before STOP.

The two checks of the slave run in different tasks, and each changes the flag before it
raises its interrupt. The host's `sdio_read_task` takes one action per register access.

* `settled` is the value the host ends with when nothing more is raised;
* `throttleInv_step_iff`: the steps that keep it in agreement with the slave are exactly
  those of `OrderKept`;
* `throttling_agree`: along such steps the two sides agree whenever nothing is pending;
* `not_throttling_agree`: a STOP and a START that one read finds together are applied in
  the wrong order.
-/

namespace EspHosted.Sdio.Throttle

open Machine

/-- Where `sdio_read_task` is: waiting for an interrupt, or with the START and STOP bits it
read still to be cleared, then applied one after the other. -/
inductive ReadPc
  | waiting
  | latched (start stop : Bool)
  | cleared (start stop : Bool)
  | startApplied (stop : Bool)
  deriving DecidableEq

/-- `startSending` and `stopSending` mark a slave task between the change of
`current_throttling` and its interrupt. -/
structure State where
  throttleHighThreshold : Nat
  throttleLowThreshold : Nat
  currentThrottling : Bool
  startSending : Bool
  stopSending : Bool
  intStartThrottle : Bool
  intStopThrottle : Bool
  pc : ReadPc
  wifiTxThrottling : Bool
  deriving DecidableEq

inductive Action
  | setThresholds (high low : Nat)
  | startCheck (queueLoad : Nat)
  | startSend
  | stopCheck (queueLoad : Nat)
  | stopSend
  | readRegs (ok : Bool)
  | clearIntr (ok : Bool)
  | applyStart
  | applyStop
  deriving DecidableEq

/-- Fill level of the receive queue in percent, as the slave computes it: 32-bit
arithmetic, the result cut to 8 bits. -/
def loadPercent (sdioNumRxBuffers queueLoad : Nat) : Nat :=
  queueLoad * 100 % 2 ^ 32 / sdioNumRxBuffers % 2 ^ 8

/-- `start_rx_data_throttling_if_needed` up to its interrupt. -/
def startRxDataThrottlingIfNeeded (sdioNumRxBuffers : Nat) (s : State) (queueLoad : Nat) :
    State :=
  if 0 < s.throttleHighThreshold then
    if s.currentThrottling then s
    else if s.throttleHighThreshold < loadPercent sdioNumRxBuffers queueLoad then
      { s with currentThrottling := true, startSending := true }
    else s
  else s

/-- `stop_rx_data_throttling_if_needed` up to its interrupt. -/
def stopRxDataThrottlingIfNeeded (sdioNumRxBuffers : Nat) (s : State) (queueLoad : Nat) :
    State :=
  if s.currentThrottling then
    if loadPercent sdioNumRxBuffers queueLoad < s.throttleLowThreshold then
      { s with currentThrottling := false, stopSending := true }
    else s
  else s

/-- One action of the slave's tasks or of `sdio_read_task`. A failed register read starts
the loop again; the result of `sdio_clear_intr` is ignored. -/
def step (sdioNumRxBuffers : Nat) (s : State) : Action → Option State
  | .setThresholds high low =>
    some { s with throttleHighThreshold := high, throttleLowThreshold := low }
  | .startCheck queueLoad =>
    if s.startSending then none
    else some (startRxDataThrottlingIfNeeded sdioNumRxBuffers s queueLoad)
  | .startSend =>
    if s.startSending then some { s with startSending := false, intStartThrottle := true }
    else none
  | .stopCheck queueLoad =>
    if s.stopSending then none
    else some (stopRxDataThrottlingIfNeeded sdioNumRxBuffers s queueLoad)
  | .stopSend =>
    if s.stopSending then some { s with stopSending := false, intStopThrottle := true }
    else none
  | .readRegs ok =>
    match s.pc with
    | .waiting =>
      if ok then some { s with pc := .latched s.intStartThrottle s.intStopThrottle }
      else some s
    | _ => none
  | .clearIntr ok =>
    match s.pc with
    | .latched start stop =>
      if ok then
        some { s with
          intStartThrottle := s.intStartThrottle && !start
          intStopThrottle := s.intStopThrottle && !stop
          pc := .cleared start stop }
      else some { s with pc := .cleared start stop }
    | _ => none
  | .applyStart =>
    match s.pc with
    | .cleared start stop =>
      some { s with wifiTxThrottling := start || s.wifiTxThrottling, pc := .startApplied stop }
    | _ => none
  | .applyStop =>
    match s.pc with
    | .startApplied stop =>
      some { s with wifiTxThrottling := !stop && s.wifiTxThrottling, pc := .waiting }
    | _ => none

/-- Both sides after power-on. -/
def boot : State := ⟨0, 0, false, false, false, false, false, .waiting, false⟩

/-- Everything raised has been handled and nothing is about to be raised. -/
def Quiescent (s : State) : Prop :=
  s.pc = .waiting ∧ s.intStartThrottle = false ∧ s.intStopThrottle = false ∧
    s.startSending = false ∧ s.stopSending = false

/-! ## The value the host settles on -/

namespace ReadPc

/-- START was read and its clear is still due. -/
def startRead : ReadPc → Bool
  | .latched start _ => start
  | _ => false

def stopRead : ReadPc → Bool
  | .latched _ stop => stop
  | _ => false

/-- The host's flag at the end of the current iteration. -/
def finish (flag : Bool) : ReadPc → Bool
  | .waiting => flag
  | .latched start stop | .cleared start stop => !stop && (start || flag)
  | .startApplied stop => !stop && flag

theorem finish_of_stopRead {pc : ReadPc} (flag : Bool) (h : pc.stopRead = true) :
    pc.finish flag = false := by
  cases pc with
  | latched start stop =>
    simp only [stopRead] at h
    simp [finish, h]
  | waiting | cleared | startApplied => cases h

theorem finish_of_startRead {pc : ReadPc} (flag : Bool) (h : pc.startRead = true) :
    pc.finish flag = !pc.stopRead := by
  cases pc with
  | latched start stop =>
    simp only [startRead] at h
    simp [finish, stopRead, h]
  | waiting | cleared | startApplied => cases h

end ReadPc

/-- The START bit as the clear that is due will leave it. -/
def State.startLeft (s : State) : Bool := s.intStartThrottle && !s.pc.startRead

def State.stopLeft (s : State) : Bool := s.intStopThrottle && !s.pc.stopRead

/-- The host's flag after it has finished the current iteration and one more. -/
def settled (s : State) : Bool :=
  !s.stopLeft && (s.startLeft || s.pc.finish s.wifiTxThrottling)

/-- What the host settles on, by the interrupts the slave has still to raise: none, then it
is the slave's flag; one, then it is the value before; both, then the flag tells which of
them came first. The bits that were read and not yet cleared are still set. -/
@[mk_iff throttleInv_iff]
structure ThrottleInv (s : State) : Prop where
  start_held : s.pc.startRead = true → s.intStartThrottle = true
  stop_held : s.pc.stopRead = true → s.intStopThrottle = true
  agree : settled s = (s.currentThrottling ^^ (s.startSending ^^ s.stopSending))
  start_set : s.startSending = true → s.stopSending = false → s.currentThrottling = true
  stop_set : s.stopSending = true → s.startSending = false → s.currentThrottling = false

/-- The START interrupt is raised before a STOP of the other task that is about to be
raised, with no STOP left unread, and not between a read that saw START and its clear. -/
def State.StartInOrder (s : State) : Prop :=
  (s.stopSending = true → s.currentThrottling = false) ∧ s.stopLeft = false ∧
    s.pc.startRead = false

/-- The STOP interrupt is raised before a START of the other task that is about to be
raised, and not between a read that saw STOP and its clear. -/
def State.StopInOrder (s : State) : Prop :=
  (s.startSending = true → s.currentThrottling = true) ∧ s.pc.stopRead = false

/-- The steps that keep the order of the requests: interrupts are raised in order, and a
clear fails only when it does not leave a STOP that was read beside a START that was not. -/
def OrderKept (s : State) : Action → Prop
  | .startSend => s.StartInOrder
  | .stopSend => s.StopInOrder
  | .clearIntr false => s.pc.stopRead = true → s.startLeft = false
  | _ => True

instance (s : State) : (a : Action) → Decidable (OrderKept s a)
  | .startSend => inferInstanceAs (Decidable (_ ∧ _))
  | .stopSend => inferInstanceAs (Decidable (_ ∧ _))
  | .clearIntr false => inferInstanceAs (Decidable (_ → _))
  | .clearIntr true | .setThresholds .. | .startCheck _ | .stopCheck _ | .readRegs _
  | .applyStart | .applyStop => .isTrue trivial

/-! ### The slave's tasks -/

variable {n : Nat}

theorem startCheck_inv {s : State} {q : Nat} (hSend : s.startSending = false)
    (hInv : ThrottleInv s) : ThrottleInv (startRxDataThrottlingIfNeeded n s q) := by
  unfold startRxDataThrottlingIfNeeded
  split
  · split
    · exact hInv
    · rename_i hFlag
      simp only [Bool.not_eq_true] at hFlag
      split
      · have hAgree := hInv.agree
        simp only [hFlag, hSend, Bool.false_bne] at hAgree
        refine ⟨hInv.start_held, hInv.stop_held, ?_, fun _ _ => rfl, fun _ h => by cases h⟩
        simpa [settled, State.startLeft, State.stopLeft] using hAgree
      · exact hInv
  · exact hInv

theorem stopCheck_inv {s : State} {q : Nat} (hSend : s.stopSending = false)
    (hInv : ThrottleInv s) : ThrottleInv (stopRxDataThrottlingIfNeeded n s q) := by
  unfold stopRxDataThrottlingIfNeeded
  split
  · rename_i hFlag
    split
    · have hAgree := hInv.agree
      simp only [hFlag, hSend, Bool.xor_false] at hAgree
      refine ⟨hInv.start_held, hInv.stop_held, ?_, fun _ h => (by cases h), fun _ _ => rfl⟩
      simpa [settled, State.startLeft, State.stopLeft] using hAgree
    · exact hInv
  · exact hInv

/-- Raising START settles the host on the slave's flag exactly when it is in order. What
matters of the host is which bits it holds and the value it will finish with. -/
theorem startSend_inv_iff {s : State} (hSend : s.startSending = true) (hInv : ThrottleInv s) :
    ThrottleInv { s with startSending := false, intStartThrottle := true } ↔
      s.StartInOrder := by
  have hStop := @ReadPc.finish_of_stopRead s.pc s.wifiTxThrottling
  have hStart := @ReadPc.finish_of_startRead s.pc s.wifiTxThrottling
  simp only [throttleInv_iff, State.StartInOrder, settled, State.startLeft, State.stopLeft,
    hSend] at hInv ⊢
  generalize s.pc.finish s.wifiTxThrottling = f at *
  generalize s.pc.startRead = sr at *
  generalize s.pc.stopRead = tr at *
  grind

theorem stopSend_inv_iff {s : State} (hSend : s.stopSending = true) (hInv : ThrottleInv s) :
    ThrottleInv { s with stopSending := false, intStopThrottle := true } ↔ s.StopInOrder := by
  have hStop := @ReadPc.finish_of_stopRead s.pc s.wifiTxThrottling
  have hStart := @ReadPc.finish_of_startRead s.pc s.wifiTxThrottling
  simp only [throttleInv_iff, State.StopInOrder, settled, State.startLeft, State.stopLeft,
    hSend] at hInv ⊢
  generalize s.pc.finish s.wifiTxThrottling = f at *
  generalize s.pc.startRead = sr at *
  generalize s.pc.stopRead = tr at *
  grind

/-! ### The host's read task -/

theorem readRegs_inv {s : State} (hPc : s.pc = .waiting) (hInv : ThrottleInv s) :
    ThrottleInv { s with pc := .latched s.intStartThrottle s.intStopThrottle } := by
  have hAgree := hInv.agree
  refine ⟨id, id, ?_, hInv.start_set, hInv.stop_set⟩
  simp only [settled, State.startLeft, State.stopLeft, hPc] at hAgree ⊢
  simpa [ReadPc.startRead, ReadPc.stopRead, ReadPc.finish] using hAgree

theorem clearIntr_inv {s : State} {start stop : Bool} (hPc : s.pc = .latched start stop)
    (hInv : ThrottleInv s) :
    ThrottleInv { s with
      intStartThrottle := s.intStartThrottle && !start
      intStopThrottle := s.intStopThrottle && !stop
      pc := .cleared start stop } := by
  have hAgree := hInv.agree
  refine ⟨fun h => (by cases h), fun h => (by cases h), ?_, hInv.start_set, hInv.stop_set⟩
  simp only [settled, State.startLeft, State.stopLeft, hPc] at hAgree ⊢
  simpa [ReadPc.startRead, ReadPc.stopRead, ReadPc.finish] using hAgree

/-- A clear that fails leaves the bits to be read again. -/
theorem clearIntr_failed_inv_iff {s : State} {start stop : Bool}
    (hPc : s.pc = .latched start stop) (hInv : ThrottleInv s) :
    ThrottleInv { s with pc := .cleared start stop } ↔
      (s.pc.stopRead = true → s.startLeft = false) := by
  simp only [throttleInv_iff, settled, State.startLeft, State.stopLeft, hPc,
    ReadPc.startRead, ReadPc.stopRead, ReadPc.finish] at hInv ⊢
  grind

theorem applyStart_inv {s : State} {start stop : Bool} (hPc : s.pc = .cleared start stop)
    (hInv : ThrottleInv s) :
    ThrottleInv { s with
      wifiTxThrottling := start || s.wifiTxThrottling, pc := .startApplied stop } := by
  have hAgree := hInv.agree
  refine ⟨fun h => (by cases h), fun h => (by cases h), ?_, hInv.start_set, hInv.stop_set⟩
  simp only [settled, State.startLeft, State.stopLeft, hPc] at hAgree
  exact hAgree

theorem applyStop_inv {s : State} {stop : Bool} (hPc : s.pc = .startApplied stop)
    (hInv : ThrottleInv s) :
    ThrottleInv { s with wifiTxThrottling := !stop && s.wifiTxThrottling, pc := .waiting } := by
  have hAgree := hInv.agree
  refine ⟨fun h => (by cases h), fun h => (by cases h), ?_, hInv.start_set, hInv.stop_set⟩
  simp only [settled, State.startLeft, State.stopLeft, hPc] at hAgree
  exact hAgree

/-! ### Both sides -/

/-- The steps that keep the host bound to settle on the slave's flag are exactly those of
`OrderKept`. -/
theorem throttleInv_step_iff {s s' : State} {a : Action} (hInv : ThrottleInv s)
    (h : step n s a = some s') : ThrottleInv s' ↔ OrderKept s a := by
  cases a with
  | setThresholds high low =>
    cases h
    refine iff_of_true ?_ trivial
    exact ⟨hInv.start_held, hInv.stop_held, hInv.agree, hInv.start_set, hInv.stop_set⟩
  | startCheck q =>
    simp only [step] at h
    split at h
    · cases h
    · rename_i hSend
      cases h
      exact iff_of_true (startCheck_inv (Bool.not_eq_true _ ▸ hSend) hInv) trivial
  | startSend =>
    simp only [step] at h
    split at h
    · rename_i hSend
      cases h
      exact startSend_inv_iff hSend hInv
    · cases h
  | stopCheck q =>
    simp only [step] at h
    split at h
    · cases h
    · rename_i hSend
      cases h
      exact iff_of_true (stopCheck_inv (Bool.not_eq_true _ ▸ hSend) hInv) trivial
  | stopSend =>
    simp only [step] at h
    split at h
    · rename_i hSend
      cases h
      exact stopSend_inv_iff hSend hInv
    · cases h
  | readRegs ok =>
    refine iff_of_true ?_ trivial
    simp only [step] at h
    split at h
    · rename_i hPc
      split at h
      · cases h
        exact readRegs_inv hPc hInv
      · cases h
        exact hInv
    · cases h
  | clearIntr ok =>
    simp only [step] at h
    split at h
    · rename_i hPc
      cases ok with
      | true =>
        cases h
        exact iff_of_true (clearIntr_inv hPc hInv) trivial
      | false =>
        cases h
        exact clearIntr_failed_inv_iff hPc hInv
    · cases h
  | applyStart =>
    refine iff_of_true ?_ trivial
    simp only [step] at h
    split at h
    · rename_i hPc
      cases h
      exact applyStart_inv hPc hInv
    · cases h
  | applyStop =>
    refine iff_of_true ?_ trivial
    simp only [step] at h
    split at h
    · rename_i hPc
      cases h
      exact applyStop_inv hPc hInv
    · cases h

theorem boot_inv : ThrottleInv boot :=
  ⟨fun h => (by cases h), fun h => (by cases h), rfl, fun h => (by cases h),
    fun h => (by cases h)⟩

theorem ThrottleInv.agree_of_quiescent {s : State} (hInv : ThrottleInv s) (hQ : Quiescent s) :
    s.wifiTxThrottling = s.currentThrottling := by
  obtain ⟨hPc, hStart, hStop, hStartSend, hStopSend⟩ := hQ
  have hAgree := hInv.agree
  simpa [settled, State.startLeft, State.stopLeft, hPc, hStart, hStop, hStartSend,
    hStopSend, ReadPc.finish] using hAgree

/-- Flow control agreement: along steps of `OrderKept`, whenever everything raised has been
handled, the host throttles exactly when the slave asks it to. -/
theorem throttling_agree {s : State} (hRun : Reaches (step n) OrderKept boot s)
    (hQ : Quiescent s) : s.wifiTxThrottling = s.currentThrottling :=
  ThrottleInv.agree_of_quiescent
    (hRun.invariant boot_inv fun _ _ _ hInv hKept hStep =>
      (throttleInv_step_iff hInv hStep).mpr hKept) hQ

/-! ### START and STOP read together -/

/-- With 20 receive buffers and thresholds of 80 and 60 percent, the queue fills up, and the
host reads the request to stop sending. -/
def fillUp : List Action :=
  [.setThresholds 80 60, .startCheck 20, .startSend, .readRegs true, .clearIntr true,
    .applyStart, .applyStop]

theorem throttling_agree_fillUp :
    ∃ s, runGuarded (step 20) OrderKept boot fillUp = some s ∧ s.currentThrottling = true ∧
      s.wifiTxThrottling = s.currentThrottling := by
  have hRun : ∃ s, runGuarded (step 20) OrderKept boot fillUp = some s ∧
      s.currentThrottling = true ∧ Quiescent s := by
    refine ⟨_, rfl, rfl, rfl, rfl, rfl, rfl, rfl⟩
  obtain ⟨s, hs, hFlag, hQ⟩ := hRun
  exact ⟨s, hs, hFlag, throttling_agree (.of_run hs) hQ⟩

/-- The queue drains and fills up again before the host's next read: both bits are set, and
STOP is applied last. -/
def drainAndFill : List Action :=
  fillUp ++ ([.stopCheck 0, .stopSend, .startCheck 20, .startSend, .readRegs true,
    .clearIntr true, .applyStart, .applyStop] : List Action)

theorem not_throttling_agree :
    ¬ ∀ s, Reaches (step 20) anyStep boot s → Quiescent s →
      s.wifiTxThrottling = s.currentThrottling := by
  intro h
  have hRun : ∃ s, run (step 20) boot drainAndFill = some s ∧ Quiescent s ∧
      s.wifiTxThrottling = false ∧ s.currentThrottling = true :=
    ⟨_, rfl, ⟨rfl, rfl, rfl, rfl, rfl⟩, rfl, rfl⟩
  obtain ⟨s, hs, hQ, hHost, hSlave⟩ := hRun
  have hAgree := h s (.of_plain_run hs) hQ
  rw [hHost, hSlave] at hAgree
  cases hAgree

end EspHosted.Sdio.Throttle
