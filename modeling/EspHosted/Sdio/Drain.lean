import EspHosted.Driver.PrioQueue
import EspHosted.Sdio.Throttle

/-!
# Draining the receive queues of the SDIO slave

`sdio_rx_task` tests the fill level of the queue `PRIO_Q_OTHERS` before it queues a packet, and
asks the host to stop when the level is above the high threshold. `sdio_read` tests it after it
has taken a packet from any of the queues, and lets the host go on when the level is below the low
threshold. The thresholds come from the host. `host_to_slave_reconfig` runs in the task that calls
`sdio_read`, and copies them without a look at their values.

A step is one access to a queue, the semaphore or the flag, or one interrupt.

* `Inv`, `step_inv`: what the steps of `Stoppable` preserve;
* `drained_calm`: along them the slave does not throttle when the queue is drained;
* `not_drained_calm`: with a low threshold of 0 it does, and `throttling_forever` says that it
  then never stops.
-/

namespace EspHosted.Sdio.Drain

open Machine
open Driver.PrioQueue (Prio)
open Throttle (loadPercent)

/-! ## Model -/

/-- `HOST_INT_START_THROTTLE` and `HOST_INT_STOP_THROTTLE`. -/
inductive HostInt
  | start
  | stop
  deriving DecidableEq

/-- Where `sdio_rx_task` is with a packet: before `current_throttling = 1`, before the interrupt,
before `xQueueSend`, before `xSemaphoreGive`. -/
inductive RxPc
  | idle
  | setting (p : Prio)
  | raising (p : Prio)
  | queueing (p : Prio)
  | giving
  deriving DecidableEq

/-- Where `sdio_read` is: outside, before it tries a queue, before it computes the load, before
`current_throttling = 0`, before the interrupt. -/
inductive ReadPc
  | idle
  | trying (p : Prio)
  | received
  | clearing
  | raising
  deriving DecidableEq

def RxPc.isSetting : RxPc → Bool
  | .setting _ => true
  | _ => false

def RxPc.isRaising : RxPc → Bool
  | .raising _ => true
  | _ => false

/-- `rxQueue` are the numbers of packets in `sdio_rx_queue`, and `lastInt` is the last interrupt
for flow control. -/
structure State where
  throttleHighThreshold : UInt8
  throttleLowThreshold : UInt8
  currentThrottling : Bool
  lastInt : Option HostInt
  rxQueue : Prio → Nat
  rxSem : Nat
  rxPc : RxPc
  readPc : ReadPc

def boot : State :=
  { throttleHighThreshold := 0, throttleLowThreshold := 0, currentThrottling := false
    lastInt := none, rxQueue := fun _ => 0, rxSem := 0, rxPc := .idle, readPc := .idle }

inductive Action
  | reconfig (high low : UInt8)
  | rxPacket (p : Prio)
  | setFlag
  | raiseStart
  | queuePacket
  | giveSem
  | takeSem
  | tryQueue
  | checkLoad
  | clearFlag
  | raiseStop
  deriving DecidableEq

/-- `host_to_slave_reconfig`, for an event with both thresholds. -/
def reconfig (s : State) (high low : UInt8) : Option State :=
  match s.readPc with
  | .idle => some { s with throttleHighThreshold := high, throttleLowThreshold := low }
  | _ => none

/-- A valid packet, and `start_rx_data_throttling_if_needed` up to the flag. -/
def rxPacket (sdioNumRxBuffers : Nat) (s : State) (p : Prio) : Option State :=
  match s.rxPc with
  | .idle =>
    if 0 < s.throttleHighThreshold ∧ s.currentThrottling = false ∧
        s.throttleHighThreshold.toNat < loadPercent sdioNumRxBuffers (s.rxQueue .others) then
      some { s with rxPc := .setting p }
    else some { s with rxPc := .queueing p }
  | _ => none

def setFlag (s : State) : Option State :=
  match s.rxPc with
  | .setting p => some { s with currentThrottling := true, rxPc := .raising p }
  | _ => none

def raiseStart (s : State) : Option State :=
  match s.rxPc with
  | .raising p => some { s with lastInt := some .start, rxPc := .queueing p }
  | _ => none

/-- `xQueueSend` blocks while the queue is full. -/
def queuePacket (sdioNumRxBuffers : Nat) (s : State) : Option State :=
  match s.rxPc with
  | .queueing p =>
    if s.rxQueue p < sdioNumRxBuffers then
      some { s with rxQueue := Function.update s.rxQueue p (s.rxQueue p + 1), rxPc := .giving }
    else none
  | _ => none

def giveSem (s : State) : Option State :=
  match s.rxPc with
  | .giving => some { s with rxSem := s.rxSem + 1, rxPc := .idle }
  | _ => none

/-- The start of `sdio_read`. -/
def takeSem (s : State) : Option State :=
  match s.readPc with
  | .idle =>
    if 0 < s.rxSem then some { s with rxSem := s.rxSem - 1, readPc := .trying .serial } else none
  | _ => none

/-- After one of the queues was empty; behind the last one `sdio_read` fails. -/
def afterEmpty : Prio → ReadPc
  | .serial => .trying .bt
  | .bt => .trying .others
  | .others => .idle

/-- `xQueueReceive` without waiting. -/
def tryQueue (s : State) : Option State :=
  match s.readPc with
  | .trying p =>
    if s.rxQueue p = 0 then some { s with readPc := afterEmpty p }
    else some { s with
      rxQueue := Function.update s.rxQueue p (s.rxQueue p - 1), readPc := .received }
  | _ => none

/-- `stop_rx_data_throttling_if_needed` up to the flag. -/
def checkLoad (sdioNumRxBuffers : Nat) (s : State) : Option State :=
  match s.readPc with
  | .received =>
    if s.currentThrottling = true ∧
        loadPercent sdioNumRxBuffers (s.rxQueue .others) < s.throttleLowThreshold.toNat then
      some { s with readPc := .clearing }
    else some { s with readPc := .idle }
  | _ => none

def clearFlag (s : State) : Option State :=
  match s.readPc with
  | .clearing => some { s with currentThrottling := false, readPc := .raising }
  | _ => none

def raiseStop (s : State) : Option State :=
  match s.readPc with
  | .raising => some { s with lastInt := some .stop, readPc := .idle }
  | _ => none

def step (sdioNumRxBuffers : Nat) (s : State) : Action → Option State
  | .reconfig high low => reconfig s high low
  | .rxPacket p => rxPacket sdioNumRxBuffers s p
  | .setFlag => setFlag s
  | .raiseStart => raiseStart s
  | .queuePacket => queuePacket sdioNumRxBuffers s
  | .giveSem => giveSem s
  | .takeSem => takeSem s
  | .tryQueue => tryQueue s
  | .checkLoad => checkLoad sdioNumRxBuffers s
  | .clearFlag => clearFlag s
  | .raiseStop => raiseStop s

/-! ## What is promised, and when -/

/-- `sdio_read` has left the queue empty, and returned. -/
def Drained (s : State) : Prop := s.rxQueue .others = 0 ∧ s.readPc = .idle

/-- The host is not asked to stop. -/
def Calm (s : State) : Prop := s.currentThrottling = false ∧ s.lastInt ≠ some .start

/-- Every pair of thresholds asks for flow control. -/
def FlowControlled (_ : State) : Action → Prop
  | .reconfig high _ => high ≠ 0
  | _ => True

instance (s : State) : (a : Action) → Decidable (FlowControlled s a)
  | .reconfig high _ => inferInstanceAs (Decidable (high ≠ 0))
  | .rxPacket _ | .setFlag | .raiseStart | .queuePacket | .giveSem | .takeSem | .tryQueue
  | .checkLoad | .clearFlag | .raiseStop => .isTrue trivial

/-- A pair of thresholds has a low one above 0, unless it switches flow control off while it is
idle. The flag is set while the queue that was found full still has a packet, or `sdio_read` has yet
to look. The host is not let go between the flag and the interrupt of `sdio_rx_task`. -/
def Stoppable (s : State) : Action → Prop
  | .reconfig high low =>
    s.currentThrottling = true ∨ s.rxPc.isSetting = true ∨ high ≠ 0 → low ≠ 0
  | .setFlag => 0 < s.rxQueue .others ∨ s.readPc = .received
  | .raiseStop => s.rxPc.isRaising = false
  | _ => True

instance (s : State) : (a : Action) → Decidable (Stoppable s a)
  | .reconfig .. => inferInstanceAs (Decidable (_ → _))
  | .setFlag => inferInstanceAs (Decidable (_ ∨ _))
  | .raiseStop => inferInstanceAs (Decidable (_ = _))
  | .rxPacket _ | .raiseStart | .queuePacket | .giveSem | .takeSem | .tryQueue | .checkLoad
  | .clearFlag => .isTrue trivial

/-! ## The invariant -/

/-- A slave that throttles has a packet that `sdio_read` will take, or `sdio_read` is about to
decide, and then a low threshold that an empty queue is below. -/
structure Inv (s : State) : Prop where
  low : s.currentThrottling = true ∨ s.rxPc.isSetting = true ∨ s.throttleHighThreshold ≠ 0 →
    s.throttleLowThreshold ≠ 0
  held : s.currentThrottling = true →
    0 < s.rxQueue .others ∨ s.readPc = .received ∨ s.readPc = .clearing
  raising : s.rxPc.isRaising = true → s.currentThrottling = true ∨ s.readPc = .raising
  last : s.lastInt = some .start → s.currentThrottling = true ∨ s.readPc = .raising

variable {n : Nat} {s s' : State}

theorem boot_inv : Inv boot := by
  refine ⟨?_, nofun, nofun, nofun⟩
  rintro (h | h | h)
  · cases h
  · cases h
  · exact absurd rfl h

theorem loadPercent_zero (n : Nat) : loadPercent n 0 = 0 := by simp [loadPercent]

/-! ### `sdio_rx_task` -/

theorem rxPacket_inv {p : Prio} (h : Inv s) (hStep : rxPacket n s p = some s') : Inv s' := by
  unfold rxPacket at hStep
  split at hStep
  · split at hStep
    · rename_i hStart
      cases hStep
      have hHigh : s.throttleHighThreshold ≠ 0 := fun hZero => by
        rw [hZero] at hStart
        exact absurd hStart.1 (by decide)
      exact ⟨fun _ => h.low (.inr (.inr hHigh)), h.held, nofun, h.last⟩
    · cases hStep
      refine ⟨?_, h.held, nofun, h.last⟩
      rintro (hFlag | hPc | hHigh)
      · exact h.low (.inl hFlag)
      · cases hPc
      · exact h.low (.inr (.inr hHigh))
  · cases hStep

theorem setFlag_inv (h : Inv s) (hGuard : Stoppable s .setFlag) (hStep : setFlag s = some s') :
    Inv s' := by
  unfold setFlag at hStep
  split at hStep
  · rename_i hPc
    cases hStep
    refine ⟨fun _ => h.low (.inr (.inl (by rw [hPc]; rfl))), fun _ => ?_, fun _ => .inl rfl,
      fun _ => .inl rfl⟩
    exact hGuard.imp id .inl
  · cases hStep

theorem raiseStart_inv (h : Inv s) (hStep : raiseStart s = some s') : Inv s' := by
  unfold raiseStart at hStep
  split at hStep
  · rename_i hPc
    cases hStep
    refine ⟨?_, h.held, nofun, fun _ => h.raising (by rw [hPc]; rfl)⟩
    rintro (hFlag | hSetting | hHigh)
    · exact h.low (.inl hFlag)
    · cases hSetting
    · exact h.low (.inr (.inr hHigh))
  · cases hStep

theorem queuePacket_inv (h : Inv s) (hStep : queuePacket n s = some s') : Inv s' := by
  unfold queuePacket at hStep
  split at hStep
  · rename_i p hPc
    split at hStep
    · cases hStep
      refine ⟨?_, fun hFlag => ?_, nofun, h.last⟩
      · rintro (hFlag | hSetting | hHigh)
        · exact h.low (.inl hFlag)
        · cases hSetting
        · exact h.low (.inr (.inr hHigh))
      · refine (h.held hFlag).imp (fun hSome => ?_) id
        dsimp only
        rw [Function.update_apply]
        split
        · exact Nat.succ_pos _
        · exact hSome
    · cases hStep
  · cases hStep

theorem giveSem_inv (h : Inv s) (hStep : giveSem s = some s') : Inv s' := by
  unfold giveSem at hStep
  split at hStep
  · cases hStep
    refine ⟨?_, h.held, nofun, h.last⟩
    rintro (hFlag | hSetting | hHigh)
    · exact h.low (.inl hFlag)
    · cases hSetting
    · exact h.low (.inr (.inr hHigh))
  · cases hStep

/-! ### `sdio_read` -/

theorem reconfig_inv {high low : UInt8} (h : Inv s) (hGuard : Stoppable s (.reconfig high low))
    (hStep : reconfig s high low = some s') : Inv s' := by
  unfold reconfig at hStep
  split at hStep
  · cases hStep
    exact ⟨hGuard, h.held, h.raising, h.last⟩
  · cases hStep

theorem takeSem_inv (h : Inv s) (hStep : takeSem s = some s') : Inv s' := by
  unfold takeSem at hStep
  split at hStep
  · rename_i hPc
    split at hStep
    · cases hStep
      have hOut : s.readPc ≠ .raising := by
        rw [hPc]
        nofun
      refine ⟨h.low, fun hFlag => ?_, fun hRx => ?_, fun hLast => ?_⟩
      · have hHeld := h.held hFlag
        simp only [hPc, reduceCtorEq, or_false] at hHeld
        exact .inl hHeld
      · exact .inl ((h.raising hRx).resolve_right hOut)
      · exact .inl ((h.last hLast).resolve_right hOut)
    · cases hStep
  · cases hStep

theorem tryQueue_inv (h : Inv s) (hStep : tryQueue s = some s') : Inv s' := by
  unfold tryQueue at hStep
  split at hStep
  · rename_i p hPc
    have hOut : s.readPc ≠ .raising := by
      rw [hPc]
      nofun
    split at hStep
    · cases hStep
      refine ⟨h.low, fun hFlag => ?_, fun hRx => ?_, fun hLast => ?_⟩
      · have hHeld := h.held hFlag
        simp only [hPc, reduceCtorEq, or_false] at hHeld
        exact .inl hHeld
      · exact .inl ((h.raising hRx).resolve_right hOut)
      · exact .inl ((h.last hLast).resolve_right hOut)
    · cases hStep
      exact ⟨h.low, fun _ => .inr (.inl rfl),
        fun hRx => .inl ((h.raising hRx).resolve_right hOut),
        fun hLast => .inl ((h.last hLast).resolve_right hOut)⟩
  · cases hStep

/-- A slave that goes on throttling has a packet left: an empty queue is below the threshold. -/
theorem checkLoad_inv (h : Inv s) (hStep : checkLoad n s = some s') : Inv s' := by
  unfold checkLoad at hStep
  split at hStep
  · rename_i hPc
    have hOut : s.readPc ≠ .raising := by
      rw [hPc]
      nofun
    split at hStep
    · cases hStep
      exact ⟨h.low, fun _ => .inr (.inr rfl),
        fun hRx => .inl ((h.raising hRx).resolve_right hOut),
        fun hLast => .inl ((h.last hLast).resolve_right hOut)⟩
    · rename_i hLoad
      cases hStep
      refine ⟨h.low, fun hFlag => .inl ?_,
        fun hRx => .inl ((h.raising hRx).resolve_right hOut),
        fun hLast => .inl ((h.last hLast).resolve_right hOut)⟩
      by_contra hNone
      have hEmpty : s.rxQueue .others = 0 := Nat.eq_zero_of_not_pos hNone
      have hLow : s.throttleLowThreshold.toNat ≠ 0 := fun hZero =>
        h.low (.inl hFlag) (UInt8.toNat_inj.mp hZero)
      refine hLoad ⟨hFlag, ?_⟩
      rw [hEmpty, loadPercent_zero]
      exact Nat.pos_of_ne_zero hLow
  · cases hStep

theorem clearFlag_inv (h : Inv s) (hStep : clearFlag s = some s') : Inv s' := by
  unfold clearFlag at hStep
  split at hStep
  · cases hStep
    refine ⟨?_, nofun, fun _ => .inr rfl, fun _ => .inr rfl⟩
    rintro (hFlag | hRest)
    · cases hFlag
    · exact h.low (.inr hRest)
  · cases hStep

theorem raiseStop_inv (h : Inv s) (hGuard : Stoppable s .raiseStop)
    (hStep : raiseStop s = some s') : Inv s' := by
  unfold raiseStop at hStep
  split at hStep
  · rename_i hPc
    cases hStep
    refine ⟨h.low, fun hFlag => ?_, fun hRx => ?_, nofun⟩
    · have hHeld := h.held hFlag
      simp only [hPc, reduceCtorEq, or_false] at hHeld
      exact .inl hHeld
    · rw [show s.rxPc.isRaising = false from hGuard] at hRx
      cases hRx
  · cases hStep

theorem step_inv {a : Action} (h : Inv s) (hGuard : Stoppable s a)
    (hStep : step n s a = some s') : Inv s' := by
  cases a with
  | reconfig high low => exact reconfig_inv h hGuard hStep
  | rxPacket p => exact rxPacket_inv h hStep
  | setFlag => exact setFlag_inv h hGuard hStep
  | raiseStart => exact raiseStart_inv h hStep
  | queuePacket => exact queuePacket_inv h hStep
  | giveSem => exact giveSem_inv h hStep
  | takeSem => exact takeSem_inv h hStep
  | tryQueue => exact tryQueue_inv h hStep
  | checkLoad => exact checkLoad_inv h hStep
  | clearFlag => exact clearFlag_inv h hStep
  | raiseStop => exact raiseStop_inv h hGuard hStep

theorem Inv.calm (h : Inv s) (hDrained : Drained s) : Calm s := by
  obtain ⟨hEmpty, hPc⟩ := hDrained
  have hFlag : s.currentThrottling = false := by
    by_contra hSet
    rw [Bool.not_eq_false] at hSet
    have hHeld := h.held hSet
    simp only [hEmpty, hPc, reduceCtorEq, or_false] at hHeld
    exact absurd hHeld (by decide)
  refine ⟨hFlag, fun hLast => ?_⟩
  have hSet := h.last hLast
  simp only [hFlag, hPc, reduceCtorEq, or_false] at hSet

/-- Throttling ends before the queue is drained. -/
theorem drained_calm (hRun : Reaches (step n) Stoppable boot s) (hDrained : Drained s) : Calm s :=
  (hRun.invariant boot_inv fun _ _ _ => step_inv).calm hDrained

/-- One packet through `sdio_rx_task`, with and without a request to stop. -/
def arrive : List Action := [.rxPacket .others, .queuePacket, .giveSem]
def arriveFull : List Action := [.rxPacket .others, .setFlag, .raiseStart, .queuePacket, .giveSem]

/-- One packet of `PRIO_Q_OTHERS` through `sdio_read`. -/
def read : List Action := [.takeSem, .tryQueue, .tryQueue, .tryQueue, .checkLoad]

/-- With two buffers and thresholds of 40 and 20 percent, the second packet starts throttling. -/
theorem drained_calm_twoPackets : ∃ s, Reaches (step 2) Stoppable boot s ∧
    s.lastInt = some .stop ∧ Drained s ∧ Calm s := by
  obtain ⟨s, hs, hLast, hEmpty, hPc⟩ : ∃ s, runGuarded (step 2) Stoppable boot
      (List.flatten [[.reconfig 40 20], arrive, arriveFull, read, read,
        [.clearFlag, .raiseStop]]) = some s ∧
      s.lastInt = some .stop ∧ s.rxQueue .others = 0 ∧ s.readPc = .idle :=
    ⟨_, rfl, rfl, rfl, rfl⟩
  exact ⟨s, .of_run hs, hLast, ⟨hEmpty, hPc⟩, drained_calm (.of_run hs) ⟨hEmpty, hPc⟩⟩

/-! ## A low threshold of 0 -/

/-- Every pair of thresholds has a low one of 0. -/
def ZeroLow (_ : State) : Action → Prop
  | .reconfig _ low => low = 0
  | _ => True

/-- The flag is set, and `sdio_read` finds no load below the threshold. -/
structure Throttled (s : State) : Prop where
  flag : s.currentThrottling = true
  low : s.throttleLowThreshold = 0
  notClearing : s.readPc ≠ .clearing

theorem throttled_step {a : Action} (h : Throttled s) (hGuard : ZeroLow s a)
    (hStep : step n s a = some s') : Throttled s' := by
  obtain ⟨hFlag, hLow, hPc⟩ := h
  cases a with
  | reconfig high low =>
    simp only [step, reconfig] at hStep
    split at hStep <;> cases hStep
    exact ⟨hFlag, hGuard, hPc⟩
  | rxPacket p =>
    simp only [step, rxPacket] at hStep
    split at hStep
    · split at hStep <;> cases hStep <;> exact ⟨hFlag, hLow, hPc⟩
    · cases hStep
  | setFlag =>
    simp only [step, setFlag] at hStep
    split at hStep <;> cases hStep
    exact ⟨rfl, hLow, hPc⟩
  | raiseStart =>
    simp only [step, raiseStart] at hStep
    split at hStep <;> cases hStep
    exact ⟨hFlag, hLow, hPc⟩
  | queuePacket =>
    simp only [step, queuePacket] at hStep
    split at hStep
    · split at hStep <;> cases hStep
      exact ⟨hFlag, hLow, hPc⟩
    · cases hStep
  | giveSem =>
    simp only [step, giveSem] at hStep
    split at hStep <;> cases hStep
    exact ⟨hFlag, hLow, hPc⟩
  | takeSem =>
    simp only [step, takeSem] at hStep
    split at hStep
    · split at hStep <;> cases hStep
      exact ⟨hFlag, hLow, nofun⟩
    · cases hStep
  | tryQueue =>
    simp only [step, tryQueue] at hStep
    split at hStep
    · rename_i p _
      split at hStep <;> cases hStep
      · exact ⟨hFlag, hLow, by cases p <;> nofun⟩
      · exact ⟨hFlag, hLow, nofun⟩
    · cases hStep
  | checkLoad =>
    simp only [step, checkLoad] at hStep
    split at hStep
    · split at hStep
      · rename_i hLoad
        rw [hLow] at hLoad
        exact absurd hLoad.2 (Nat.not_lt_zero _)
      · cases hStep
        exact ⟨hFlag, hLow, nofun⟩
    · cases hStep
  | clearFlag =>
    rw [step, clearFlag] at hStep
    split at hStep
    · rename_i hClearing
      exact absurd hClearing hPc
    · cases hStep
  | raiseStop =>
    simp only [step, raiseStop] at hStep
    split at hStep <;> cases hStep
    exact ⟨hFlag, hLow, nofun⟩

/-- Whatever is queued and read, a slave that throttles with a low threshold of 0 goes on. -/
theorem throttling_forever {t : State} (h : Throttled s) (hRun : Reaches (step n) ZeroLow s t) :
    t.currentThrottling = true :=
  (hRun.invariant h fun _ _ _ => throttled_step).flag

/-- Both packets are read and the slave still throttles. -/
theorem not_drained_calm :
    ¬ ∀ n s, Reaches (step n) FlowControlled boot s → Drained s → Calm s := by
  intro h
  obtain ⟨s, hs, hFlag, hDrained⟩ : ∃ s, runGuarded (step 2) FlowControlled boot
      ([.reconfig 40 0] ++ arrive ++ arriveFull ++ read ++ read) = some s ∧
        s.currentThrottling = true ∧ Drained s :=
    ⟨_, rfl, rfl, rfl, rfl⟩
  have hCalm := (h 2 s (.of_run hs) hDrained).1
  rw [hFlag] at hCalm
  cases hCalm

end EspHosted.Sdio.Drain
