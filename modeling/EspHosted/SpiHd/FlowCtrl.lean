import EspHosted.Sdio.Throttle

/-!
# Flow control of the SPI half-duplex slave

The receive task of the slave asks the host to stop sending when its queue fills up, and the
reader task lifts that when the queue has drained. Each of the two changes `current_throttling`,
then `wifi_flow_ctrl`, and then gives the binary semaphore of `flow_ctrl_task`, which reads
`wifi_flow_ctrl` and sends a packet for it. The packets reach the host in order.

A step is one access to a flag or the semaphore.

* `settled` is the value of the host when all packets have been processed;
* `flow_ctrl_agree`: whenever nothing is under way, the host throttles exactly when the slave
  asks it to. This needs that a task writes `wifi_flow_ctrl` only while `current_throttling` has
  its value, or the other task is about to write too, and that `flow_ctrl_task` has created the
  semaphore when it is given.
-/

namespace EspHosted.SpiHd.FlowCtrl

open Machine
open Sdio.Throttle (loadPercent)

/-! ## Model -/

/-- Where a start or a stop is: before it changes `current_throttling`, changes
`wifi_flow_ctrl`, gives the semaphore. -/
inductive CallPc
  | idle
  | setThrottling
  | setFlowCtrl
  | give
  deriving DecidableEq

/-- Where `flow_ctrl_task` is: before it creates the semaphore, before it takes it, before it
reads `wifi_flow_ctrl`, before it queues the packet. -/
inductive FlowPc
  | starting
  | waiting
  | woken
  | sending (wifiFlowCtrlEn : Nat)
  deriving DecidableEq

/-- `packets` are the flow-control packets that the host has not processed, with their
`throttle_cmd`. -/
structure State where
  throttleHighThreshold : Nat
  throttleLowThreshold : Nat
  currentThrottling : Bool
  wifiFlowCtrl : Bool
  flowCtrlSem : Option Bool
  start : CallPc
  stop : CallPc
  flow : FlowPc
  packets : List Nat
  wifiTxThrottling : Bool
  deriving DecidableEq

def boot : State :=
  { throttleHighThreshold := 0, throttleLowThreshold := 0, currentThrottling := false,
    wifiFlowCtrl := false, flowCtrlSem := none, start := .idle, stop := .idle,
    flow := .starting, packets := [], wifiTxThrottling := false }

/-- `H_FLOW_CTRL_ON` and `H_FLOW_CTRL_OFF`. -/
def hFlowCtrl (on : Bool) : Nat := if on then 1 else 2

/-- `update_flow_ctrl`. -/
def updateFlowCtrl (wifiTxThrottling : Bool) (throttleCmd : Nat) : Bool :=
  if throttleCmd = hFlowCtrl true then true
  else if throttleCmd = hFlowCtrl false then false
  else wifiTxThrottling

/-- `start_rx_data_throttling_if_needed` up to its first assignment. -/
def startRxDataThrottlingIfNeeded (queueSize : Nat) (s : State) (queueLoad : Nat) : State :=
  if 0 < s.throttleHighThreshold then
    if s.currentThrottling then s
    else if s.throttleHighThreshold < loadPercent queueSize queueLoad then
      { s with start := .setThrottling }
    else s
  else s

/-- `stop_rx_data_throttling_if_needed` up to its first assignment. -/
def stopRxDataThrottlingIfNeeded (queueSize : Nat) (s : State) (queueLoad : Nat) : State :=
  if s.currentThrottling then
    if loadPercent queueSize queueLoad < s.throttleLowThreshold then
      { s with stop := .setThrottling }
    else s
  else s

/-- The rest of both: the next assignment of `value`, or `TRIGGER_FLOW_CTRL`. -/
def advance (s : State) (value : Bool) : CallPc → Option (State × CallPc)
  | .idle => none
  | .setThrottling => some ({ s with currentThrottling := value }, .setFlowCtrl)
  | .setFlowCtrl => some ({ s with wifiFlowCtrl := value }, .give)
  | .give => some ({ s with flowCtrlSem := s.flowCtrlSem.map fun _ => true }, .idle)

/-- `flow_ctrl_task`. -/
def flowCtrlTask (s : State) : Option State :=
  match s.flow with
  | .starting => some { s with flowCtrlSem := some false, flow := .waiting }
  | .waiting =>
    if s.flowCtrlSem = some true then some { s with flowCtrlSem := some false, flow := .woken }
    else none
  | .woken => some { s with flow := .sending (hFlowCtrl s.wifiFlowCtrl) }
  | .sending wifiFlowCtrlEn =>
    some { s with flow := .waiting, packets := s.packets ++ [wifiFlowCtrlEn] }

/-- The host processes the next packet. -/
def deliver (s : State) : Option State :=
  match s.packets with
  | [] => none
  | throttleCmd :: rest =>
    some { s with packets := rest
                  wifiTxThrottling := updateFlowCtrl s.wifiTxThrottling throttleCmd }

inductive Action
  | setThresholds (high low : Nat)
  | startCheck (queueLoad : Nat)
  | start
  | stopCheck (queueLoad : Nat)
  | stop
  | flow
  | deliver
  deriving DecidableEq

def step (queueSize : Nat) (s : State) : Action → Option State
  | .setThresholds high low =>
    some { s with throttleHighThreshold := high, throttleLowThreshold := low }
  | .startCheck queueLoad =>
    if s.start = .idle then some (startRxDataThrottlingIfNeeded queueSize s queueLoad) else none
  | .start => (advance s true s.start).map fun r => { r.1 with start := r.2 }
  | .stopCheck queueLoad =>
    if s.stop = .idle then some (stopRxDataThrottlingIfNeeded queueSize s queueLoad) else none
  | .stop => (advance s false s.stop).map fun r => { r.1 with stop := r.2 }
  | .flow => flowCtrlTask s
  | .deliver => deliver s

/-- Nothing is under way: no start, no stop, no token, no packet. -/
structure Quiescent (s : State) : Prop where
  start : s.start = .idle
  stop : s.stop = .idle
  sem : s.flowCtrlSem ≠ some true
  flow : s.flow = .starting ∨ s.flow = .waiting
  packets : s.packets = []

/-! ## The value the host settles on -/

/-- The packet that `flow_ctrl_task` is about to queue. -/
def FlowPc.packet : FlowPc → List Nat
  | .sending wifiFlowCtrlEn => [wifiFlowCtrlEn]
  | _ => []

/-- The flag of the host after all packets. -/
def settled (s : State) : Bool :=
  (s.packets ++ s.flow.packet).foldl updateFlowCtrl s.wifiTxThrottling

@[simp] theorem updateFlowCtrl_hFlowCtrl (throttling on : Bool) :
    updateFlowCtrl throttling (hFlowCtrl on) = on := by
  cases on <;> rfl

theorem settled_woken (s : State) :
    settled { s with flow := .sending (hFlowCtrl s.wifiFlowCtrl) } = s.wifiFlowCtrl := by
  simp [settled, FlowPc.packet]

theorem settled_send {s : State} {wifiFlowCtrlEn : Nat} (hFlow : s.flow = .sending wifiFlowCtrlEn) :
    settled { s with flow := .waiting, packets := s.packets ++ [wifiFlowCtrlEn] } = settled s := by
  simp [settled, FlowPc.packet, hFlow]

theorem settled_deliver {s : State} {throttleCmd : Nat} {rest : List Nat}
    (hPackets : s.packets = throttleCmd :: rest) :
    settled { s with packets := rest
                     wifiTxThrottling := updateFlowCtrl s.wifiTxThrottling throttleCmd } =
      settled s := by
  simp [settled, hPackets]

/-! ## What is kept -/

/-- The flow-control task is going to read `wifi_flow_ctrl` again. -/
def Pending (s : State) : Prop :=
  s.flowCtrlSem = some true ∨ s.start = .give ∨ s.stop = .give ∨ s.flow = .woken

/-- Both flags agree unless one is about to be written, and the host settles on
`wifi_flow_ctrl` unless it is about to be read. -/
structure FlowInv (s : State) : Prop where
  created : s.flow = .starting → s.flowCtrlSem = none
  flags : s.start ≠ .setFlowCtrl → s.stop ≠ .setFlowCtrl → s.wifiFlowCtrl = s.currentThrottling
  told : settled s = s.wifiFlowCtrl ∨ Pending s

/-- A task writes `wifi_flow_ctrl` while `current_throttling` has its value, or the other task is
about to write too; and the semaphore that it gives is there. -/
def CallInOrder (s : State) (value : Bool) (other : CallPc) : CallPc → Prop
  | .setFlowCtrl => s.currentThrottling = value ∨ other = .setFlowCtrl
  | .give => s.flowCtrlSem ≠ none
  | _ => True

instance (s : State) (value : Bool) (other pc : CallPc) :
    Decidable (CallInOrder s value other pc) := by
  cases pc using CallPc.casesOn <;> unfold CallInOrder <;> infer_instance

def InOrder (s : State) : Action → Prop
  | .start => CallInOrder s true s.stop s.start
  | .stop => CallInOrder s false s.start s.stop
  | _ => True

instance (s : State) (a : Action) : Decidable (InOrder s a) := by
  cases a using Action.casesOn <;> unfold InOrder <;> infer_instance

section Steps

variable {queueSize : Nat} {s s' : State}

/-- Whoever was going to wake the task still is. -/
theorem FlowInv.told_of (h : FlowInv s) (hSettled : settled s' = settled s)
    (hValue : s'.wifiFlowCtrl = s.wifiFlowCtrl)
    (hSem : s.flowCtrlSem = some true → s'.flowCtrlSem = some true)
    (hStart : s.start = .give → s'.start = .give) (hStop : s.stop = .give → s'.stop = .give)
    (hFlow : s.flow = .woken → s'.flow = .woken) :
    settled s' = s'.wifiFlowCtrl ∨ Pending s' := by
  rw [hSettled, hValue]
  exact h.told.imp id fun hPending => hPending.imp hSem (Or.imp hStart (Or.imp hStop hFlow))

theorem FlowInv.startCheck (h : FlowInv s) (hIdle : s.start = .idle) (queueLoad : Nat) :
    FlowInv (startRxDataThrottlingIfNeeded queueSize s queueLoad) := by
  unfold startRxDataThrottlingIfNeeded
  split
  · split
    · exact h
    · split
      · exact ⟨h.created, fun _ => h.flags (by simp [hIdle]),
          h.told_of rfl rfl id (by simp [hIdle]) id id⟩
      · exact h
  · exact h

theorem FlowInv.stopCheck (h : FlowInv s) (hIdle : s.stop = .idle) (queueLoad : Nat) :
    FlowInv (stopRxDataThrottlingIfNeeded queueSize s queueLoad) := by
  unfold stopRxDataThrottlingIfNeeded
  split
  · split
    · exact ⟨h.created, fun hStart _ => h.flags hStart (by simp [hIdle]),
        h.told_of rfl rfl id id (by simp [hIdle]) id⟩
    · exact h
  · exact h

theorem FlowInv.start (h : FlowInv s) (hOrder : CallInOrder s true s.stop s.start)
    (hStep : step queueSize s .start = some s') : FlowInv s' := by
  obtain ⟨r, hAdvance, rfl⟩ := Option.map_eq_some_iff.mp hStep
  cases hPc : s.start <;> rw [hPc] at hAdvance hOrder <;> cases hAdvance
  case setThrottling =>
    exact ⟨h.created, fun hStart => absurd rfl hStart,
      h.told_of rfl rfl id (by simp [hPc]) id id⟩
  case setFlowCtrl =>
    refine ⟨h.created, fun _ hStop => ?_, Or.inr (Or.inr (Or.inl rfl))⟩
    exact (hOrder.resolve_right hStop).symm
  case give =>
    obtain ⟨b, hSem⟩ := Option.ne_none_iff_exists'.mp hOrder
    refine ⟨fun hFlow => ?_, fun _ => h.flags (by simp [hPc]), Or.inr (Or.inl ?_)⟩
    · exact absurd (h.created hFlow) hOrder
    · simp [hSem]

theorem FlowInv.stop (h : FlowInv s) (hOrder : CallInOrder s false s.start s.stop)
    (hStep : step queueSize s .stop = some s') : FlowInv s' := by
  obtain ⟨r, hAdvance, rfl⟩ := Option.map_eq_some_iff.mp hStep
  cases hPc : s.stop <;> rw [hPc] at hAdvance hOrder <;> cases hAdvance
  case setThrottling =>
    exact ⟨h.created, fun _ hStop => absurd rfl hStop,
      h.told_of rfl rfl id id (by simp [hPc]) id⟩
  case setFlowCtrl =>
    refine ⟨h.created, fun hStart _ => ?_, Or.inr (Or.inr (Or.inr (Or.inl rfl)))⟩
    exact (hOrder.resolve_right hStart).symm
  case give =>
    obtain ⟨b, hSem⟩ := Option.ne_none_iff_exists'.mp hOrder
    refine ⟨fun hFlow => ?_, fun hStart _ => h.flags hStart (by simp [hPc]), Or.inr (Or.inl ?_)⟩
    · exact absurd (h.created hFlow) hOrder
    · simp [hSem]

theorem FlowInv.flow (h : FlowInv s) (hStep : flowCtrlTask s = some s') : FlowInv s' := by
  unfold flowCtrlTask at hStep
  split at hStep <;> rename_i hFlow
  · cases hStep
    have hNone := h.created hFlow
    have hSettled : settled { s with flowCtrlSem := some false, flow := .waiting } = settled s := by
      simp [settled, FlowPc.packet, hFlow]
    exact ⟨nofun, h.flags,
      h.told_of hSettled rfl (by simp [hNone]) id id (by simp [hFlow])⟩
  · simp only [Option.ite_none_right_eq_some] at hStep
    cases hStep.2
    exact ⟨nofun, h.flags, Or.inr (Or.inr (Or.inr (Or.inr rfl)))⟩
  · cases hStep
    exact ⟨nofun, h.flags, Or.inl (settled_woken s)⟩
  · cases hStep
    exact ⟨nofun, h.flags,
      h.told_of (settled_send hFlow) rfl id id id (by simp [hFlow])⟩

theorem FlowInv.deliver (h : FlowInv s) (hStep : deliver s = some s') : FlowInv s' := by
  unfold FlowCtrl.deliver at hStep
  split at hStep
  · cases hStep
  · rename_i hPackets
    cases hStep
    exact ⟨h.created, h.flags, h.told_of (settled_deliver hPackets) rfl id id id id⟩

theorem step_inv {a : Action} (h : FlowInv s) (hOrder : InOrder s a)
    (hStep : step queueSize s a = some s') : FlowInv s' := by
  cases a with
  | setThresholds high low =>
    cases hStep
    exact ⟨h.created, h.flags, h.told⟩
  | startCheck queueLoad =>
    simp only [step, Option.ite_none_right_eq_some] at hStep
    obtain ⟨hIdle, hEq⟩ := hStep
    cases hEq
    exact h.startCheck hIdle queueLoad
  | start => exact h.start hOrder hStep
  | stopCheck queueLoad =>
    simp only [step, Option.ite_none_right_eq_some] at hStep
    obtain ⟨hIdle, hEq⟩ := hStep
    cases hEq
    exact h.stopCheck hIdle queueLoad
  | stop => exact h.stop hOrder hStep
  | flow => exact h.flow hStep
  | deliver => exact h.deliver hStep

theorem boot_inv : FlowInv boot := ⟨fun _ => rfl, fun _ _ => rfl, Or.inl rfl⟩

theorem FlowInv.agree (h : FlowInv s) (hQ : Quiescent s) :
    s.wifiTxThrottling = s.currentThrottling := by
  have hNone : ¬ Pending s := by
    rintro (hSem | hStart | hStop | hFlow)
    · exact hQ.sem hSem
    · simp [hQ.start] at hStart
    · simp [hQ.stop] at hStop
    · rcases hQ.flow with hPc | hPc <;> simp [hPc] at hFlow
  have hPacket : s.flow.packet = [] := by
    rcases hQ.flow with hPc | hPc <;> rw [hPc] <;> rfl
  have hSettled : settled s = s.wifiTxThrottling := by simp [settled, hQ.packets, hPacket]
  calc s.wifiTxThrottling = settled s := hSettled.symm
    _ = s.wifiFlowCtrl := h.told.resolve_right hNone
    _ = s.currentThrottling := h.flags (by simp [hQ.start]) (by simp [hQ.stop])

/-- As long as the tasks write and give in order, the host throttles exactly when the slave asks
it to, whenever nothing is under way. -/
theorem flow_ctrl_agree (hRun : Reaches (step queueSize) InOrder boot s) (hQ : Quiescent s) :
    s.wifiTxThrottling = s.currentThrottling :=
  FlowInv.agree (hRun.invariant boot_inv fun _ _ _ => step_inv) hQ

end Steps

/-- A queue of 10 with thresholds of 80 and 60 percent fills up, and the host is told. -/
def fillUp : List Action :=
  [.flow, .setThresholds 80 60, .startCheck 9, .start, .start, .start, .flow, .flow, .flow,
    .deliver]

theorem flow_ctrl_agree_fillUp :
    ∃ s, Reaches (step 10) InOrder boot s ∧ Quiescent s ∧ s.currentThrottling = true ∧
      s.wifiTxThrottling = s.currentThrottling := by
  have hRun : ∃ s, runGuarded (step 10) InOrder boot fillUp = some s ∧ Quiescent s ∧
      s.currentThrottling = true :=
    ⟨_, rfl, ⟨rfl, rfl, nofun, Or.inr rfl, rfl⟩, rfl⟩
  obtain ⟨s, hs, hQ, hFlag⟩ := hRun
  exact ⟨s, .of_run hs, hQ, hFlag, flow_ctrl_agree (.of_run hs) hQ⟩

/-- The queue drains while the start is between its two assignments: the stop overtakes it, and
the start writes `wifi_flow_ctrl` last. -/
def overtakeStart : List Action :=
  [.flow, .setThresholds 80 60, .startCheck 9, .start, .stopCheck 1, .stop, .stop, .stop, .start,
    .start, .flow, .flow, .flow, .deliver]

theorem not_flow_ctrl_agree :
    ¬ ∀ queueSize s, Reaches (step queueSize) anyStep boot s → Quiescent s →
      s.wifiTxThrottling = s.currentThrottling := by
  intro h
  have hRun : ∃ s, run (step 10) boot overtakeStart = some s ∧ Quiescent s ∧
      s.wifiTxThrottling = true ∧ s.currentThrottling = false :=
    ⟨_, rfl, ⟨rfl, rfl, nofun, Or.inr rfl, rfl⟩, rfl, rfl⟩
  obtain ⟨s, hs, hQ, hHost, hSlave⟩ := hRun
  have hAgree := h 10 s (.of_plain_run hs) hQ
  rw [hHost, hSlave] at hAgree
  cases hAgree

end EspHosted.SpiHd.FlowCtrl
