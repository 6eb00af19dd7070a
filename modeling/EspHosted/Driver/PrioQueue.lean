import EspHosted.Lib.Machine
import EspHosted.Lib.Slots
import Mathlib.Logic.Function.Basic

/-!
# Three queues and one counting semaphore

The SDIO driver queues packets by priority: serial, bluetooth, and all others. A producer puts a
packet into its queue and then gives the semaphore; the consumer takes the semaphore and then
tries the three queues one after the other, without waiting. `esp_hosted_tx` with
`sdio_write_task` and `sdio_push_pkt_to_queue` with `sdio_process_rx_task` differ in what the
consumer does when it finds nothing.

* `served`: the consumer always finds a packet, and the packets of each priority are processed
  once each and in the order in which they were queued, for every interleaving of any number of
  producers with the consumer.
-/

namespace EspHosted.Driver.PrioQueue

open Machine

/-! ## Model -/

/-- `PRIO_Q_SERIAL`, `PRIO_Q_BT`, `PRIO_Q_OTHERS`. -/
inductive Prio
  | serial
  | bt
  | others
  deriving DecidableEq

/-- `MAX_PRIORITY_QUEUES`. -/
def maxPriorityQueues : Nat := 3

/-- The order in which a consumer tries the queues. -/
def priorities : List Prio := [.serial, .bt, .others]

theorem priorities_nodup : priorities.Nodup := by decide

theorem mem_priorities (p : Prio) : p ∈ priorities := by cases p <;> decide

def espSerialIf : Nat := 3
def espHciIf : Nat := 4

/-- `pkt_prio`. -/
def pktPrio (ifType : Nat) : Prio :=
  if ifType = espSerialIf then .serial else if ifType = espHciIf then .bt else .others

/-- `interface_buffer_handle_t`. -/
structure Handle (α : Type) where
  ifType : Nat
  packet : α

def Handle.prio {α : Type} (h : Handle α) : Prio := pktPrio h.ifType

/-- Of the transmit path, or of the receive path. -/
inductive Side
  | tx
  | rx

/-- A producer is outside, or has queued a packet and is going to give the semaphore. -/
inductive ProducerPc
  | idle
  | giving
  deriving DecidableEq

/-- The consumer waits for the semaphore, tries one of the queues, has found nothing in any, or
processes what is in `buf_handle`. -/
inductive ConsumerPc
  | waiting
  | trying (p : Prio)
  | noElement
  | processing
  deriving DecidableEq

/-- `txNeeded` is `tx_needed` of `sdio_write_task`; `bufHandle` the handle that the consumer
received last. `enqueued` and `processed` list the handles. -/
structure State (α : Type) where
  side : Side
  size : Nat
  sem : Nat
  queues : Prio → List (Handle α)
  producers : List ProducerPc
  consumer : ConsumerPc
  bufHandle : Option (Handle α)
  txNeeded : Bool
  enqueued : List (Handle α)
  processed : List (Handle α)

variable {α : Type}

def boot (side : Side) (size n : Nat) : State α :=
  { side, size, sem := 0, queues := fun _ => [], producers := List.replicate n .idle,
    consumer := .waiting, bufHandle := none, txNeeded := true, enqueued := [], processed := [] }

/-- The elements of the three queues. -/
def State.total (s : State α) : Nat :=
  (s.queues .serial).length + (s.queues .bt).length + (s.queues .others).length

/-- `h_queue_send`, which waits until there is room. -/
def enqueue (s : State α) (i : Nat) (h : Handle α) : Option (State α) :=
  if s.producers[i]? = some .idle ∧ (s.queues h.prio).length < s.size then
    some { s with queues := Function.update s.queues h.prio (s.queues h.prio ++ [h])
                  producers := s.producers.set i .giving, enqueued := s.enqueued ++ [h] }
  else none

/-- `h_sem_give`; a semaphore at its maximum stays there. -/
def give (s : State α) (i : Nat) : Option (State α) :=
  if s.producers[i]? = some .giving then
    some { s with sem := min (s.sem + 1) (s.size * maxPriorityQueues)
                  producers := s.producers.set i .idle }
  else none

/-- `h_sem_take`. -/
def take (s : State α) : Option (State α) :=
  if s.consumer = .waiting ∧ s.sem ≠ 0 then
    some { s with sem := s.sem - 1, consumer := .trying .serial }
  else none

/-- Where the consumer goes if a queue is empty. -/
def Prio.next : Prio → ConsumerPc
  | .serial => .trying .bt
  | .bt => .trying .others
  | .others => .noElement

/-- `h_queue_recv` with the timeout 0. -/
def recv (s : State α) : Option (State α) :=
  match s.consumer with
  | .trying p =>
    match s.queues p with
    | [] => some { s with consumer := p.next }
    | h :: rest =>
      some { s with queues := Function.update s.queues p rest, bufHandle := some h,
                    consumer := .processing }
  | _ => none

/-- After no queue had an element: `sdio_write_task` goes on with the old handle,
`sdio_process_rx_task` waits again. -/
def resume (s : State α) : Option (State α) :=
  if s.consumer = .noElement then
    match s.side with
    | .tx => some { s with txNeeded := false, consumer := .processing }
    | .rx => some { s with consumer := .waiting }
  else none

def finish (s : State α) : Option (State α) :=
  if s.consumer = .processing then
    some { s with processed := s.processed ++ s.bufHandle.toList, consumer := .waiting }
  else none

inductive Action (α : Type)
  | enqueue (i : Nat) (h : Handle α)
  | give (i : Nat)
  | take
  | recv
  | resume
  | finish

def step (s : State α) : Action α → Option (State α)
  | .enqueue i h => enqueue s i h
  | .give i => give s i
  | .take => take s
  | .recv => recv s
  | .resume => resume s
  | .finish => finish s

/-! ## What is kept -/

/-- The handles of one priority. -/
def ofPrio (p : Prio) (hs : List (Handle α)) : List (Handle α) := hs.filter fun h => h.prio = p

/-- The handle that is being processed. -/
def State.current (s : State α) : List (Handle α) :=
  if s.consumer = .processing then s.bufHandle.toList else []

/-- Nothing goes on without a new packet. -/
def AtRest (s : State α) : Prop := ∀ a, (∀ i h, a ≠ .enqueue i h) → step s a = none

/-- The semaphore stays below the number of elements, the consumer finds one whenever it looks
for it, and every priority is processed in order, completely when nothing goes on any more. -/
structure Served (s : State α) : Prop where
  sem_le : s.sem ≤ s.total
  found : s.consumer ≠ .noElement ∧ s.txNeeded = true
  inOrder : ∀ p, ofPrio p s.enqueued = ofPrio p (s.processed ++ s.current) ++ s.queues p
  complete : AtRest s → ∀ p, ofPrio p s.processed = ofPrio p s.enqueued

/-- The consumer has taken the semaphore for an element that it has not received. -/
def ConsumerPc.tokens : ConsumerPc → Nat
  | .trying _ | .noElement => 1
  | _ => 0

/-- The elements that the consumer still comes to. -/
def State.ahead (s : State α) : Nat :=
  match s.consumer with
  | .trying .bt => (s.queues .bt).length + (s.queues .others).length
  | .trying .others => (s.queues .others).length
  | .noElement => 0
  | _ => s.total

/-- Every element has its token, given or still to be given, and the consumer that has taken one
has an element ahead. -/
structure PrioInv (s : State α) : Prop where
  tokens : s.sem + s.producers.count .giving + s.consumer.tokens = s.total
  ahead : s.consumer.tokens ≤ s.ahead
  sizes : ∀ p, (s.queues p).length ≤ s.size
  txNeeded : s.txNeeded = true
  inOrder : ∀ p, ofPrio p s.enqueued = ofPrio p (s.processed ++ s.current) ++ s.queues p

section Steps

variable {s s' : State α}

theorem ofPrio_append (p : Prio) (hs gs : List (Handle α)) :
    ofPrio p (hs ++ gs) = ofPrio p hs ++ ofPrio p gs := List.filter_append ..

theorem ofPrio_self (h : Handle α) : ofPrio h.prio [h] = [h] := by simp [ofPrio]

theorem ofPrio_other {p : Prio} {h : Handle α} (hNe : h.prio ≠ p) : ofPrio p [h] = [] := by
  simp [ofPrio, hNe]

/-- A queue has handles of its priority only. -/
theorem PrioInv.prio_eq (h : PrioInv s) {p : Prio} {x : Handle α} (hMem : x ∈ s.queues p) :
    x.prio = p := by
  have hIn : x ∈ ofPrio p s.enqueued := by
    rw [h.inOrder p]
    exact List.mem_append_right _ hMem
  simpa [ofPrio] using (List.mem_filter.mp hIn).2

/-- More elements are no less ahead. -/
theorem ahead_mono {t : State α} (hConsumer : t.consumer = s.consumer)
    (hLe : ∀ p, (s.queues p).length ≤ (t.queues p).length) : s.ahead ≤ t.ahead := by
  have hSerial := hLe .serial
  have hBt := hLe .bt
  have hOthers := hLe .others
  unfold State.ahead State.total
  rw [hConsumer]
  split <;> omega

/-- Putting a handle into its queue. -/
theorem length_enqueue (s : State α) (h : Handle α) (p : Prio) :
    (Function.update s.queues h.prio (s.queues h.prio ++ [h]) p).length =
      (s.queues p).length + if p = h.prio then 1 else 0 := by
  by_cases hEq : p = h.prio
  · subst hEq
    simp
  · rw [Function.update_of_ne hEq, if_neg hEq, Nat.add_zero]

theorem enqueue_inv (h : PrioInv s) {i : Nat} {x : Handle α} (hStep : enqueue s i x = some s') :
    PrioInv s' := by
  simp only [enqueue, Option.ite_none_right_eq_some] at hStep
  obtain ⟨⟨hPc, hRoom⟩, hEq⟩ := hStep
  cases hEq
  have hGiving := Slots.count_set_add (b := ProducerPc.giving) ProducerPc.giving hPc
  simp only [reduceCtorEq, if_false, if_true] at hGiving
  have hTokens := h.tokens
  have hAhead := h.ahead
  have hTotal : (if Prio.serial = x.prio then 1 else 0) + (if Prio.bt = x.prio then 1 else 0) +
      (if Prio.others = x.prio then 1 else 0) = 1 := by
    cases x.prio <;> simp
  refine ⟨?_, ?_, fun p => ?_, h.txNeeded, fun p => ?_⟩
  · simp only [State.total, length_enqueue] at hTokens ⊢
    omega
  · refine Nat.le_trans hAhead (ahead_mono rfl fun p => ?_)
    rw [length_enqueue]
    omega
  · show _ ≤ s.size
    rw [length_enqueue]
    have hSize := h.sizes p
    split
    · rename_i hEq
      subst hEq
      omega
    · omega
  · show ofPrio p (s.enqueued ++ [x]) = ofPrio p (s.processed ++ s.current) ++
      Function.update s.queues x.prio (s.queues x.prio ++ [x]) p
    rw [ofPrio_append, h.inOrder p, List.append_assoc]
    by_cases hEq : p = x.prio
    · subst hEq
      rw [ofPrio_self, Function.update_self]
    · rw [ofPrio_other (Ne.symm hEq), Function.update_of_ne hEq, List.append_nil]

theorem give_inv (h : PrioInv s) {i : Nat} (hStep : give s i = some s') : PrioInv s' := by
  simp only [give, Option.ite_none_right_eq_some] at hStep
  obtain ⟨hPc, hEq⟩ := hStep
  cases hEq
  have hGiving := Slots.count_set_add (b := ProducerPc.idle) ProducerPc.giving hPc
  simp only [reduceCtorEq, if_false, if_true] at hGiving
  have hTokens := h.tokens
  have hSerial := h.sizes .serial
  have hBt := h.sizes .bt
  have hOthers := h.sizes .others
  -- the semaphore has room: its tokens are at most as many as there are elements
  have hMax : s.sem + 1 ≤ s.size * maxPriorityQueues := by
    unfold State.total at hTokens
    unfold maxPriorityQueues
    omega
  refine { h with tokens := ?_ }
  show min (s.sem + 1) (s.size * maxPriorityQueues) +
    (s.producers.set i .idle).count .giving + s.consumer.tokens = s.total
  rw [Nat.min_eq_left hMax]
  omega

theorem take_inv (h : PrioInv s) (hStep : take s = some s') : PrioInv s' := by
  simp only [take, Option.ite_none_right_eq_some] at hStep
  obtain ⟨⟨hConsumer, hSem⟩, hEq⟩ := hStep
  cases hEq
  have hTokens := h.tokens
  have hOrder := h.inOrder
  rw [hConsumer] at hTokens
  simp only [ConsumerPc.tokens] at hTokens
  refine { h with tokens := ?_, ahead := ?_, inOrder := fun p => ?_ }
  · show s.sem - 1 + s.producers.count .giving + 1 = s.total
    omega
  · show 1 ≤ s.total
    omega
  · have hCurrent : s.current = [] := by simp [State.current, hConsumer]
    have hOld := hOrder p
    rw [hCurrent] at hOld
    exact hOld

/-- The consumer finds the queue empty. -/
theorem recv_empty_inv (h : PrioInv s) {p : Prio} (hConsumer : s.consumer = .trying p)
    (hEmpty : s.queues p = []) : PrioInv { s with consumer := p.next } := by
  have hTokens := h.tokens
  have hAhead := h.ahead
  have hCurrent : s.current = [] := by simp [State.current, hConsumer]
  have hNext : State.current { s with consumer := p.next } = [] := by
    cases p <;> rfl
  have hOne : p.next.tokens = 1 := by cases p <;> rfl
  rw [hConsumer] at hTokens hAhead
  simp only [ConsumerPc.tokens] at hTokens hAhead
  refine { h with tokens := ?_, ahead := ?_, inOrder := fun q => ?_ }
  · show s.sem + s.producers.count .giving + p.next.tokens = s.total
    omega
  · show p.next.tokens ≤ _
    rw [hOne]
    have hLen : (s.queues p).length = 0 := by rw [hEmpty]; rfl
    cases p <;> simp only [State.ahead, State.total, hConsumer, Prio.next] at hAhead ⊢ <;> omega
  · have hOld := h.inOrder q
    rw [hCurrent] at hOld
    rw [hNext]
    exact hOld

/-- The consumer receives the first handle of a queue. -/
theorem recv_some_inv (h : PrioInv s) {p : Prio} {x : Handle α} {rest : List (Handle α)}
    (hConsumer : s.consumer = .trying p) (hQueue : s.queues p = x :: rest) :
    PrioInv { s with queues := Function.update s.queues p rest, bufHandle := some x,
                     consumer := .processing } := by
  have hTokens := h.tokens
  have hCurrent : s.current = [] := by simp [State.current, hConsumer]
  have hPrio : x.prio = p := h.prio_eq (hQueue ▸ List.mem_cons_self)
  have hLen : ∀ q, (Function.update s.queues p rest q).length + (if q = p then 1 else 0) =
      (s.queues q).length := by
    intro q
    by_cases hEq : q = p
    · subst hEq
      rw [Function.update_self, if_pos rfl, hQueue]
      rfl
    · rw [Function.update_of_ne hEq, if_neg hEq, Nat.add_zero]
  have hOne : (if Prio.serial = p then 1 else 0) + (if Prio.bt = p then 1 else 0) +
      (if Prio.others = p then 1 else 0) = 1 := by
    cases p <;> simp
  have hSerial := hLen .serial
  have hBt := hLen .bt
  have hOthers := hLen .others
  rw [hConsumer] at hTokens
  simp only [ConsumerPc.tokens, State.total] at hTokens
  refine { h with
    tokens := ?_, ahead := Nat.zero_le _, sizes := fun q => ?_,
    inOrder := fun q => ?_ }
  · simp only [State.total, ConsumerPc.tokens]
    omega
  · have hSize := h.sizes q
    have hLess := hLen q
    show (Function.update s.queues p rest q).length ≤ s.size
    omega
  · have hOld := h.inOrder q
    rw [hCurrent, List.append_nil] at hOld
    show ofPrio q s.enqueued =
      ofPrio q (s.processed ++ [x]) ++ Function.update s.queues p rest q
    rw [ofPrio_append, hOld]
    by_cases hEq : q = p
    · subst hEq
      rw [← hPrio, ofPrio_self, hPrio, hQueue, Function.update_self, List.append_assoc]
      rfl
    · rw [ofPrio_other (by rw [hPrio]; exact Ne.symm hEq), Function.update_of_ne hEq,
        List.append_nil]

theorem recv_inv (h : PrioInv s) (hStep : recv s = some s') : PrioInv s' := by
  unfold recv at hStep
  split at hStep
  · rename_i p hConsumer
    split at hStep
    · rename_i hEmpty
      cases hStep
      exact recv_empty_inv h hConsumer hEmpty
    · rename_i x rest hQueue
      cases hStep
      exact recv_some_inv h hConsumer hQueue
  · cases hStep

/-- The consumer never finds nothing. -/
theorem PrioInv.found (h : PrioInv s) : s.consumer ≠ .noElement := by
  intro hConsumer
  have hAhead := h.ahead
  rw [hConsumer] at hAhead
  simp [State.ahead, hConsumer, ConsumerPc.tokens] at hAhead

theorem finish_inv (h : PrioInv s) (hStep : finish s = some s') : PrioInv s' := by
  simp only [finish, Option.ite_none_right_eq_some] at hStep
  obtain ⟨hConsumer, hEq⟩ := hStep
  cases hEq
  have hTokens := h.tokens
  rw [hConsumer] at hTokens
  have hCurrent : s.current = s.bufHandle.toList := if_pos hConsumer
  refine { h with tokens := hTokens, ahead := Nat.zero_le _, inOrder := fun p => ?_ }
  have hOld := h.inOrder p
  rw [hCurrent] at hOld
  show ofPrio p s.enqueued = ofPrio p ((s.processed ++ s.bufHandle.toList) ++ []) ++ s.queues p
  rw [List.append_nil]
  exact hOld

theorem step_inv {a : Action α} (h : PrioInv s) (hStep : step s a = some s') : PrioInv s' := by
  cases a with
  | enqueue i x => exact enqueue_inv h hStep
  | give i => exact give_inv h hStep
  | take => exact take_inv h hStep
  | recv => exact recv_inv h hStep
  | resume =>
    simp only [step, resume, Option.ite_none_right_eq_some] at hStep
    exact absurd hStep.1 h.found
  | finish => exact finish_inv h hStep

theorem boot_inv (side : Side) (size n : Nat) : PrioInv (boot side size n : State α) := by
  have hNone : (List.replicate n ProducerPc.idle).count .giving = 0 :=
    List.count_eq_zero.mpr fun hMem => absurd (List.eq_of_mem_replicate hMem) nofun
  refine ⟨?_, Nat.zero_le _, fun p => Nat.zero_le _, rfl, fun p => rfl⟩
  show 0 + (List.replicate n ProducerPc.idle).count .giving + 0 = 0
  rw [hNone]

/-- If nothing goes on without a new packet, the queues are empty. -/
theorem PrioInv.complete (h : PrioInv s) (hRest : AtRest s) (p : Prio) :
    ofPrio p s.processed = ofPrio p s.enqueued := by
  have hGiving : s.producers.count .giving = 0 := by
    refine List.count_eq_zero.mpr fun hMem => ?_
    obtain ⟨i, hi⟩ := List.mem_iff_getElem?.mp hMem
    have hGive := hRest (.give i) nofun
    simp [step, give, hi] at hGive
  have hWaiting : s.consumer = .waiting := by
    cases hConsumer : s.consumer with
    | waiting => rfl
    | trying p =>
      have hRecv := hRest .recv nofun
      simp only [step, recv, hConsumer] at hRecv
      split at hRecv <;> cases hRecv
    | noElement => exact absurd hConsumer h.found
    | processing =>
      have hFinish := hRest .finish nofun
      simp [step, finish, hConsumer] at hFinish
  have hSem : s.sem = 0 := by
    have hTake := hRest .take nofun
    simpa [step, take, hWaiting] using hTake
  have hTokens := h.tokens
  rw [hGiving, hSem, hWaiting] at hTokens
  have hEmpty : s.queues p = [] := by
    rw [← List.length_eq_zero_iff]
    simp only [ConsumerPc.tokens, State.total] at hTokens
    cases p <;> omega
  have hOrder := h.inOrder p
  rw [hEmpty, State.current, if_neg (by rw [hWaiting]; nofun)] at hOrder
  simpa using hOrder.symm

/-- For every interleaving of any number of producers with the consumer, the semaphore never
exceeds the number of elements, the consumer that takes it finds an element, and every handle
is processed once and in the order of its priority. -/
theorem served {side : Side} {size n : Nat} (hRun : Reaches step anyStep (boot side size n) s) :
    Served s := by
  have h : PrioInv s := hRun.invariant (boot_inv side size n) fun _ _ _ hu _ => step_inv hu
  have hTokens := h.tokens
  exact ⟨by omega, ⟨h.found, h.txNeeded⟩, h.inOrder, h.complete⟩

end Steps

/-- A serial packet overtakes another one. -/
theorem served_overtaken :
    ∃ s : State Nat, Reaches step anyStep (boot .tx 20 2) s ∧
      s.processed.map (·.packet) = [8, 7] ∧ Served s := by
  obtain ⟨s, hs, hView⟩ := Option.map_eq_some_iff.mp
    (show (run step (boot .tx 20 2) [.enqueue 0 ⟨1, 7⟩, .enqueue 1 ⟨3, 8⟩, .give 0, .give 1, .take,
      .recv, .finish, .take, .recv, .recv, .recv, .finish]).map
      (fun s => s.processed.map (·.packet)) = some [8, 7] by decide +kernel)
  exact ⟨s, .of_plain_run hs, hView, served (.of_plain_run hs)⟩

end EspHosted.Driver.PrioQueue
