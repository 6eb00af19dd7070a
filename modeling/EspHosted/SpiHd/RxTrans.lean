import EspHosted.Driver.PrioQueue
import Mathlib.Data.List.Nodup

/-!
# Receive transactions of the SPI half-duplex slave

`spi_hd_rx_task` loads the driver with transactions when it starts. From then on they go round:
the driver finishes one, the task looks at what was received, and either gives it back to the
driver or queues it for the reader, which gives it back with `spi_hd_read_done`. A transaction
that the driver does not take back is freed.

The result of `spi_slave_hd_get_trans_res` is in `res`, and the task tests `ret`, which is never
set. So after a failure it goes on with the transaction of the round before.

* `owned_step_iff`: a step keeps every transaction in one place exactly if it is not a failed
  `spi_slave_hd_get_trans_res`;
* `one_place`: so along runs without one each transaction is in one place, or was freed once.
-/

namespace EspHosted.SpiHd.RxTrans

open Machine
open Driver.PrioQueue (Prio pktPrio)

/-! ## Model -/

/-- What a transaction has received: `trans_len`, the fields of the header that are looked at, and
whether the checksum is right. -/
structure Received where
  transLen : Nat
  len : Nat
  offset : Nat
  ifType : Nat
  checksumOk : Bool

/-- The checks of `spi_hd_rx_task`. -/
def Received.accepted (d : Received) : Bool :=
  d.transLen ≠ 0 && d.len + d.offset ≤ d.transLen % 2 ^ 16 && d.checksumOk

/-- Where `spi_hd_rx_task` is: before `spi_slave_hd_get_trans_res`, behind it, before it gives the
transaction back, before it queues it, before it gives `spi_hd_rx_sem`. -/
inductive TaskPc
  | waiting
  | processing (d : Received)
  | returning
  | queueing (p : Prio)
  | giving

/-- Transactions are known by numbers. `driver` are those that the driver has, the first of them
the next to finish, `held` those in the buffer handles of the reader, and `freed` those whose
buffer and descriptor are back in the pools. -/
structure State where
  driver : List Nat
  retTrans : Option Nat
  pc : TaskPc
  rxQueue : Prio → List Nat
  rxSem : Nat
  held : List Nat
  freed : List Nat
  faulted : Bool

/-- The numbers of the results that are `b`. -/
def numbered (b : Bool) (results : List Bool) : List Nat :=
  (List.range results.length).filter fun i => results[i]? = some b

/-- The driver has taken the transactions for which `spi_slave_hd_queue_trans` succeeded. -/
def boot (results : List Bool) : State :=
  { driver := numbered true results, retTrans := none, pc := .waiting, rxQueue := fun _ => [],
    rxSem := 0, held := [], freed := numbered false results, faulted := false }

inductive Action
  | getTransRes (d : Received)
  | getFails (d : Received)
  | process
  | giveBack (queued : Bool)
  | queueRx
  | giveSem
  | read
  | readDone (t : Nat) (queued : Bool)

def getTransRes (s : State) (d : Received) : Option State :=
  match s.pc, s.driver with
  | .waiting, t :: rest => some { s with driver := rest, retTrans := some t, pc := .processing d }
  | _, _ => none

/-- A failure leaves `ret_trans` alone. The task goes on, with whatever that descriptor holds. -/
def getFails (s : State) (d : Received) : Option State :=
  match s.pc, s.retTrans with
  | .waiting, some _ => some { s with pc := .processing d }
  | .waiting, none => some { s with faulted := true }
  | _, _ => none

def process (s : State) : Option State :=
  match s.pc with
  | .processing d =>
    some { s with pc := if d.accepted then .queueing (pktPrio d.ifType) else .returning }
  | _ => none

/-- `spi_hd_read_done`. -/
def State.readDone (s : State) (t : Nat) (queued : Bool) : State :=
  if queued then { s with driver := s.driver ++ [t] } else { s with freed := s.freed ++ [t] }

/-- `spi_hd_read_done` in the task. -/
def giveBack (s : State) (queued : Bool) : Option State :=
  match s.pc, s.retTrans with
  | .returning, some t => some (State.readDone { s with pc := .waiting } t queued)
  | _, _ => none

/-- `xQueueSend`, which waits until there is room. -/
def queueRx (size : Nat) (s : State) : Option State :=
  match s.pc, s.retTrans with
  | .queueing p, some t =>
    if (s.rxQueue p).length < size then
      some { s with rxQueue := Function.update s.rxQueue p (s.rxQueue p ++ [t]), pc := .giving }
    else none
  | _, _ => none

def giveSem (s : State) : Option State :=
  match s.pc with
  | .giving => some { s with rxSem := s.rxSem + 1, pc := .waiting }
  | _ => none

/-- The first packet of a queue is received. -/
def State.receive (s : State) (p : Prio) : Option State :=
  match s.rxQueue p with
  | [] => none
  | t :: rest =>
    some { s with rxQueue := Function.update s.rxQueue p rest, held := s.held ++ [t] }

/-- `esp_spi_hd_read`. -/
def read (s : State) : Option State :=
  if s.rxSem = 0 then none
  else
    let s := { s with rxSem := s.rxSem - 1 }
    some (((s.receive .serial <|> s.receive .bt) <|> s.receive .others).getD s)

/-- `spi_hd_read_done` as the completion callback of the reader. -/
def readDone (s : State) (t : Nat) (queued : Bool) : Option State :=
  if t ∈ s.held then some (State.readDone { s with held := s.held.erase t } t queued) else none

def step (size : Nat) (s : State) (a : Action) : Option State :=
  if s.faulted then none
  else
    match a with
    | .getTransRes d => getTransRes s d
    | .getFails d => getFails s d
    | .process => process s
    | .giveBack queued => giveBack s queued
    | .queueRx => queueRx size s
    | .giveSem => giveSem s
    | .read => read s
    | .readDone t queued => readDone s t queued

/-! ## Places -/

/-- The transaction that the task is processing. -/
def State.processed (s : State) : List Nat :=
  match s.pc with
  | .waiting | .giving => []
  | .processing _ | .returning | .queueing _ => s.retTrans.toList

def queued (q : Prio → List Nat) : List Nat := q .serial ++ q .bt ++ q .others

def State.places (s : State) : List Nat :=
  s.driver ++ s.processed ++ queued s.rxQueue ++ s.held

/-- Each of the `n` transactions is in one place, or was freed once. -/
structure Owned (n : Nat) (s : State) : Prop where
  once : ∀ t, s.places.count t + s.freed.count t = (List.range n).count t
  running : s.faulted = false

/-- `spi_slave_hd_get_trans_res` succeeds. -/
def Succeeds (_ : State) : Action → Prop
  | .getFails _ => False
  | _ => True

instance (s : State) : (a : Action) → Decidable (Succeeds s a)
  | .getFails _ => .isFalse id
  | .getTransRes _ | .process | .giveBack _ | .queueRx | .giveSem | .read | .readDone .. =>
    .isTrue trivial

/-! ## Steps -/

/-- The task remembers only transactions that were preloaded. -/
structure Inv (n : Nat) (s : State) : Prop extends Owned n s where
  known : ∀ t ∈ s.retTrans, t < n

variable {size n : Nat} {s s' : State} {t : Nat} {d : Received}

theorem count_numbered (b : Bool) (results : List Bool) (t : Nat) :
    (numbered b results).count t = if results[t]? = some b then 1 else 0 := by
  have hNodup : (numbered b results).Nodup := List.Nodup.filter _ List.nodup_range
  rw [hNodup.count, numbered]
  have hMem : t ∈ (List.range results.length).filter (fun i => results[i]? = some b) ↔
      results[t]? = some b := by
    simp only [List.mem_filter, List.mem_range, decide_eq_true_eq, and_iff_right_iff_imp]
    intro h
    exact (List.getElem?_eq_some_iff.mp h).1
  simp only [hMem]

theorem boot_inv (results : List Bool) : Inv results.length (boot results) := by
  refine ⟨⟨fun t => ?_, rfl⟩, nofun⟩
  have hDriver := count_numbered true results t
  have hFreed := count_numbered false results t
  have hRange := (List.nodup_range (n := results.length)).count (a := t)
  simp only [List.mem_range] at hRange
  simp only [boot, State.places, State.processed, queued, List.append_nil]
  rw [hDriver, hFreed, hRange]
  by_cases hLt : t < results.length
  · cases hGet : results[t] <;> simp [hLt, hGet]
  · simp [hLt]

/-- A step that moves transactions between places and `freed`. -/
theorem Inv.moved (h : Inv n s)
    (hCount : ∀ t, s'.places.count t + s'.freed.count t = s.places.count t + s.freed.count t)
    (hKnown : ∀ t ∈ s'.retTrans, t < n) (hRunning : s'.faulted = s.faulted) : Inv n s' :=
  ⟨⟨fun t => (hCount t).trans (h.once t), hRunning.trans h.running⟩, hKnown⟩

theorem lt_of_mem_places (h : Owned n s) (hMem : t ∈ s.places) : t < n := by
  have hOnce := h.once t
  have hPos := List.count_pos_iff.mpr hMem
  exact List.mem_range.mp (List.count_pos_iff.mp (by omega))

theorem getTransRes_inv (h : Inv n s) (hStep : getTransRes s d = some s') : Inv n s' := by
  unfold getTransRes at hStep
  split at hStep
  · rename_i t rest hPc hDriver
    cases hStep
    refine h.moved (fun k => ?_) ?_ rfl
    · simp only [State.places, State.processed, hPc, hDriver, Option.toList_some,
        List.count_append, List.count_cons, List.count_nil]
      omega
    · intro k hMem
      rw [← Option.some.inj hMem]
      exact lt_of_mem_places h.toOwned (by simp [State.places, hDriver])
  · cases hStep

theorem process_inv (h : Inv n s) (hStep : process s = some s') : Inv n s' := by
  unfold process at hStep
  split at hStep
  · rename_i d hPc
    cases hStep
    refine h.moved (fun k => ?_) h.known rfl
    simp only [State.places, State.processed, hPc]
    cases d.accepted <;> rfl
  · cases hStep

/-- `spi_hd_read_done` puts a transaction back that was in a place. -/
theorem count_readDone (s : State) (t : Nat) (queued : Bool) (k : Nat) :
    (s.readDone t queued).places.count k + (s.readDone t queued).freed.count k =
      s.places.count k + s.freed.count k + [t].count k := by
  unfold State.readDone
  cases queued <;>
  · simp only [State.places, State.processed, List.count_append, Bool.false_eq_true, if_false,
      if_true]
    omega

theorem readDone_kept (s : State) (t : Nat) (queued : Bool) :
    (s.readDone t queued).retTrans = s.retTrans ∧ (s.readDone t queued).faulted = s.faulted := by
  unfold State.readDone
  cases queued <;> exact ⟨rfl, rfl⟩

theorem giveBack_inv {queued : Bool} (h : Inv n s) (hStep : giveBack s queued = some s') :
    Inv n s' := by
  unfold giveBack at hStep
  split at hStep
  · rename_i t hPc hTrans
    cases hStep
    obtain ⟨hRet, hFault⟩ := readDone_kept { s with pc := .waiting } t queued
    refine h.moved (fun k => ?_) (by rw [hRet]; exact h.known) hFault
    rw [count_readDone]
    simp only [State.places, State.processed, hPc, hTrans, Option.toList_some, List.count_append,
      List.count_nil]
    omega
  · cases hStep

theorem count_queued_update (q : Prio → List Nat) (p : Prio) (ts : List Nat) (k : Nat) :
    (queued (Function.update q p ts)).count k + (q p).count k =
      (queued q).count k + ts.count k := by
  cases p <;>
  · simp only [queued, Function.update_self, ne_eq, reduceCtorEq, not_false_eq_true,
      Function.update_of_ne, List.count_append]
    omega

theorem queueRx_inv (h : Inv n s) (hStep : queueRx size s = some s') : Inv n s' := by
  unfold queueRx at hStep
  split at hStep
  · rename_i p t hPc hTrans
    split at hStep
    · cases hStep
      refine h.moved (fun k => ?_) h.known rfl
      have hQueued := count_queued_update s.rxQueue p (s.rxQueue p ++ [t]) k
      simp only [State.places, State.processed, hPc, hTrans, Option.toList_some,
        List.count_append, List.count_nil] at hQueued ⊢
      omega
    · cases hStep
  · cases hStep

theorem giveSem_inv (h : Inv n s) (hStep : giveSem s = some s') : Inv n s' := by
  unfold giveSem at hStep
  split at hStep
  · rename_i hPc
    cases hStep
    refine h.moved (fun k => ?_) h.known rfl
    simp only [State.places, State.processed, hPc]
  · cases hStep

/-- A packet that is received moves into a buffer handle. -/
theorem receive_inv {p : Prio} (h : Inv n s) (hReceive : s.receive p = some s') : Inv n s' := by
  unfold State.receive at hReceive
  split at hReceive
  · cases hReceive
  · rename_i t rest hQueue
    cases hReceive
    refine h.moved (fun k => ?_) h.known rfl
    have hQueued := count_queued_update s.rxQueue p rest k
    rw [hQueue, List.count_cons] at hQueued
    simp only [State.places, State.processed, List.count_append, List.count_cons,
      List.count_nil] at hQueued ⊢
    omega

theorem read_inv (h : Inv n s) (hStep : read s = some s') : Inv n s' := by
  unfold read at hStep
  split at hStep
  · cases hStep
  · cases hStep
    have hTaken : Inv n { s with rxSem := s.rxSem - 1 } := h.moved (fun _ => rfl) h.known rfl
    cases hFound : (({ s with rxSem := s.rxSem - 1 } : State).receive .serial <|>
        ({ s with rxSem := s.rxSem - 1 } : State).receive .bt) <|>
        ({ s with rxSem := s.rxSem - 1 } : State).receive .others with
    | none => exact hTaken
    | some u =>
      rw [Option.orElse_eq_orElse, Option.orElse_eq_or, Option.or_eq_some_iff] at hFound
      rcases hFound with hFound | ⟨-, hFound⟩
      · rw [Option.orElse_eq_or, Option.or_eq_some_iff] at hFound
        rcases hFound with hFound | ⟨-, hFound⟩
        · exact receive_inv hTaken hFound
        · exact receive_inv hTaken hFound
      · exact receive_inv hTaken hFound

theorem readDone_inv {queued : Bool} (h : Inv n s) (hStep : readDone s t queued = some s') :
    Inv n s' := by
  unfold readDone at hStep
  split at hStep
  · rename_i hHeld
    cases hStep
    obtain ⟨hRet, hFault⟩ := readDone_kept { s with held := s.held.erase t } t queued
    refine h.moved (fun k => ?_) (by rw [hRet]; exact h.known) hFault
    rw [count_readDone]
    have hErase := (List.perm_cons_erase hHeld).count_eq k
    simp only [State.places, State.processed, List.count_append, List.count_cons,
      List.count_nil] at hErase ⊢
    omega
  · cases hStep

theorem step_inv {a : Action} (h : Inv n s) (hStep : step size s a = some s')
    (hSucceeds : Succeeds s a) : Inv n s' := by
  unfold step at hStep
  rw [if_neg (by rw [h.running]; exact Bool.false_ne_true)] at hStep
  cases a with
  | getTransRes d => exact getTransRes_inv h hStep
  | getFails d => exact hSucceeds.elim
  | process => exact process_inv h hStep
  | giveBack queued => exact giveBack_inv h hStep
  | queueRx => exact queueRx_inv h hStep
  | giveSem => exact giveSem_inv h hStep
  | read => exact read_inv h hStep
  | readDone t queued => exact readDone_inv h hStep

/-- After a failure the transaction of the round before is in a second place, or there is none and
the task follows a null pointer. -/
theorem getFails_not_owned (h : Inv n s) (hStep : getFails s d = some s') : ¬ Owned n s' := by
  intro hOwned
  unfold getFails at hStep
  split at hStep
  · rename_i t hPc hTrans
    cases hStep
    have hBefore := h.once t
    have hAfter := hOwned.once t
    simp only [State.places, State.processed, hPc, hTrans, Option.toList_some, List.count_append,
      List.count_nil, List.count_cons, beq_self_eq_true, if_true] at hBefore hAfter
    omega
  · cases hStep
    exact Bool.noConfusion hOwned.running
  · cases hStep

theorem owned_step_iff {a : Action} (h : Inv n s) (hStep : step size s a = some s') :
    Owned n s' ↔ Succeeds s a := by
  refine ⟨fun hOwned => ?_, fun hSucceeds => (step_inv h hStep hSucceeds).toOwned⟩
  unfold step at hStep
  rw [if_neg (by rw [h.running]; exact Bool.false_ne_true)] at hStep
  cases a with
  | getFails d => exact getFails_not_owned h hStep hOwned
  | getTransRes | process | giveBack | queueRx | giveSem | read | readDone => trivial

/-! ## Runs -/

/-- Whatever is received, and whether or not the driver takes transactions back. -/
theorem one_place {results : List Bool}
    (hRun : Reaches (step size) Succeeds (boot results) s) : Owned results.length s :=
  (hRun.invariant (boot_inv results) fun _ _ _ h hSucceeds hStep =>
    step_inv h hStep hSucceeds).toOwned

/-- A packet of the serial interface. -/
def serialPacket : Received :=
  { transLen := 64, len := 40, offset := 12, ifType := 3, checksumOk := true }

/-- One transaction is read and not taken back, another is queued for the reader. -/
theorem one_place_two_packets : ∃ s, Reaches (step 1) Succeeds (boot [true, false, true]) s ∧
    s.freed = [1, 0] ∧ s.rxQueue .serial = [2] ∧ Owned 3 s := by
  obtain ⟨s, hRun, hEq⟩ := Option.map_eq_some_iff.mp (show (runGuarded (step 1) Succeeds
      (boot [true, false, true]) [.getTransRes serialPacket, .process, .queueRx, .giveSem, .read,
        .readDone 0 false, .getTransRes serialPacket, .process, .queueRx]).map
      (fun s => (s.freed, s.rxQueue .serial)) = some ([1, 0], [2]) by decide +kernel)
  rw [Prod.mk.injEq] at hEq
  have hReached : Reaches (step 1) Succeeds (boot [true, false, true]) s := .of_run hRun
  exact ⟨s, hReached, hEq.1, hEq.2, one_place hReached⟩

/-- The packet is queued again after the failure, and read a second time while the reader has
it. -/
theorem read_twice : ∃ s, Reaches (step 1) anyStep (boot [true]) s ∧ s.held = [0, 0] ∧
    ¬ Owned 1 s := by
  obtain ⟨s, hRun, hEq⟩ := Option.map_eq_some_iff.mp (show (run (step 1) (boot [true])
      [.getTransRes serialPacket, .process, .queueRx, .giveSem, .read,
        .getFails serialPacket, .process, .queueRx, .giveSem, .read]).map
      (fun s => (s.held, decide (s.places.count 0 = 2))) = some ([0, 0], true) by decide +kernel)
  simp only [Prod.mk.injEq, decide_eq_true_eq] at hEq
  refine ⟨s, .of_plain_run hRun, hEq.1, fun h => ?_⟩
  have hOnce := h.once 0
  rw [hEq.2] at hOnce
  change 2 + _ = 1 at hOnce
  omega

end EspHosted.SpiHd.RxTrans
