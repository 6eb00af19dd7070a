import EspHosted.Driver.PrioQueue
import EspHosted.Lib.Blocks
import EspHosted.Lib.Machine
import EspHosted.Lib.PrioQueues
import EspHosted.Sdio.RxPool

/-!
# Buffers of the UART host

`h_uart_read_task` takes a buffer of the pool for each frame with a good header, and frees it if the
frame is not valid. Else it passes it on to `h_uart_process_rx_task` through one of three queues.
`h_uart_write_packet` takes a buffer of the same pool for a packet that it copies. The pool has
`rx_q_size + MIN_MEMPOOL_REQ` blocks, and each queue has room for `rx_q_size` handles.

* `rxBuffers_iff`: every buffer is given back once, and the pool never runs out exactly if
  `rx_q_size` is at most 4.
-/

namespace EspHosted.Uart.HostBuffers

open Machine Blocks PrioQueues
open Driver.PrioQueue (Prio pktPrio priorities priorities_nodup mem_priorities)
open Sdio.RxPool (Consumer Freed Fresh Handle processRx processRx_eq)

/-! ## Model -/

def minMempoolReq : Nat := 3 + 3 + 5

/-- `rxbuff` of the read task, with the interface in its header and whether
`is_valid_uart_rx_packet` accepts it. -/
structure Received where
  buf : Nat
  ifType : Nat
  valid : Bool

/-- `asserted` is that `assert(rxbuff)` has failed, which ends the program, and `refused` that
`h_uart_write_packet` has found no buffer. -/
structure State where
  pool : Pool
  rxbuff : Option Received
  fromSlaveQueue : Prio → List Handle
  processing : Option Handle
  sendbuf : Option Nat
  asserted : Bool
  refused : Bool

def boot (rxQueueSize : Nat) : State :=
  { pool := create (rxQueueSize + minMempoolReq), rxbuff := none, fromSlaveQueue := fun _ => [],
    processing := none, sendbuf := none, asserted := false, refused := false }

/-- `read` and `push` are the two halves of a round of the read task, `recv` and `process` those of
the processing task, `write` and `written` those of `h_uart_write_packet` without zero copy. -/
inductive Action
  | read (ifType : Nat) (valid : Bool)
  | push
  | recv
  | process (c : Consumer)
  | write
  | written

def read (s : State) (ifType : Nat) (valid : Bool) : Option State :=
  if s.rxbuff.isSome then none
  else
    match s.pool.alloc with
    | none => some { s with asserted := true }
    | some r => some { s with pool := r.2, rxbuff := some ⟨r.1, ifType, valid⟩ }

/-- `buf_handle` in `push_to_rx_queue`. -/
def bufHandle (r : Received) : Handle :=
  { ifType := r.ifType, payloadZcopy := false, privBufferHandle := some r.buf,
    freeBufHandle := .pool }

/-- `h_queue_send` waits until there is room. -/
def push (rxQueueSize : Nat) (s : State) : Option State :=
  match s.rxbuff with
  | none => none
  | some r =>
    if r.valid then
      (send rxQueueSize s.fromSlaveQueue (pktPrio r.ifType) (bufHandle r)).map fun queue =>
        { s with fromSlaveQueue := queue, rxbuff := none }
    else some { s with pool := s.pool.free r.buf, rxbuff := none }

def recv (s : State) : Option State :=
  if s.processing.isSome then none
  else (receive priorities s.fromSlaveQueue).map fun r =>
    { s with fromSlaveQueue := r.2, processing := some r.1 }

/-- `h_uart_buffer_free` on the buffers that are freed with it. -/
def freeAll (pool : Pool) (freed : List Freed) : Pool :=
  freed.foldl (fun p f => if f.func = .pool then p.free f.buf else p) pool

/-- The branches on the interface are those of the SDIO driver; the callback of a channel gets a
copy. -/
def process (s : State) (c : Consumer) : Option State :=
  match s.processing with
  | none => none
  | some h => some { s with pool := freeAll s.pool (processRx c h), processing := none }

def write (s : State) : Option State :=
  if s.sendbuf.isSome then none
  else
    match s.pool.alloc with
    | none => some { s with refused := true }
    | some r => some { s with pool := r.2, sendbuf := some r.1 }

def written (s : State) : Option State :=
  match s.sendbuf with
  | none => none
  | some buf => some { s with pool := s.pool.free buf, sendbuf := none }

def step (rxQueueSize : Nat) (s : State) (a : Action) : Option State :=
  if s.asserted then none
  else
    match a with
    | .read ifType valid => read s ifType valid
    | .push => push rxQueueSize s
    | .recv => recv s
    | .process c => process s c
    | .write => write s
    | .written => written s

/-! ## Where the buffers are -/

def State.handles (s : State) : List Handle :=
  all priorities s.fromSlaveQueue ++ s.processing.toList

/-- The buffers in the hands of a task or in a queue. -/
def State.places (s : State) : List Nat :=
  s.sendbuf.toList ++ s.rxbuff.toList.map Received.buf ++
    s.handles.filterMap Handle.privBufferHandle

/-- A buffer that no task or queue has was given back, once, and none twice. -/
structure GivenBack (s : State) : Prop where
  once : ∀ buf, s.pool.returned.count buf ≤ 1
  back : ∀ buf, buf < s.pool.taken → buf ∉ s.places → s.pool.returned.count buf = 1

structure Inv (rxQueueSize : Nat) (s : State) : Prop where
  size : s.pool.size = rxQueueSize + minMempoolReq
  holds : s.pool.Holds s.places
  fresh : ∀ h ∈ s.handles, Fresh h
  room : ∀ i, (s.fromSlaveQueue i).length ≤ rxQueueSize

section Steps

variable {rxQueueSize : Nat} {s t : State}

theorem boot_inv (rxQueueSize : Nat) : Inv rxQueueSize (boot rxQueueSize) :=
  ⟨rfl, .create _, fun _ h => (List.not_mem_nil h).elim, fun _ => Nat.zero_le _⟩

theorem Inv.givenBack (h : Inv rxQueueSize s) : GivenBack s :=
  ⟨h.holds.count_le, fun _ hTaken hNot => h.holds.count_returned hTaken hNot⟩

/-- A task that has no buffer may take one. -/
theorem read_inv {ifType : Nat} {valid : Bool} (h : Inv rxQueueSize s)
    (hStep : read s ifType valid = some t) : Inv rxQueueSize t := by
  unfold read at hStep
  split at hStep
  · cases hStep
  · rename_i hNone
    split at hStep
    · cases hStep
      exact ⟨h.size, h.holds, h.fresh, h.room⟩
    · rename_i r hAlloc
      cases hStep
      refine ⟨(Pool.alloc_size hAlloc).trans h.size, ?_, h.fresh, h.room⟩
      have hHolds := h.holds.alloc hAlloc
      rw [Option.not_isSome_iff_eq_none] at hNone
      refine hHolds.perm ?_
      simp only [State.places, State.handles, hNone, Option.toList_none, Option.toList_some,
        List.map_nil, List.map_cons, List.append_nil, List.append_assoc, List.cons_append,
        List.nil_append]
      exact List.perm_middle.symm

theorem write_inv (h : Inv rxQueueSize s) (hStep : write s = some t) : Inv rxQueueSize t := by
  unfold write at hStep
  split at hStep
  · cases hStep
  · rename_i hNone
    split at hStep
    · cases hStep
      exact ⟨h.size, h.holds, h.fresh, h.room⟩
    · rename_i r hAlloc
      cases hStep
      refine ⟨(Pool.alloc_size hAlloc).trans h.size, ?_, h.fresh, h.room⟩
      have hHolds := h.holds.alloc hAlloc
      rw [Option.not_isSome_iff_eq_none] at hNone
      simpa only [State.places, State.handles, hNone, Option.toList_none, Option.toList_some,
        List.nil_append, List.cons_append] using hHolds

theorem written_inv (h : Inv rxQueueSize s) (hStep : written s = some t) : Inv rxQueueSize t := by
  unfold written at hStep
  split at hStep
  · cases hStep
  · rename_i buf hBuf
    cases hStep
    refine ⟨h.size, ?_, h.fresh, h.room⟩
    have hHolds := h.holds
    simp only [State.places, hBuf, Option.toList_some, List.cons_append] at hHolds
    exact hHolds.free

/-- A frame that is not valid is freed, and another one moves to its queue. -/
theorem push_inv (h : Inv rxQueueSize s) (hStep : push rxQueueSize s = some t) :
    Inv rxQueueSize t := by
  unfold push at hStep
  split at hStep
  · cases hStep
  · rename_i r hBuf
    have hHolds := h.holds
    simp only [State.places, hBuf, Option.toList_some, List.map_cons, List.map_nil,
      List.append_assoc, List.cons_append, List.nil_append] at hHolds
    split at hStep
    · obtain ⟨queue, hSend, rfl⟩ := Option.map_eq_some_iff.mp hStep
      have hPerm := perm_send priorities_nodup (mem_priorities _) hSend
      have hHandles :
          (all priorities queue ++ s.processing.toList).Perm (bufHandle r :: s.handles) :=
        hPerm.append_right _
      refine ⟨h.size, ?_, fun k hk => ?_, length_send hSend h.room⟩
      · have hBufs : (r.buf :: s.handles.filterMap Handle.privBufferHandle).Perm
            ((all priorities queue ++ s.processing.toList).filterMap Handle.privBufferHandle) :=
          (hHandles.filterMap Handle.privBufferHandle).symm
        refine hHolds.perm ?_
        simp only [State.places, Option.toList_none, List.map_nil, List.append_nil]
        exact hBufs.append_left _
      · rcases List.mem_cons.mp (hHandles.mem_iff.mp hk) with rfl | hOld
        · exact ⟨⟨_, rfl⟩, rfl, rfl⟩
        · exact h.fresh k hOld
    · cases hStep
      refine ⟨h.size, ?_, h.fresh, h.room⟩
      have hFree := (hHolds.perm List.perm_middle).free
      simpa only [State.places, State.handles, Option.toList_none, List.map_nil, List.append_nil]
        using hFree

theorem recv_inv (h : Inv rxQueueSize s) (hStep : recv s = some t) : Inv rxQueueSize t := by
  unfold recv at hStep
  split at hStep
  · cases hStep
  · rename_i hNone
    rw [Option.not_isSome_iff_eq_none] at hNone
    obtain ⟨⟨k, queue⟩, hReceive, rfl⟩ := Option.map_eq_some_iff.mp hStep
    have hPerm : s.handles.Perm (all priorities queue ++ [k]) := by
      rw [State.handles, hNone, Option.toList_none, List.append_nil]
      exact (perm_receive priorities_nodup hReceive).trans (List.perm_append_singleton _ _).symm
    refine ⟨h.size, ?_, fun j hj => ?_, length_receive hReceive h.room⟩
    · exact h.holds.perm ((hPerm.filterMap _).append_left _)
    · exact h.fresh j (hPerm.mem_iff.mpr hj)

theorem process_inv {c : Consumer} (h : Inv rxQueueSize s) (hStep : process s c = some t) :
    Inv rxQueueSize t := by
  unfold process at hStep
  split at hStep
  · cases hStep
  · rename_i k hSome
    have hIn : k ∈ s.handles := by
      rw [State.handles, hSome]
      exact List.mem_append_right _ List.mem_cons_self
    obtain ⟨⟨buf, hBuf⟩, hFunc, hZcopy⟩ := h.fresh k hIn
    rw [processRx_eq c hBuf hFunc hZcopy] at hStep
    cases hStep
    refine ⟨h.size, ?_, fun j hj => h.fresh j ?_, h.room⟩
    · refine (h.holds.perm ?_).free
      simp only [State.places, State.handles, hSome, Option.toList_some, Option.toList_none,
        List.filterMap_append, List.filterMap_cons, hBuf, List.filterMap_nil, List.append_nil]
      rw [← List.append_assoc]
      exact List.perm_append_singleton _ _
    · rw [State.handles] at hj ⊢
      rw [Option.toList_none, List.append_nil] at hj
      exact List.mem_append_left _ hj

theorem step_inv {a : Action} (h : Inv rxQueueSize s) (hStep : step rxQueueSize s a = some t) :
    Inv rxQueueSize t := by
  unfold step at hStep
  split at hStep
  · cases hStep
  · cases a with
    | read => exact read_inv h hStep
    | push => exact push_inv h hStep
    | recv => exact recv_inv h hStep
    | process => exact process_inv h hStep
    | write => exact write_inv h hStep
    | written => exact written_inv h hStep

/-! ## When the pool runs out -/

theorem length_places (h : Inv rxQueueSize s) : s.places.length =
    s.sendbuf.toList.length + s.rxbuff.toList.length + s.handles.length := by
  have hAll : (s.handles.filterMap Handle.privBufferHandle).length = s.handles.length := by
    rw [List.length_filterMap_eq_countP, List.countP_eq_length]
    intro k hk
    obtain ⟨buf, hBuf⟩ := (h.fresh k hk).buf
    rw [hBuf, Option.isSome_some]
  rw [State.places, List.length_append, List.length_append, List.length_map, hAll]

theorem length_toList_le {α : Type} (o : Option α) : o.toList.length ≤ 1 := by
  cases o <;> simp

/-- The tasks and the queues hold at most `3 * rx_q_size + 2` buffers while one of the two tasks
that take them has none. -/
theorem alloc_ne_none (h : Inv rxQueueSize s) (hSmall : rxQueueSize ≤ 4)
    (hFree : s.rxbuff = none ∨ s.sendbuf = none) : s.pool.alloc ≠ none := by
  intro hNone
  have hFull := h.holds.alloc_eq_none_iff.mp hNone
  have hQueues := length_all_le priorities h.room
  have hOrder : priorities.length = 3 := rfl
  have hSend := length_toList_le s.sendbuf
  have hRead := length_toList_le s.rxbuff
  have hProcessing := length_toList_le s.processing
  have hEmpty : s.rxbuff.toList.length = 0 ∨ s.sendbuf.toList.length = 0 :=
    hFree.imp (fun hEq => by rw [hEq]; rfl) fun hEq => by rw [hEq]; rfl
  rw [h.size, length_places h, State.handles, List.length_append, minMempoolReq] at hFull
  rw [hOrder] at hQueues
  omega

/-- No allocation has failed so far. -/
def State.Served (s : State) : Prop := s.asserted = false ∧ s.refused = false

theorem step_served {a : Action} (h : Inv rxQueueSize s) (hSmall : rxQueueSize ≤ 4)
    (hServed : s.Served) (hStep : step rxQueueSize s a = some t) : t.Served := by
  unfold step at hStep
  rw [if_neg (by rw [hServed.1]; decide)] at hStep
  cases a with
  | read ifType valid =>
    simp only [read] at hStep
    split at hStep
    · cases hStep
    · rename_i hIdle
      split at hStep
      · rename_i hNone
        exact absurd hNone
          (alloc_ne_none h hSmall (.inl (Option.not_isSome_iff_eq_none.mp hIdle)))
      · cases hStep
        exact hServed
  | write =>
    simp only [write] at hStep
    split at hStep
    · cases hStep
    · rename_i hIdle
      split at hStep
      · rename_i hNone
        exact absurd hNone
          (alloc_ne_none h hSmall (.inr (Option.not_isSome_iff_eq_none.mp hIdle)))
      · cases hStep
        exact hServed
  | push =>
    simp only [push] at hStep
    split at hStep
    · cases hStep
    · split at hStep
      · obtain ⟨_, -, rfl⟩ := Option.map_eq_some_iff.mp hStep
        exact hServed
      · cases hStep
        exact hServed
  | recv =>
    simp only [recv] at hStep
    split at hStep
    · cases hStep
    · obtain ⟨_, -, rfl⟩ := Option.map_eq_some_iff.mp hStep
      exact hServed
  | process c =>
    simp only [process] at hStep
    split at hStep <;> cases hStep
    exact hServed
  | written =>
    simp only [written] at hStep
    split at hStep <;> cases hStep
    exact hServed

/-! ## A run that fills the queues -/

/-- The interface of a queue. -/
def ifTypeOf : Prio → Nat
  | .serial => 3
  | .bt => 4
  | .others => 1

theorem pktPrio_ifTypeOf (i : Prio) : pktPrio (ifTypeOf i) = i := by cases i <;> rfl

/-- A state reached in which the processing task is busy, the other tasks have no buffer and each
queue holds `n` handles. -/
structure Filled (rxQueueSize : Nat) (n : Prio → Nat) (s : State) : Prop where
  reached : Reaches (step rxQueueSize) anyStep (boot rxQueueSize) s
  running : s.asserted = false
  rxbuff : s.rxbuff = none
  sendbuf : s.sendbuf = none
  busy : s.processing.isSome
  length : ∀ i, (s.fromSlaveQueue i).length = n i

theorem reached_inv (hRun : Reaches (step rxQueueSize) anyStep (boot rxQueueSize) s) :
    Inv rxQueueSize s :=
  hRun.invariant (boot_inv rxQueueSize) fun _ _ _ h _ hStep => step_inv h hStep

theorem Filled.alloc_eq_none_iff {n : Prio → Nat} (h : Filled rxQueueSize n s) :
    s.pool.alloc = none ↔
      rxQueueSize + minMempoolReq ≤ n .serial + n .bt + n .others + 1 := by
  have hInv := reached_inv h.reached
  obtain ⟨k, hBusy⟩ := Option.isSome_iff_exists.mp h.busy
  have hLength : s.places.length = n .serial + n .bt + n .others + 1 := by
    rw [length_places hInv, h.rxbuff, h.sendbuf, State.handles, hBusy, all, priorities]
    simp only [Option.toList_none, Option.toList_some, List.flatMap_cons, List.flatMap_nil,
      List.append_nil, List.length_append, List.length_nil, List.length_singleton, h.length]
    omega
  rw [hInv.holds.alloc_eq_none_iff, hInv.size, hLength]

/-- One more frame for a queue that has room. -/
theorem Filled.next {n : Prio → Nat} (h : Filled rxQueueSize n s) {i : Prio}
    (hRoom : n i < rxQueueSize)
    (hLeft : n .serial + n .bt + n .others + 1 < rxQueueSize + minMempoolReq) :
    ∃ t, Filled rxQueueSize (Function.update n i (n i + 1)) t := by
  have hSome : s.pool.alloc ≠ none := fun hNone =>
    Nat.not_le.mpr hLeft (h.alloc_eq_none_iff.mp hNone)
  obtain ⟨⟨buf, pool⟩, hAlloc⟩ := Option.ne_none_iff_exists'.mp hSome
  have hRead : step rxQueueSize s (.read (ifTypeOf i) true) =
      some { s with pool := pool, rxbuff := some ⟨buf, ifTypeOf i, true⟩ } := by
    simp [step, read, h.running, h.rxbuff, hAlloc]
  have hPush : step rxQueueSize { s with pool := pool, rxbuff := some ⟨buf, ifTypeOf i, true⟩ }
      .push = some { s with
        pool := pool, rxbuff := none
        fromSlaveQueue := Function.update s.fromSlaveQueue i
          (s.fromSlaveQueue i ++ [bufHandle ⟨buf, ifTypeOf i, true⟩]) } := by
    simp [step, push, h.running, send, pktPrio_ifTypeOf, h.length, hRoom]
  refine ⟨_, (h.reached.next trivial hRead).next trivial hPush, h.running, rfl, h.sendbuf, h.busy,
    fun j => ?_⟩
  by_cases hEq : j = i
  · subst hEq
    simp [h.length]
  · simp only [Function.update_of_ne hEq, h.length]

theorem Filled.many {n : Prio → Nat} (h : Filled rxQueueSize n s) {i : Prio} (k : Nat)
    (hRoom : n i + k ≤ rxQueueSize)
    (hLeft : n .serial + n .bt + n .others + 1 + k ≤ rxQueueSize + minMempoolReq) :
    ∃ t, Filled rxQueueSize (Function.update n i (n i + k)) t := by
  induction k with
  | zero =>
    rw [Nat.add_zero, Function.update_eq_self]
    exact ⟨s, h⟩
  | succ k ih =>
    obtain ⟨t, hFilled⟩ := ih (by omega) (by omega)
    obtain ⟨u, hNext⟩ := hFilled.next (i := i) (by rw [Function.update_self]; omega)
      (by cases i <;> simp <;> omega)
    refine ⟨u, ?_⟩
    rwa [Function.update_idem, Function.update_self] at hNext

theorem filled_zero (hPos : 0 < rxQueueSize) : ∃ s, Filled rxQueueSize (fun _ => 0) s := by
  have hRun : run (step rxQueueSize) (boot rxQueueSize) [.read 3 true, .push, .recv] =
      some { boot rxQueueSize with
        pool := { create (rxQueueSize + minMempoolReq) with taken := 1 }
        processing := some (bufHandle ⟨0, 3, true⟩)
        fromSlaveQueue := fun _ => [] } := by
    simp [run, step, read, push, recv, boot, create, Pool.alloc, Pool.outstanding, send, receive,
      priorities, pktPrio, Driver.PrioQueue.espSerialIf, minMempoolReq, hPos]
  exact ⟨_, .of_plain_run hRun, rfl, rfl, rfl, rfl, fun _ => rfl⟩

/-- With a larger queue the assertion of the read task can fail. -/
theorem assert_fails (hLarge : 4 < rxQueueSize) :
    ∃ s, Reaches (step rxQueueSize) anyStep (boot rxQueueSize) s ∧ s.asserted = true := by
  obtain ⟨s₀, hZero⟩ := filled_zero (Nat.lt_of_le_of_lt (Nat.zero_le _) hLarge)
  obtain ⟨s₁, hSerial⟩ := hZero.many (i := .serial) rxQueueSize (by simp)
    (by simp [minMempoolReq]; omega)
  obtain ⟨s₂, hBt⟩ := hSerial.many (i := .bt) 5 (by simp; omega)
    (by simp [minMempoolReq])
  obtain ⟨s₃, hOthers⟩ := hBt.many (i := .others) 5 (by simp; omega)
    (by simp [minMempoolReq])
  have hNone : s₃.pool.alloc = none := by
    rw [hOthers.alloc_eq_none_iff]
    simp [minMempoolReq]
  refine ⟨{ s₃ with asserted := true },
    hOthers.reached.next (a := .read 3 true) trivial ?_, rfl⟩
  simp [step, read, hOthers.running, hOthers.rxbuff, hNone]

/-! ## Runs -/

/-- In every run each buffer is given back once; and no allocation ever fails exactly if the queues
have room for four handles or fewer. -/
theorem rxBuffers_iff (rxQueueSize : Nat) :
    (∀ s, Reaches (step rxQueueSize) anyStep (boot rxQueueSize) s → GivenBack s) ∧
    ((∀ s, Reaches (step rxQueueSize) anyStep (boot rxQueueSize) s → s.Served) ↔
      rxQueueSize ≤ 4) := by
  refine ⟨fun s hRun => (reached_inv hRun).givenBack, fun h => ?_, fun hSmall s hRun => ?_⟩
  · by_contra hLarge
    obtain ⟨s, hRun, hAsserted⟩ := assert_fails (Nat.not_le.mp hLarge)
    rw [(h s hRun).1] at hAsserted
    cases hAsserted
  · have hBoth : Inv rxQueueSize s ∧ s.Served :=
      hRun.invariant (I := fun s => Inv rxQueueSize s ∧ s.Served)
        ⟨boot_inv rxQueueSize, rfl, rfl⟩ fun _ _ _ h _ hStep =>
        ⟨step_inv h.1 hStep, step_served h.1 hSmall h.2 hStep⟩
    exact hBoth.2

/-- `count` frames for one queue. -/
def frames (ifType count : Nat) : List Action :=
  (List.replicate count [.read ifType true, .push]).flatten

/-- Queues of the default size, all full while one buffer is processed. -/
theorem assert_fails_default :
    (run (step 5) (boot 5) (([.read 3 true, .push, .recv] : List Action) ++ frames 3 5 ++
      frames 4 5 ++ frames 1 5 ++ ([.read 3 true] : List Action))).map State.asserted =
        some true := by
  decide

end Steps

end EspHosted.Uart.HostBuffers
