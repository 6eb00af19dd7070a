import EspHosted.Driver.PrioQueue
import EspHosted.Lib.Blocks
import EspHosted.Lib.Machine
import EspHosted.Lib.PrioQueues

/-!
# The pools of the UART slave

`uart_rx_task` takes a block of the rx pool for each frame and sends it to one of three queues, from
where `h_uart_read` hands it to a task, which calls `uart_rx_read_done` when it is done with it. The
pool has as many blocks as one queue has room. `h_uart_write` takes a block of the tx pool and
returns it, and `generate_startup_event` takes one and does not return it.

* `pools_sound`: while the startup event does not come to its end and there are fewer frames in the
  queues and with the readers than the pool has blocks, blocks are returned once and no assertion
  fails.
-/

namespace EspHosted.Uart.SlavePools

open Machine Blocks PrioQueues
open Driver.PrioQueue (Prio pktPrio priorities priorities_nodup mem_priorities)

/-! ## Model -/

/-- `buf_handle` of `uart_rx_task`: its buffer, and `if_type`. -/
structure BufHandle where
  buf : Nat
  ifType : Nat

/-- `rxBuf` is the handle of `uart_rx_task` before it is in a queue, `readers` are the buffers that
were read and not freed, `writers` and `startups` those of `h_uart_write` and
`generate_startup_event`. An assertion that has failed ends the program. -/
structure State where
  tx : Pool
  rx : Pool
  rxBuf : Option BufHandle
  rxQueue : Prio → List BufHandle
  readers : List Nat
  writers : List Nat
  startups : List Nat
  asserted : Bool

/-- `HOSTED_UART_TX_QUEUE_SIZE` and `HOSTED_UART_RX_QUEUE_SIZE`. -/
structure Config where
  txQueueSize : Nat
  rxQueueSize : Nat

def boot (cfg : Config) : State :=
  { tx := create cfg.txQueueSize, rx := create cfg.rxQueueSize, rxBuf := none,
    rxQueue := fun _ => [], readers := [], writers := [], startups := [], asserted := false }

/-- `rxFrame` is a frame that has passed all checks of `uart_rx_task`; the others take no block. The
actions of `h_uart_write` and `generate_startup_event` are the two halves of each. -/
inductive Action
  | rxFrame (ifType : Nat)
  | queueSend
  | read
  | readDone (buf : Nat)
  | write
  | writeDone (buf : Nat)
  | startup
  | startupSent (buf : Nat)

def rxFrame (s : State) (ifType : Nat) : Option State :=
  if s.rxBuf.isSome then none
  else
    match s.rx.alloc with
    | none => some { s with asserted := true }
    | some r => some { s with rx := r.2, rxBuf := some ⟨r.1, ifType⟩ }

/-- `xQueueSend` waits until there is room. -/
def queueSend (cfg : Config) (s : State) : Option State :=
  match s.rxBuf with
  | none => none
  | some h => (send cfg.rxQueueSize s.rxQueue (pktPrio h.ifType) h).map fun queue =>
      { s with rxQueue := queue, rxBuf := none }

/-- `h_uart_read`, which waits for `uart_rx_sem`. -/
def read (s : State) : Option State :=
  (receive priorities s.rxQueue).map fun r =>
    { s with rxQueue := r.2, readers := r.1.buf :: s.readers }

/-- `uart_rx_read_done`. -/
def readDone (s : State) (buf : Nat) : Option State :=
  if buf ∈ s.readers then
    some { s with rx := s.rx.free buf, readers := s.readers.erase buf }
  else none

/-- `h_uart_write` fails if there is no block. -/
def write (s : State) : Option State :=
  match s.tx.alloc with
  | none => some s
  | some r => some { s with tx := r.2, writers := r.1 :: s.writers }

/-- The end of `h_uart_write`, whether the frame was sent or not. -/
def writeDone (s : State) (buf : Nat) : Option State :=
  if buf ∈ s.writers then
    some { s with tx := s.tx.free buf, writers := s.writers.erase buf }
  else none

def startup (s : State) : Option State :=
  match s.tx.alloc with
  | none => some { s with asserted := true }
  | some r => some { s with tx := r.2, startups := r.1 :: s.startups }

/-- The end of `generate_startup_event`. -/
def startupSent (s : State) (buf : Nat) : Option State :=
  if buf ∈ s.startups then some { s with startups := s.startups.erase buf } else none

def step (cfg : Config) (s : State) (a : Action) : Option State :=
  if s.asserted then none
  else
    match a with
    | .rxFrame ifType => rxFrame s ifType
    | .queueSend => queueSend cfg s
    | .read => read s
    | .readDone buf => readDone s buf
    | .write => write s
    | .writeDone buf => writeDone s buf
    | .startup => startup s
    | .startupSent buf => startupSent s buf

/-! ## Soundness -/

/-- The blocks of the tx pool that are in use. -/
def State.sending (s : State) : List Nat := s.writers ++ s.startups

/-- The blocks of the rx pool that are in use. -/
def State.received (s : State) : List Nat :=
  s.rxBuf.toList.map BufHandle.buf ++ (all priorities s.rxQueue).map BufHandle.buf ++ s.readers

/-- Blocks of the tx pool are returned once, and no assertion has failed. -/
structure Sound (s : State) : Prop where
  once : ∀ block, s.tx.returned.count block ≤ 1
  back : ∀ block, block < s.tx.taken → block ∉ s.sending → s.tx.returned.count block = 1
  running : s.asserted = false

/-- A frame comes while the queues and the readers have less than a queue has room for, a startup
event begins while the writers and other startup events have not all blocks, and none ends. -/
def Guard (cfg : Config) (s : State) : Action → Prop
  | .rxFrame _ => (all priorities s.rxQueue).length + s.readers.length < cfg.rxQueueSize
  | .startup => s.writers.length + s.startups.length < cfg.txQueueSize
  | .startupSent _ => False
  | .queueSend | .read | .readDone _ | .write | .writeDone _ => True

instance (cfg : Config) (s : State) : ∀ a, Decidable (Guard cfg s a)
  | .rxFrame _ | .startup => inferInstanceAs (Decidable (_ < _))
  | .startupSent _ => .isFalse not_false
  | .queueSend | .read | .readDone _ | .write | .writeDone _ => .isTrue trivial

structure Inv (cfg : Config) (s : State) : Prop where
  txSize : s.tx.size = cfg.txQueueSize
  rxSize : s.rx.size = cfg.rxQueueSize
  tx : s.tx.Holds s.sending
  rx : s.rx.Holds s.received
  running : s.asserted = false

section Steps

variable {cfg : Config} {s t : State} {buf : Nat}

theorem boot_inv (cfg : Config) : Inv cfg (boot cfg) :=
  ⟨rfl, rfl, .create _, .create _, rfl⟩

theorem Inv.sound (h : Inv cfg s) : Sound s :=
  ⟨h.tx.count_le, fun _ hTaken hNot => h.tx.count_returned hTaken hNot, h.running⟩

theorem rxFrame_inv {ifType : Nat} (h : Inv cfg s)
    (hRoom : (all priorities s.rxQueue).length + s.readers.length < cfg.rxQueueSize)
    (hStep : rxFrame s ifType = some t) : Inv cfg t := by
  unfold rxFrame at hStep
  split at hStep
  · cases hStep
  · rename_i hNone
    rw [Option.not_isSome_iff_eq_none] at hNone
    have hReceived : s.received = (all priorities s.rxQueue).map BufHandle.buf ++ s.readers := by
      rw [State.received, hNone, Option.toList_none, List.map_nil, List.nil_append]
    split at hStep
    · rename_i hFull
      -- The blocks of the pool are those in the queues and with the readers.
      have hAll := h.rx.alloc_eq_none_iff.mp hFull
      rw [h.rxSize, hReceived, List.length_append, List.length_map] at hAll
      omega
    · rename_i r hAlloc
      cases hStep
      refine ⟨h.txSize, (Pool.alloc_size hAlloc).trans h.rxSize, h.tx, ?_, h.running⟩
      have hHolds := h.rx.alloc hAlloc
      rw [hReceived] at hHolds
      simpa only [State.received, Option.toList_some, List.map_cons, List.map_nil,
        List.append_assoc, List.cons_append, List.nil_append] using hHolds

theorem queueSend_inv (h : Inv cfg s) (hStep : queueSend cfg s = some t) : Inv cfg t := by
  unfold queueSend at hStep
  split at hStep
  · cases hStep
  · rename_i k hBuf
    obtain ⟨queue, hSend, rfl⟩ := Option.map_eq_some_iff.mp hStep
    have hPerm := (perm_send priorities_nodup (mem_priorities _) hSend).map BufHandle.buf
    refine ⟨h.txSize, h.rxSize, h.tx, h.rx.perm ?_, h.running⟩
    simp only [State.received, hBuf, Option.toList_some, Option.toList_none, List.map_cons,
      List.map_nil, List.nil_append, List.cons_append]
    exact hPerm.symm.append_right _

theorem read_inv (h : Inv cfg s) (hStep : read s = some t) : Inv cfg t := by
  obtain ⟨⟨k, queue⟩, hReceive, rfl⟩ := Option.map_eq_some_iff.mp hStep
  have hPerm := (perm_receive priorities_nodup hReceive).map BufHandle.buf
  refine ⟨h.txSize, h.rxSize, h.tx, h.rx.perm ?_, h.running⟩
  simp only [State.received, List.append_assoc]
  exact ((hPerm.append_right _).trans List.perm_middle.symm).append_left _

theorem readDone_inv (h : Inv cfg s) (hStep : readDone s buf = some t) : Inv cfg t := by
  unfold readDone at hStep
  split at hStep
  · rename_i hMem
    cases hStep
    refine ⟨h.txSize, h.rxSize, h.tx, (h.rx.perm ?_).free, h.running⟩
    exact ((List.perm_cons_erase hMem).append_left _).trans List.perm_middle
  · cases hStep

theorem write_inv (h : Inv cfg s) (hStep : write s = some t) : Inv cfg t := by
  unfold write at hStep
  split at hStep
  · cases hStep
    exact h
  · rename_i r hAlloc
    cases hStep
    exact ⟨(Pool.alloc_size hAlloc).trans h.txSize, h.rxSize, h.tx.alloc hAlloc, h.rx, h.running⟩

theorem writeDone_inv (h : Inv cfg s) (hStep : writeDone s buf = some t) : Inv cfg t := by
  unfold writeDone at hStep
  split at hStep
  · rename_i hMem
    cases hStep
    exact ⟨h.txSize, h.rxSize, (h.tx.perm ((List.perm_cons_erase hMem).append_right _)).free, h.rx,
      h.running⟩
  · cases hStep

theorem startup_inv (h : Inv cfg s)
    (hRoom : s.writers.length + s.startups.length < cfg.txQueueSize)
    (hStep : startup s = some t) : Inv cfg t := by
  unfold startup at hStep
  split at hStep
  · rename_i hFull
    have hAll := h.tx.alloc_eq_none_iff.mp hFull
    rw [h.txSize, State.sending, List.length_append] at hAll
    omega
  · rename_i r hAlloc
    cases hStep
    exact ⟨(Pool.alloc_size hAlloc).trans h.txSize, h.rxSize,
      (h.tx.alloc hAlloc).perm List.perm_middle.symm, h.rx, h.running⟩

theorem step_inv {a : Action} (h : Inv cfg s) (hGuard : Guard cfg s a)
    (hStep : step cfg s a = some t) : Inv cfg t := by
  unfold step at hStep
  rw [if_neg (by rw [h.running]; decide)] at hStep
  cases a with
  | rxFrame ifType => exact rxFrame_inv h hGuard hStep
  | queueSend => exact queueSend_inv h hStep
  | read => exact read_inv h hStep
  | readDone buf => exact readDone_inv h hStep
  | write => exact write_inv h hStep
  | writeDone buf => exact writeDone_inv h hStep
  | startup => exact startup_inv h hGuard hStep
  | startupSent buf => exact hGuard.elim

end Steps

/-- In every run whose steps keep the guard the pools are sound. -/
theorem pools_sound {cfg : Config} {s : State}
    (hRun : Reaches (step cfg) (Guard cfg) (boot cfg) s) : Sound s :=
  (hRun.invariant (boot_inv cfg) fun _ _ _ h hGuard hStep => step_inv h hGuard hStep).sound

/-- Frames for all three queues, two of them read, and a write next to a startup event. -/
theorem pools_sound_run : ∃ s, Reaches (step ⟨5, 5⟩) (Guard ⟨5, 5⟩) (boot ⟨5, 5⟩) s ∧ Sound s := by
  have hRun := Reaches.of_run (show runGuarded (step ⟨5, 5⟩) (Guard ⟨5, 5⟩) (boot ⟨5, 5⟩)
    [.rxFrame 3, .queueSend, .rxFrame 4, .queueSend, .rxFrame 1, .queueSend, .read, .read,
      .readDone 1, .write, .startup, .writeDone 0, .rxFrame 3] = some _ from rfl)
  exact ⟨_, hRun, pools_sound hRun⟩

/-- With the default sizes a sixth frame finds no block if nobody reads, and a sixth startup event
finds none. -/
theorem assertions_fail :
    (run (step ⟨5, 5⟩) (boot ⟨5, 5⟩)
      ((List.replicate 5 ([.rxFrame 3, .queueSend] : List Action)).flatten ++
        ([.rxFrame 1] : List Action))).map State.asserted = some true ∧
    (run (step ⟨5, 5⟩) (boot ⟨5, 5⟩) [.startup, .startupSent 0, .startup, .startupSent 1, .startup,
      .startupSent 2, .startup, .startupSent 3, .startup, .startupSent 4, .startup]).map
        State.asserted = some true := by
  decide

end EspHosted.Uart.SlavePools
