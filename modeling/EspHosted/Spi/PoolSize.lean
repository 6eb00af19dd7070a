import EspHosted.Driver.PrioQueue
import EspHosted.Lib.Weights

/-!
# The buffer pool of the SPI full-duplex slave

The slave takes all its buffers from one pool of `SPI_MEMPOOL_NUM_BLOCKS` blocks: one for each
packet of `esp_spi_write` or `generate_startup_event`, from before it is queued until behind its
transaction, one for a dummy, and one to receive into for each transaction, which a packet that
is received keeps until `esp_spi_read_done`. The number of blocks allows for one transmit queue,
one receive queue and three transactions. There are three queues in each direction, and writers
allocate before they wait for room in one.

Any number of tasks run beside `spi_transaction_post_process_task`. A step is one access to the
pool, a queue or a semaphore.

* `pool_suffices`: no allocation fails as long as the packets that are under way and two blocks
  for each transaction and for one more fit into the pool;
* `budget_of_sizes`: as they do with one queue of packets in each direction and three
  transactions with the next one;
* `every_pool_exhausts`: for every size of the queues some run ends at an assertion.
-/

namespace EspHosted.Spi.PoolSize

open Machine Weights
open Driver.PrioQueue (Prio pktPrio)

/-! ## Model -/

/-- `SPI_TX_QUEUE_SIZE` and `SPI_RX_QUEUE_SIZE`. -/
structure Config where
  spiTxQueueSize : Nat
  spiRxQueueSize : Nat

def spiQueueSize : Nat := 3

/-- `SPI_MEMPOOL_NUM_BLOCKS`. -/
def Config.spiMempoolNumBlocks (c : Config) : Nat :=
  (c.spiTxQueueSize + c.spiRxQueueSize) + spiQueueSize * 2

def payloadHeaderSize : Nat := 12
def spiBufferSize : Nat := 1600

/-- `total_len` of `esp_spi_write`. -/
def totalLen (payloadLen : Nat) : Nat :=
  let len := payloadLen + payloadHeaderSize
  if len % 4 = 0 then len else len + (4 - len % 4)

/-- The checks of `esp_spi_write` on the length. -/
def accepted (payloadLen : Nat) : Bool := payloadLen ≠ 0 && totalLen payloadLen ≤ spiBufferSize

/-- What `process_spi_rx` looks at in a buffer that was received. -/
structure RxHeader where
  ifType : Nat
  len : Nat
  offset : Nat
  checksumOk : Bool

/-- `process_spi_rx` keeps the buffer. -/
def RxHeader.valid (h : RxHeader) : Bool :=
  h.len ≠ 0 && h.len + h.offset ≤ spiBufferSize && h.checksumOk

/-- Where a caller of `queue_next_transaction` is: before it takes `spi_tx_sem`, tries a queue,
allocates a dummy, the transaction, its receive buffer, and queues the transaction. -/
inductive NextPc
  | take
  | recv (p : Prio)
  | dummy
  | allocTrans
  | allocRx
  | queueTrans

/-- Where a task is: outside, before it queues the packet that it has allocated, gives
`spi_tx_sem`, in `queue_next_transaction` behind a startup event, or in `esp_spi_read` before it
tries a queue. -/
inductive TaskPc
  | idle
  | sendPkt (startup : Bool) (p : Prio)
  | giveTx (startup : Bool)
  | next (n : NextPc)
  | recvRx (p : Prio)

/-- Where `spi_transaction_post_process_task` is: waiting for a transaction, queueing the next
one, or with the one that is finished: before it frees the sent buffer, looks at the received
one, queues it and gives `spi_rx_sem`, or frees it, and frees the transaction. -/
inductive PostPc
  | idle
  | next (n : NextPc)
  | freeTx
  | processRx
  | sendRx (p : Prio)
  | giveRx
  | freeRx
  | freeTrans

/-- `outstanding` and `transOutstanding` count the blocks that are out of the pool of buffers and
of the pool of transactions. The queues are known by their lengths. `loaded` and `results` are the
transactions in the driver, before and behind their transfer, and `reading` are the packets in the
hands of readers. `nulls` counts the allocations that failed. -/
structure State where
  outstanding : Nat
  transOutstanding : Nat
  txSem : Nat
  rxSem : Nat
  txQueue : Prio → Nat
  rxQueue : Prio → Nat
  loaded : Nat
  results : Nat
  reading : Nat
  tasks : List TaskPc
  post : PostPc
  nulls : Nat
  aborted : Bool

def boot (n : Nat) : State :=
  { outstanding := 0, transOutstanding := 0, txSem := 0, rxSem := 0, txQueue := fun _ => 0,
    rxQueue := fun _ => 0, loaded := 0, results := 0, reading := 0,
    tasks := List.replicate n .idle, post := .idle, nulls := 0, aborted := false }

/-- An allocation fails. -/
def State.null (s : State) : State := { s with nulls := s.nulls + 1 }

/-- The assertion behind an allocation fails. -/
def State.abort (s : State) : State := { s.null with aborted := true }

def State.goto (s : State) (i : Nat) (q : TaskPc) : State := { s with tasks := s.tasks.set i q }

/-- `xSemaphoreGive` on a semaphore that counts to three times the size of a queue. -/
def give (sem size : Nat) : Nat := min (sem + 1) (size * 3)

/-- After one of the transmit queues was empty. -/
def afterEmpty : Prio → NextPc
  | .serial => .recv .bt
  | .bt => .recv .others
  | .others => .dummy

/-- `queue_next_transaction`, one step; `none` is its end. The driver has `SPI_QUEUE_SIZE`
transactions at most, until they are fetched. -/
def NextPc.exec (c : Config) (s : State) : NextPc → Option (State × Option NextPc)
  | .take =>
    if s.txSem = 0 then some (s, some .dummy)
    else some ({ s with txSem := s.txSem - 1 }, some (.recv .serial))
  | .recv p =>
    if s.txQueue p = 0 then some (s, some (afterEmpty p))
    else
      some ({ s with txQueue := Function.update s.txQueue p (s.txQueue p - 1) }, some .allocTrans)
  | .dummy =>
    if s.outstanding < c.spiMempoolNumBlocks then
      some ({ s with outstanding := s.outstanding + 1 }, some .allocTrans)
    else some (s.null, none)
  | .allocTrans =>
    if s.transOutstanding < c.spiMempoolNumBlocks then
      some ({ s with transOutstanding := s.transOutstanding + 1 }, some .allocRx)
    else some (s.abort, none)
  | .allocRx =>
    if s.outstanding < c.spiMempoolNumBlocks then
      some ({ s with outstanding := s.outstanding + 1 }, some .queueTrans)
    else some (s.abort, none)
  | .queueTrans =>
    if s.loaded + s.results < spiQueueSize then some ({ s with loaded := s.loaded + 1 }, none)
    else none

/-- Behind `queue_next_transaction` a task is done. -/
def TaskPc.afterNext : Option NextPc → TaskPc
  | some n => .next n
  | none => .idle

/-- Behind `queue_next_transaction` the post-process task turns to the finished transaction. -/
def PostPc.afterNext : Option NextPc → PostPc
  | some n => .next n
  | none => .freeTx

/-- In `esp_spi_read`, after one of the receive queues was empty. -/
def afterEmptyRx : Prio → TaskPc
  | .serial => .recvRx .bt
  | .bt => .recvRx .others
  | .others => .idle

def TaskPc.exec (c : Config) (s : State) : TaskPc → Option (State × TaskPc)
  | .idle => none
  | .sendPkt startup p =>
    if s.txQueue p < c.spiTxQueueSize then
      some ({ s with txQueue := Function.update s.txQueue p (s.txQueue p + 1) }, .giveTx startup)
    else none
  | .giveTx startup =>
    some ({ s with txSem := give s.txSem c.spiTxQueueSize },
      if startup then .next .take else .idle)
  | .next n => (n.exec c s).map fun r => (r.1, .afterNext r.2)
  | .recvRx p =>
    if s.rxQueue p = 0 then some (s, afterEmptyRx p)
    else
      some ({ s with
        rxQueue := Function.update s.rxQueue p (s.rxQueue p - 1)
        reading := s.reading + 1 }, .idle)

def PostPc.exec (c : Config) (s : State) : PostPc → Option (State × PostPc)
  | .idle | .processRx => none
  | .next n => (n.exec c s).map fun r => (r.1, .afterNext r.2)
  | .freeTx => some ({ s with outstanding := s.outstanding - 1 }, .processRx)
  | .sendRx p =>
    if s.rxQueue p < c.spiRxQueueSize then
      some ({ s with rxQueue := Function.update s.rxQueue p (s.rxQueue p + 1) }, .giveRx)
    else none
  | .giveRx => some ({ s with rxSem := give s.rxSem c.spiRxQueueSize }, .freeTrans)
  | .freeRx => some ({ s with outstanding := s.outstanding - 1 }, .freeTrans)
  | .freeTrans => some ({ s with transOutstanding := s.transOutstanding - 1 }, .idle)

/-! ## Steps -/

def task (c : Config) (s : State) (i : Nat) : Option State :=
  match s.tasks[i]? with
  | none => none
  | some pc => (pc.exec c s).map fun r => r.1.goto i r.2

def post (c : Config) (s : State) : Option State :=
  (s.post.exec c s).map fun r => { r.1 with post := r.2 }

/-- The buffer of a packet is allocated, or its assertion fails. -/
def allocTx (c : Config) (s : State) (i : Nat) (q : TaskPc) : State :=
  if s.outstanding < c.spiMempoolNumBlocks then
    State.goto { s with outstanding := s.outstanding + 1 } i q
  else s.abort

/-- The start of `esp_spi_write`, up to `xQueueSend`. -/
def espSpiWrite (c : Config) (s : State) (i ifType payloadLen : Nat) : Option State :=
  match s.tasks[i]? with
  | some .idle =>
    some (if accepted payloadLen then allocTx c s i (.sendPkt false (pktPrio (ifType % 16))) else s)
  | _ => none

/-- The start of `generate_startup_event`, up to `xQueueSend`. -/
def generateStartupEvent (c : Config) (s : State) (i : Nat) : Option State :=
  match s.tasks[i]? with
  | some .idle => some (allocTx c s i (.sendPkt true .others))
  | _ => none

/-- The start of `esp_spi_read`. -/
def espSpiRead (s : State) (i : Nat) : Option State :=
  match s.tasks[i]? with
  | some .idle =>
    if s.rxSem = 0 then none
    else some (State.goto { s with rxSem := s.rxSem - 1 } i (.recvRx .serial))
  | _ => none

def espSpiReadDone (s : State) : Option State :=
  if s.reading = 0 then none
  else some { s with outstanding := s.outstanding - 1, reading := s.reading - 1 }

/-- The host clocks a transaction. -/
def transfer (s : State) : Option State :=
  if s.loaded = 0 then none
  else some { s with loaded := s.loaded - 1, results := s.results + 1 }

/-- `spi_slave_get_trans_result`. -/
def getTransResult (s : State) : Option State :=
  match s.post with
  | .idle =>
    if s.results = 0 then none
    else some { s with results := s.results - 1, post := .next .take }
  | _ => none

/-- `process_spi_rx`, up to `xQueueSend`. -/
def processSpiRx (s : State) (h : RxHeader) : Option State :=
  match s.post with
  | .processRx =>
    some { s with post := if h.valid then .sendRx (pktPrio (h.ifType % 16)) else .freeRx }
  | _ => none

inductive Action
  | task (i : Nat)
  | post
  | espSpiWrite (i ifType payloadLen : Nat)
  | generateStartupEvent (i : Nat)
  | espSpiRead (i : Nat)
  | espSpiReadDone
  | transfer
  | getTransResult
  | processSpiRx (h : RxHeader)

def step (c : Config) (s : State) (a : Action) : Option State :=
  if s.aborted then none
  else
    match a with
    | .task i => task c s i
    | .post => post c s
    | .espSpiWrite i ifType payloadLen => espSpiWrite c s i ifType payloadLen
    | .generateStartupEvent i => generateStartupEvent c s i
    | .espSpiRead i => espSpiRead s i
    | .espSpiReadDone => espSpiReadDone s
    | .transfer => transfer s
    | .getTransResult => getTransResult s
    | .processSpiRx h => processSpiRx s h

/-! ## What a place holds -/

/-- The blocks and transactions that are held at a place, and the blocks that are spoken for: one
for a packet, two for a transaction. -/
structure Load where
  blocks : Nat
  trans : Nat
  spoken : Nat

def NextPc.load : NextPc → Load
  | .take | .recv _ | .dummy => ⟨0, 0, 2⟩
  | .allocTrans => ⟨1, 0, 2⟩
  | .allocRx => ⟨1, 1, 2⟩
  | .queueTrans => ⟨2, 1, 2⟩

/-- Nothing is left behind `queue_next_transaction`. -/
def nextLoad : Option NextPc → Load
  | some n => n.load
  | none => ⟨0, 0, 0⟩

def TaskPc.load : TaskPc → Load
  | .idle | .recvRx _ => ⟨0, 0, 0⟩
  | .sendPkt startup _ => ⟨1, 0, if startup then 3 else 1⟩
  | .giveTx startup => ⟨0, 0, if startup then 2 else 0⟩
  | .next n => n.load

/-- The post-process task has the finished transaction besides the next one. -/
def PostPc.load : PostPc → Load
  | .idle => ⟨0, 0, 0⟩
  | .next n => ⟨n.load.blocks + 2, n.load.trans + 1, n.load.spoken⟩
  | .freeTx => ⟨2, 1, 0⟩
  | .processRx | .freeRx => ⟨1, 1, 0⟩
  | .sendRx _ => ⟨1, 1, 1⟩
  | .giveRx | .freeTrans => ⟨0, 1, 0⟩

def queued (q : Prio → Nat) : Nat := q .serial + q .bt + q .others

/-- The blocks in the queues, in the driver and in the hands of readers. -/
def State.stored (s : State) : Nat :=
  queued s.txQueue + queued s.rxQueue + s.reading + 2 * (s.loaded + s.results)

/-- The blocks in use. -/
def State.blocks (s : State) : Nat :=
  s.stored + total (·.load.blocks) s.tasks + s.post.load.blocks

/-- The transactions in use. -/
def State.trans (s : State) : Nat :=
  s.loaded + s.results + total (·.load.trans) s.tasks + s.post.load.trans

/-- One block for each packet that is under way, and two for each transaction and for one more. -/
def State.spoken (s : State) : Nat :=
  s.stored + total (·.load.spoken) s.tasks + s.post.load.spoken + 2

/-- A packet is written, the slave is announced, or a packet is received, only while what is
spoken for fits into the pool. -/
def Budgeted (c : Config) (s : State) : Action → Prop
  | .espSpiWrite _ _ payloadLen =>
    accepted payloadLen = true → s.spoken + 1 ≤ c.spiMempoolNumBlocks
  | .generateStartupEvent _ => s.spoken + 3 ≤ c.spiMempoolNumBlocks
  | .processSpiRx h => h.valid = true → s.spoken + 1 ≤ c.spiMempoolNumBlocks
  | _ => True

instance (c : Config) (s : State) : (a : Action) → Decidable (Budgeted c s a)
  | .espSpiWrite .. | .processSpiRx _ => inferInstanceAs (Decidable (_ → _))
  | .generateStartupEvent _ => inferInstanceAs (Decidable (_ ≤ _))
  | .task _ | .post | .espSpiRead _ | .espSpiReadDone | .transfer | .getTransResult =>
    .isTrue trivial

/-- The blocks that are out of the pool are those in use, there are enough of them, and no
allocation has failed. -/
structure Sized (c : Config) (s : State) : Prop where
  counted : s.outstanding = s.blocks
  bounded : s.outstanding ≤ c.spiMempoolNumBlocks
  served : s.nulls = 0
  running : s.aborted = false

structure Inv (c : Config) (s : State) : Prop where
  blocks : s.outstanding = s.blocks
  trans : s.transOutstanding = s.trans
  spoken : s.spoken ≤ c.spiMempoolNumBlocks
  served : s.nulls = 0
  running : s.aborted = false

theorem boot_inv (c : Config) (n : Nat) : Inv c (boot n) := by
  refine ⟨?_, ?_, ?_, rfl, rfl⟩ <;>
    simp [boot, State.blocks, State.trans, State.spoken, State.stored, queued, TaskPc.load,
      PostPc.load, Config.spiMempoolNumBlocks, spiQueueSize]

/-- What is held was spoken for, but for the finished transaction. -/
theorem NextPc.load_le (n : NextPc) : n.load.blocks ≤ 2 ∧ n.load.trans ≤ 1 ∧ n.load.spoken = 2 := by
  cases n <;> simp [NextPc.load]

theorem TaskPc.load_le (pc : TaskPc) :
    pc.load.blocks ≤ pc.load.spoken ∧ pc.load.trans ≤ pc.load.spoken := by
  cases pc with
  | sendPkt startup p => cases startup <;> simp [TaskPc.load]
  | giveTx startup => exact ⟨Nat.zero_le _, Nat.zero_le _⟩
  | next n =>
    have hLoad := n.load_le
    simp only [TaskPc.load]
    omega
  | idle | recvRx p => exact ⟨Nat.le_refl _, Nat.le_refl _⟩

theorem PostPc.load_le (pc : PostPc) :
    pc.load.blocks ≤ pc.load.spoken + 2 ∧ pc.load.trans ≤ pc.load.spoken + 2 := by
  cases pc with
  | next n =>
    have hLoad := n.load_le
    simp only [PostPc.load]
    omega
  | _ => simp [PostPc.load]

variable {c : Config} {s s' u : State}

theorem Inv.le_spoken (h : Inv c s) :
    s.outstanding ≤ s.spoken ∧ s.transOutstanding ≤ s.spoken := by
  have hBlocks := total_le s.tasks fun pc => pc.load_le.1
  have hTrans := total_le s.tasks fun pc => pc.load_le.2
  have hPost := s.post.load_le
  rw [h.blocks, h.trans]
  simp only [State.blocks, State.trans, State.spoken, State.stored]
  omega

theorem Inv.sized (h : Inv c s) : Sized c s :=
  ⟨h.blocks, h.le_spoken.1.trans h.spoken, h.served, h.running⟩

/-- There is a block for a task that holds less than it has spoken for. -/
theorem Inv.room_task {i : Nat} {pc : TaskPc} (h : Inv c s) (hTask : s.tasks[i]? = some pc) :
    (pc.load.blocks < pc.load.spoken → s.outstanding < c.spiMempoolNumBlocks) ∧
      (pc.load.trans < pc.load.spoken → s.transOutstanding < c.spiMempoolNumBlocks) := by
  have hBlocks := total_le s.tasks fun pc => pc.load_le.1
  have hTrans := total_le s.tasks fun pc => pc.load_le.2
  have hPost := s.post.load_le
  have hSpoken := h.spoken
  rw [h.blocks, h.trans]
  simp only [State.blocks, State.trans, State.spoken, State.stored] at hSpoken ⊢
  refine ⟨fun hLt => ?_, fun hLt => ?_⟩
  · have hStrict := total_lt (fun pc => pc.load_le.1) hTask hLt
    omega
  · have hStrict := total_lt (fun pc => pc.load_le.2) hTask hLt
    omega

/-- So there is for the post-process task. -/
theorem Inv.room_post (h : Inv c s) :
    (s.post.load.blocks < s.post.load.spoken + 2 → s.outstanding < c.spiMempoolNumBlocks) ∧
      (s.post.load.trans < s.post.load.spoken + 2 →
        s.transOutstanding < c.spiMempoolNumBlocks) := by
  have hBlocks := total_le s.tasks fun pc => pc.load_le.1
  have hTrans := total_le s.tasks fun pc => pc.load_le.2
  have hSpoken := h.spoken
  rw [h.blocks, h.trans]
  simp only [State.blocks, State.trans, State.spoken, State.stored] at hSpoken ⊢
  omega

/-- A step from `s` to `u` of a thread whose load goes from `l` to `l'`. What is spoken for grows
by `k` at most. -/
structure Moved (k : Nat) (s u : State) (l l' : Load) : Prop where
  tasks : u.tasks = s.tasks
  post : u.post = s.post
  blocks : u.outstanding + (s.stored + l.blocks) = s.outstanding + (u.stored + l'.blocks)
  trans : u.transOutstanding + (s.loaded + s.results + l.trans) =
    s.transOutstanding + (u.loaded + u.results + l'.trans)
  spoken : u.stored + l'.spoken ≤ s.stored + l.spoken + k
  nulls : u.nulls = s.nulls
  aborted : u.aborted = s.aborted

theorem Inv.task {k i : Nat} {pc q : TaskPc} (h : Inv c s) (hTask : s.tasks[i]? = some pc)
    (hMoved : Moved k s u pc.load q.load) (hBudget : s.spoken + k ≤ c.spiMempoolNumBlocks) :
    Inv c (u.goto i q) := by
  have hBlocks := total_set (w := (·.load.blocks)) (y := q) hTask
  have hTrans := total_set (w := (·.load.trans)) (y := q) hTask
  have hSpoken := total_set (w := (·.load.spoken)) (y := q) hTask
  have hInvBlocks := h.blocks
  have hInvTrans := h.trans
  have hMovedBlocks := hMoved.blocks
  have hMovedTrans := hMoved.trans
  have hMovedSpoken := hMoved.spoken
  refine ⟨?_, ?_, ?_, hMoved.nulls.trans h.served, hMoved.aborted.trans h.running⟩
  · change u.outstanding = u.stored + total _ (u.tasks.set i q) + u.post.load.blocks
    rw [hMoved.tasks, hMoved.post]
    simp only [State.blocks] at hInvBlocks
    omega
  · change u.transOutstanding =
      u.loaded + u.results + total _ (u.tasks.set i q) + u.post.load.trans
    rw [hMoved.tasks, hMoved.post]
    simp only [State.trans] at hInvTrans
    omega
  · change u.stored + total _ (u.tasks.set i q) + u.post.load.spoken + 2 ≤ _
    rw [hMoved.tasks, hMoved.post]
    simp only [State.spoken] at hBudget
    omega

theorem Inv.postTask {k : Nat} {q : PostPc} (h : Inv c s)
    (hMoved : Moved k s u s.post.load q.load) (hBudget : s.spoken + k ≤ c.spiMempoolNumBlocks) :
    Inv c { u with post := q } := by
  have hInvBlocks := h.blocks
  have hInvTrans := h.trans
  have hMovedBlocks := hMoved.blocks
  have hMovedTrans := hMoved.trans
  have hMovedSpoken := hMoved.spoken
  refine ⟨?_, ?_, ?_, hMoved.nulls.trans h.served, hMoved.aborted.trans h.running⟩
  · change u.outstanding = u.stored + total _ u.tasks + q.load.blocks
    rw [hMoved.tasks]
    simp only [State.blocks] at hInvBlocks
    omega
  · change u.transOutstanding = u.loaded + u.results + total _ u.tasks + q.load.trans
    rw [hMoved.tasks]
    simp only [State.trans] at hInvTrans
    omega
  · change u.stored + total _ u.tasks + q.load.spoken + 2 ≤ _
    rw [hMoved.tasks]
    simp only [State.spoken] at hBudget
    omega

/-! ## Each step -/

theorem queued_update (q : Prio → Nat) (p : Prio) (n : Nat) :
    queued (Function.update q p n) + q p = queued q + n := by
  cases p <;> simp [queued, Function.update] <;> omega

theorem next_moved {n : NextPc} {r : Option NextPc} (hExec : n.exec c s = some (u, r))
    (hRoom : n.load.blocks < 2 → s.outstanding < c.spiMempoolNumBlocks)
    (hTrans : s.transOutstanding < c.spiMempoolNumBlocks) :
    Moved 0 s u n.load (nextLoad r) := by
  cases n with
  | take =>
    simp only [NextPc.exec] at hExec
    split at hExec <;> cases hExec <;> exact ⟨rfl, rfl, rfl, rfl, Nat.le_refl _, rfl, rfl⟩
  | recv p =>
    simp only [NextPc.exec] at hExec
    split at hExec
    · cases hExec
      cases p <;> exact ⟨rfl, rfl, rfl, rfl, Nat.le_refl _, rfl, rfl⟩
    · cases hExec
      have hQueued := queued_update s.txQueue p (s.txQueue p - 1)
      refine ⟨rfl, rfl, ?_, rfl, ?_, rfl, rfl⟩ <;>
        simp only [State.stored, nextLoad, NextPc.load] <;> omega
  | dummy =>
    simp only [NextPc.exec, if_pos (hRoom (by decide))] at hExec
    cases hExec
    refine ⟨rfl, rfl, ?_, rfl, Nat.le_refl _, rfl, rfl⟩
    simp only [State.stored, nextLoad, NextPc.load]
    omega
  | allocTrans =>
    simp only [NextPc.exec, if_pos hTrans] at hExec
    cases hExec
    refine ⟨rfl, rfl, rfl, ?_, Nat.le_refl _, rfl, rfl⟩
    simp only [nextLoad, NextPc.load]
    omega
  | allocRx =>
    simp only [NextPc.exec, if_pos (hRoom (by decide))] at hExec
    cases hExec
    refine ⟨rfl, rfl, ?_, rfl, Nat.le_refl _, rfl, rfl⟩
    simp only [State.stored, nextLoad, NextPc.load]
    omega
  | queueTrans =>
    simp only [NextPc.exec] at hExec
    split at hExec
    · cases hExec
      refine ⟨rfl, rfl, ?_, ?_, ?_, rfl, rfl⟩ <;>
        simp only [State.stored, nextLoad, NextPc.load] <;> omega
    · cases hExec

theorem afterNext_load (r : Option NextPc) : (TaskPc.afterNext r).load = nextLoad r := by
  cases r <;> rfl

/-- The transaction that is finished is held as well. -/
theorem Moved.post_next {n : NextPc} {r : Option NextPc} (h : Moved 0 s u n.load (nextLoad r)) :
    Moved 0 s u (PostPc.next n).load (PostPc.afterNext r).load := by
  have hBlocks := h.blocks
  have hTrans := h.trans
  have hSpoken := h.spoken
  refine ⟨h.tasks, h.post, ?_, ?_, ?_, h.nulls, h.aborted⟩ <;>
    cases r <;> simp only [PostPc.load, PostPc.afterNext, nextLoad] at * <;> omega

theorem task_inv {i : Nat} (h : Inv c s) (hStep : task c s i = some s') : Inv c s' := by
  unfold task at hStep
  split at hStep
  · cases hStep
  · rename_i pc hTask
    obtain ⟨⟨u, q⟩, hExec, rfl⟩ := Option.map_eq_some_iff.mp hStep
    obtain ⟨hRoom, hTransRoom⟩ := h.room_task hTask
    refine h.task hTask (k := 0) ?_ h.spoken
    cases pc with
    | idle => cases hExec
    | sendPkt startup p =>
      simp only [TaskPc.exec] at hExec
      split at hExec
      · cases hExec
        have hQueued := queued_update s.txQueue p (s.txQueue p + 1)
        refine ⟨rfl, rfl, ?_, rfl, ?_, rfl, rfl⟩
        · simp only [State.stored, TaskPc.load]
          omega
        · cases startup <;> simp only [State.stored, TaskPc.load] <;> grind
      · cases hExec
    | giveTx startup =>
      cases startup <;> cases hExec <;> exact ⟨rfl, rfl, rfl, rfl, Nat.le_refl _, rfl, rfl⟩
    | next n =>
      obtain ⟨⟨v, r⟩, hNext, hPair⟩ := Option.map_eq_some_iff.mp hExec
      cases hPair
      have hLoad := n.load_le
      rw [afterNext_load]
      refine next_moved hNext (fun hLt => hRoom ?_) (hTransRoom ?_) <;>
        simp only [TaskPc.load] <;> omega
    | recvRx p =>
      simp only [TaskPc.exec] at hExec
      split at hExec
      · cases hExec
        cases p <;> exact ⟨rfl, rfl, rfl, rfl, Nat.le_refl _, rfl, rfl⟩
      · cases hExec
        have hQueued := queued_update s.rxQueue p (s.rxQueue p - 1)
        refine ⟨rfl, rfl, ?_, rfl, ?_, rfl, rfl⟩ <;>
          simp only [State.stored, TaskPc.load] <;> omega

theorem post_inv (h : Inv c s) (hStep : post c s = some s') : Inv c s' := by
  obtain ⟨⟨u, q⟩, hExec, rfl⟩ := Option.map_eq_some_iff.mp hStep
  obtain ⟨hRoom, hTransRoom⟩ := h.room_post
  refine h.postTask (k := 0) ?_ h.spoken
  cases hPc : s.post with
  | idle | processRx =>
    rw [hPc] at hExec
    cases hExec
  | next n =>
    rw [hPc] at hExec hRoom hTransRoom
    obtain ⟨⟨v, r⟩, hNext, hPair⟩ := Option.map_eq_some_iff.mp hExec
    cases hPair
    have hLoad := n.load_le
    refine (next_moved hNext (fun hLt => hRoom ?_) (hTransRoom ?_)).post_next <;>
      simp only [PostPc.load] <;> omega
  | freeTx | freeRx =>
    rw [hPc] at hExec
    have hBlocks := h.blocks
    simp only [State.blocks, hPc, PostPc.load] at hBlocks
    cases hExec
    refine ⟨rfl, rfl, ?_, rfl, Nat.le_refl _, rfl, rfl⟩
    simp only [State.stored, PostPc.load] at hBlocks ⊢
    omega
  | sendRx p =>
    rw [hPc] at hExec
    simp only [PostPc.exec] at hExec
    split at hExec
    · cases hExec
      have hQueued := queued_update s.rxQueue p (s.rxQueue p + 1)
      refine ⟨rfl, rfl, ?_, rfl, ?_, rfl, rfl⟩ <;>
        simp only [State.stored, PostPc.load] <;> omega
    · cases hExec
  | giveRx =>
    rw [hPc] at hExec
    cases hExec
    exact ⟨rfl, rfl, rfl, rfl, Nat.le_refl _, rfl, rfl⟩
  | freeTrans =>
    rw [hPc] at hExec
    have hTrans := h.trans
    simp only [State.trans, hPc, PostPc.load] at hTrans
    cases hExec
    refine ⟨rfl, rfl, rfl, ?_, Nat.le_refl _, rfl, rfl⟩
    simp only [PostPc.load]
    omega

/-- A packet is allocated for which there is room. -/
theorem allocTx_inv {k i : Nat} {q : TaskPc} (h : Inv c s) (hTask : s.tasks[i]? = some .idle)
    (hLoad : q.load = ⟨1, 0, k⟩) (hOne : 1 ≤ k)
    (hBudget : s.spoken + k ≤ c.spiMempoolNumBlocks) : Inv c (allocTx c s i q) := by
  have hLe := h.le_spoken.1
  unfold allocTx
  rw [if_pos (by omega)]
  refine h.task hTask (k := k) ?_ hBudget
  rw [hLoad]
  refine ⟨rfl, rfl, ?_, rfl, ?_, rfl, rfl⟩ <;> simp only [State.stored, TaskPc.load] <;> omega

theorem espSpiWrite_inv {i ifType payloadLen : Nat} (h : Inv c s)
    (hGuard : Budgeted c s (.espSpiWrite i ifType payloadLen))
    (hStep : espSpiWrite c s i ifType payloadLen = some s') : Inv c s' := by
  unfold espSpiWrite at hStep
  split at hStep
  · rename_i hTask
    cases hStep
    split
    · rename_i hAccepted
      exact allocTx_inv h hTask rfl (Nat.le_refl _) (hGuard hAccepted)
    · exact h
  · cases hStep

theorem generateStartupEvent_inv {i : Nat} (h : Inv c s)
    (hGuard : Budgeted c s (.generateStartupEvent i))
    (hStep : generateStartupEvent c s i = some s') : Inv c s' := by
  unfold generateStartupEvent at hStep
  split at hStep
  · rename_i hTask
    cases hStep
    exact allocTx_inv h hTask rfl (by decide) hGuard
  · cases hStep

theorem espSpiRead_inv {i : Nat} (h : Inv c s) (hStep : espSpiRead s i = some s') : Inv c s' := by
  unfold espSpiRead at hStep
  split at hStep
  · rename_i hTask
    split at hStep
    · cases hStep
    · cases hStep
      exact h.task hTask (k := 0) ⟨rfl, rfl, rfl, rfl, Nat.le_refl _, rfl, rfl⟩ h.spoken
  · cases hStep

/-- The buffer of a packet that was read goes back into the pool. -/
theorem espSpiReadDone_inv (h : Inv c s) (hStep : espSpiReadDone s = some s') : Inv c s' := by
  unfold espSpiReadDone at hStep
  split at hStep
  · cases hStep
  · cases hStep
    have hBlocks := h.blocks
    simp only [State.blocks, State.stored] at hBlocks
    refine h.postTask (k := 0) (q := s.post)
      (u := { s with outstanding := s.outstanding - 1, reading := s.reading - 1 })
      ⟨rfl, rfl, ?_, rfl, ?_, rfl, rfl⟩ h.spoken <;>
      simp only [State.stored] <;> omega

theorem transfer_inv (h : Inv c s) (hStep : transfer s = some s') : Inv c s' := by
  unfold transfer at hStep
  split at hStep
  · cases hStep
  · cases hStep
    refine h.postTask (k := 0) (q := s.post)
      (u := { s with loaded := s.loaded - 1, results := s.results + 1 })
      ⟨rfl, rfl, ?_, ?_, ?_, rfl, rfl⟩ h.spoken <;>
      simp only [State.stored] <;> omega

/-- The two blocks of the transaction are now with the post-process task. -/
theorem getTransResult_inv (h : Inv c s) (hStep : getTransResult s = some s') : Inv c s' := by
  unfold getTransResult at hStep
  split at hStep
  · rename_i hPc
    split at hStep
    · cases hStep
    · cases hStep
      refine h.postTask (k := 0) (u := { s with results := s.results - 1 })
        ⟨rfl, rfl, ?_, ?_, ?_, rfl, rfl⟩ h.spoken <;>
        simp only [State.stored, hPc, PostPc.load, NextPc.load] <;> omega
  · cases hStep

theorem processSpiRx_inv {hdr : RxHeader} (h : Inv c s) (hGuard : Budgeted c s (.processSpiRx hdr))
    (hStep : processSpiRx s hdr = some s') : Inv c s' := by
  unfold processSpiRx at hStep
  split at hStep
  · rename_i hPc
    cases hStep
    cases hValid : hdr.valid with
    | true =>
      refine h.postTask (k := 1) (u := s) ⟨rfl, rfl, ?_, ?_, ?_, rfl, rfl⟩ (hGuard hValid) <;>
        simp [hPc, PostPc.load]
    | false =>
      refine h.postTask (k := 0) (u := s) ⟨rfl, rfl, ?_, ?_, ?_, rfl, rfl⟩ h.spoken <;>
        simp [hPc, PostPc.load]
  · cases hStep

theorem step_inv {a : Action} (h : Inv c s) (hGuard : Budgeted c s a)
    (hStep : step c s a = some s') : Inv c s' := by
  unfold step at hStep
  split at hStep
  · cases hStep
  · cases a with
    | task i => exact task_inv h hStep
    | post => exact post_inv h hStep
    | espSpiWrite i ifType payloadLen => exact espSpiWrite_inv h hGuard hStep
    | generateStartupEvent i => exact generateStartupEvent_inv h hGuard hStep
    | espSpiRead i => exact espSpiRead_inv h hStep
    | espSpiReadDone => exact espSpiReadDone_inv h hStep
    | transfer => exact transfer_inv h hStep
    | getTransResult => exact getTransResult_inv h hStep
    | processSpiRx hdr => exact processSpiRx_inv h hGuard hStep

/-! ## Runs -/

/-- No allocation fails in a run that keeps to the budget, whatever the sizes are. -/
theorem pool_suffices {n : Nat} (hRun : Reaches (step c) (Budgeted c) (boot n) s) : Sized c s :=
  (hRun.invariant (boot_inv c n) fun _ _ _ h hGuard hStep => step_inv h hGuard hStep).sized

/-- The sizes of most chips. -/
def defaultConfig : Config := ⟨20, 20⟩

/-- The slave is announced, up to its first transaction. -/
def announce : List Action := .generateStartupEvent 0 :: List.replicate 9 (.task 0)

/-- One task writes a packet, up to its end. -/
def write (ifType : Nat) : List Action := [.espSpiWrite 0 ifType 100, .task 0, .task 0]

/-- The transaction is clocked, the packet it received is read, and another one is written. -/
def oneRound : List Action :=
  [[.transfer, .getTransResult], List.replicate 6 .post, [.processSpiRx ⟨1, 100, 12, true⟩],
    List.replicate 3 .post, [.espSpiRead 0], List.replicate 3 (.task 0), [.espSpiReadDone],
    write 3].flatten

theorem pool_suffices_oneRound : ∃ s,
    Reaches (step defaultConfig) (Budgeted defaultConfig) (boot 1) s ∧
      s.outstanding = 3 ∧ Sized defaultConfig s := by
  obtain ⟨s, hRun, hOut⟩ := Option.map_eq_some_iff.mp (show
    (runGuarded (step defaultConfig) (Budgeted defaultConfig) (boot 1)
      (announce ++ oneRound)).map (·.outstanding) = some 3 by decide +kernel)
  exact ⟨s, .of_run hRun, hOut, pool_suffices (.of_run hRun)⟩

/-! ## What the sizes allow for -/

/-- The packets that a task has not queued yet. -/
def TaskPc.unsent : TaskPc → Nat
  | .sendPkt .. => 1
  | _ => 0

/-- The transactions that a task is going to queue. -/
def TaskPc.transactions : TaskPc → Nat
  | .sendPkt startup _ | .giveTx startup => startup.toNat
  | .next _ => 1
  | _ => 0

def PostPc.unread : PostPc → Nat
  | .sendRx _ => 1
  | _ => 0

def PostPc.transactions : PostPc → Nat
  | .next _ => 1
  | _ => 0

/-- The packets of all types that are not in a transaction yet. -/
def State.unsent (s : State) : Nat := queued s.txQueue + total TaskPc.unsent s.tasks

/-- The packets that were received and are not given back yet. -/
def State.unread (s : State) : Nat := queued s.rxQueue + s.reading + s.post.unread

/-- The transactions that are queued or being queued. -/
def State.transactions (s : State) : Nat :=
  s.loaded + s.results + total TaskPc.transactions s.tasks + s.post.transactions

theorem total_spoken (tasks : List TaskPc) :
    total (·.load.spoken) tasks =
      total TaskPc.unsent tasks + 2 * total TaskPc.transactions tasks := by
  induction tasks with
  | nil => rfl
  | cons pc tasks ih =>
    have hPc : pc.load.spoken = pc.unsent + 2 * pc.transactions := by
      cases pc with
      | sendPkt startup p | giveTx startup => cases startup <;> rfl
      | next n => exact n.load_le.2.2
      | idle | recvRx p => rfl
    simp only [total_cons, ih, hPc]
    omega

theorem spoken_eq (s : State) :
    s.spoken = s.unsent + s.unread + 2 * (s.transactions + 1) := by
  have hPost : s.post.load.spoken = s.post.unread + 2 * s.post.transactions := by
    cases s.post with
    | next n => exact n.load_le.2.2
    | _ => rfl
  simp only [State.spoken, State.stored, State.unsent, State.unread, State.transactions,
    total_spoken, hPost]
  omega

/-- The number of blocks is right for one queue of packets in each direction, and for three
transactions with the next one. -/
theorem budget_of_sizes (hTx : s.unsent < c.spiTxQueueSize) (hRx : s.unread ≤ c.spiRxQueueSize)
    (hTrans : s.transactions < spiQueueSize) : s.spoken + 1 ≤ c.spiMempoolNumBlocks := by
  rw [spoken_eq, Config.spiMempoolNumBlocks]
  omega

/-! ## Too many packets -/

/-- The host does not clock the bus. Of the packets that one task writes 20 wait for it in each of
two queues and 4 in the third. For the next one there is no block. -/
theorem not_pool_suffices : ∃ s,
    Reaches (step defaultConfig) anyStep (boot 1) s ∧ s.aborted = true ∧
      ¬ Sized defaultConfig s := by
  obtain ⟨s, hRun, hAborted⟩ := Option.map_eq_some_iff.mp (show
    (run (step defaultConfig) (boot 1)
      (announce ++ (List.replicate 20 (write 3)).flatten ++ (List.replicate 20 (write 4)).flatten ++
        (List.replicate 4 (write 1)).flatten ++ ([.espSpiWrite 0 1 100] : List Action))).map
      (·.aborted) = some true by decide +kernel)
  refine ⟨s, .of_plain_run hRun, hAborted, fun h => ?_⟩
  have hRunning := h.running
  rw [hAborted] at hRunning
  cases hRunning

/-- `k` of `n` tasks have a packet in their hands that they are about to queue. -/
def writing (n k : Nat) : State :=
  { boot n with
    outstanding := k
    tasks := List.replicate k (.sendPkt false .serial) ++ List.replicate (n - k) .idle }

theorem writing_tasks {n k : Nat} (hLt : k < n) :
    (writing n k).tasks[k]? = some .idle ∧
      (writing n k).tasks.set k (.sendPkt false .serial) = (writing n (k + 1)).tasks := by
  obtain ⟨m, rfl⟩ : ∃ m, n = k + (m + 1) := ⟨n - k - 1, by omega⟩
  have hRest : k + (m + 1) - k = m + 1 := by omega
  have hNext : k + (m + 1) - (k + 1) = m := by omega
  simp only [writing, hRest, hNext]
  refine ⟨by simp [List.replicate_succ], ?_⟩
  rw [List.set_append_right _ _ (by simp), List.length_replicate, Nat.sub_self,
    List.replicate_succ, List.set_cons_zero, List.append_cons, ← List.replicate_succ']

theorem writing_step {n k : Nat} (hLt : k < n) (hRoom : k < c.spiMempoolNumBlocks) :
    step c (writing n k) (.espSpiWrite k 3 100) = some (writing n (k + 1)) := by
  obtain ⟨hIdle, hSet⟩ := writing_tasks hLt
  have hPrio : pktPrio (3 % 16) = .serial := by decide
  have hAccepted : accepted 100 = true := by decide
  have hRunning : (writing n k).aborted = false := rfl
  have hOut : (writing n k).outstanding = k := rfl
  simp only [step, espSpiWrite, hIdle, hAccepted, hPrio, allocTx, hRunning, hOut, hRoom,
    Bool.false_eq_true, if_true, if_false, State.goto, hSet]
  rfl

/-- Writers allocate before they wait: with one more of them than there are blocks the last
assertion fails. -/
theorem every_pool_exhausts (c : Config) : ∃ n s,
    Reaches (step c) anyStep (boot n) s ∧ s.aborted = true := by
  have hWriting (k : Nat) (hLe : k ≤ c.spiMempoolNumBlocks) :
      Reaches (step c) anyStep (boot (c.spiMempoolNumBlocks + 1))
        (writing (c.spiMempoolNumBlocks + 1) k) := by
    induction k with
    | zero =>
      have hBoot : writing (c.spiMempoolNumBlocks + 1) 0 = boot (c.spiMempoolNumBlocks + 1) := by
        simp [writing, boot]
      rw [hBoot]
      exact .start
    | succ k ih => exact (ih (by omega)).next trivial (writing_step (by omega) (by omega))
  obtain ⟨hIdle, -⟩ := writing_tasks (Nat.lt_succ_self c.spiMempoolNumBlocks)
  let s := writing (c.spiMempoolNumBlocks + 1) c.spiMempoolNumBlocks
  refine ⟨c.spiMempoolNumBlocks + 1, s.abort, ?_, rfl⟩
  refine (hWriting _ (Nat.le_refl _)).next (a := .espSpiWrite c.spiMempoolNumBlocks 3 100)
    trivial ?_
  have hAccepted : accepted 100 = true := by decide
  have hRunning : s.aborted = false := rfl
  have hOut : s.outstanding = c.spiMempoolNumBlocks := rfl
  change step c s _ = _
  simp only [step, espSpiWrite, s, hIdle, hAccepted, allocTx, hRunning, hOut, Nat.lt_irrefl,
    Bool.false_eq_true, if_true, if_false]

end EspHosted.Spi.PoolSize
