import EspHosted.Lib.FreeList
import EspHosted.Lib.Machine

/-!
# Memory pools

`hosted_mempool_create` cuts a heap into blocks and threads a free list through them.
`os_memblock_get` and `os_memblock_put` take and return blocks in a critical section. There is one
mutex for all pools, `hosted_port_mutex`, and every pool that is created replaces it.

Any number of tasks use any number of pools. A task may be interrupted before and after it takes
the mutex, in the middle of the critical section, and before it gives the mutex back. The memory
maps an address to the pointer that is stored there; the owner of a block may write into it.
Addresses are natural numbers, and sizes are computed modulo 2^32.
-/

namespace EspHosted.Mempool

open FreeList

/-! ## Sizes -/

/-- `OS_ALIGNMENT`, and `sizeof(os_membuf_t)`. -/
def osAlignment : Nat := 4

/-- `OS_MEMPOOL_TRUE_BLOCK_SIZE`. -/
def trueBlockSize (blockSize : Nat) : Nat :=
  (if blockSize % osAlignment = 0 then blockSize
    else blockSize + (osAlignment - blockSize % osAlignment)) % 2 ^ 32

/-- `OS_MEMPOOL_BYTES`. -/
def osMempoolBytes (n blockSize : Nat) : Nat :=
  osAlignment * (((blockSize + (osAlignment - 1)) % 2 ^ 32 / osAlignment * n) % 2 ^ 32) % 2 ^ 32

/-- `VAL & (BYTES - 1)`. -/
def misalignment (val bytes : Nat) : Nat := val &&& ((bytes + 2 ^ 32 - 1) % 2 ^ 32)

/-- `MEMPOOL_ALIGNED`. -/
def mempoolAligned (val bytes : Nat) : Nat :=
  (val + bytes + 2 ^ 32 - misalignment val bytes) % 2 ^ 32

/-- `hosted_mempool_config_t` with its four functions in place; `size_t` and `int` fields are their
values modulo 2^32, and `preAllocatedMem` 0 is `NULL`. -/
structure PoolConfig where
  preAllocatedMem : Nat
  preAllocatedMemSize : Nat
  numBlocks : Nat
  blockSize : Nat
  alignmentInBytes : Nat
  deriving DecidableEq

/-- What `calloc` and `malloc` return, 0 for `NULL`, and whether `xSemaphoreCreateMutex`
succeeds. -/
structure Memory where
  newOk : Bool
  poolOk : Bool
  heap : Nat
  mutexOk : Bool
  deriving DecidableEq

/-- The heap of a pool and its size, if `hosted_mempool_create` comes to `mempool_init`. -/
def poolHeap (cfg : PoolConfig) (m : Memory) : Option (Nat × Nat) :=
  if !m.newOk || !m.poolOk then none
  else if cfg.preAllocatedMem = 0 then
    if m.heap = 0 then none
    else some (m.heap,
      mempoolAligned (osMempoolBytes cfg.numBlocks cfg.blockSize) cfg.alignmentInBytes)
  else if cfg.preAllocatedMemSize < osMempoolBytes cfg.numBlocks cfg.blockSize then none
  else if misalignment cfg.preAllocatedMem cfg.alignmentInBytes ≠ 0 then none
  else some (cfg.preAllocatedMem, cfg.preAllocatedMemSize)

/-! ## The state -/

/-- `hosted_mempool_t` and its `os_mempool`, up to `first`. `outstanding` are the blocks that
were taken from the free list and not put back. -/
structure Pool where
  live : Bool
  heap : Nat
  heapBytes : Nat
  numBlocks : Nat
  blockSize : Nat
  mpNumBlocks : Nat
  mpNumFree : Nat
  mpMinFree : Nat
  first : Nat
  outstanding : List Nat

/-- Who has a block that is outstanding: the client, or a task in a call. -/
inductive Keeper
  | client
  | task (t : Nat)
  deriving DecidableEq

/-- Where a task is in `hosted_mempool_alloc` or `hosted_mempool_free`: waiting for the mutex that
`OS_ENTER_CRITICAL` read, at the first and at the second half of the critical section, before
`OS_EXIT_CRITICAL`. A block 0 is `NULL`. -/
inductive Pc
  | idle
  | getWait (pool mutex clear : Nat)
  | getRead (pool clear : Nat)
  | getWrite (pool block next clear : Nat)
  | getExit (pool block clear : Nat)
  | putWait (pool block mutex : Nat)
  | putLink (pool block : Nat)
  | putWrite (pool block : Nat)
  | putExit (pool : Nat)
  deriving DecidableEq

/-- The pool of a call. -/
def Pc.pool : Pc → Option Nat
  | .idle => none
  | .getWait p .. | .getRead p _ | .getWrite p .. | .getExit p .. | .putWait p .. | .putLink p _
  | .putWrite p _ | .putExit p => some p

/-- An allocation that came to the free list: whether it gets a block, and how many were
outstanding. -/
structure AllocResult where
  ok : Bool
  outstanding : Nat
  numBlocks : Nat
  deriving DecidableEq

/-- `hostedPortMutex` is the current mutex and `mutexes` counts those created so far; `busy` are
the tasks in a call. -/
structure State where
  pools : List Pool
  mem : Nat → Nat
  hostedPortMutex : Nat
  mutexes : Nat
  holder : Nat → Option Nat
  pc : Nat → Pc
  busy : List Nat
  keeper : Nat → Keeper
  allocs : List AllocResult

def boot : State :=
  { pools := [], mem := fun _ => 0, hostedPortMutex := 0, mutexes := 0, holder := fun _ => none
    pc := fun _ => .idle, busy := [], keeper := fun _ => .client, allocs := [] }

def State.livePool (s : State) (p : Nat) : Option Pool := (s.pools[p]?).filter Pool.live

def State.setPool (s : State) (p : Nat) (pl : Pool) : State := { s with pools := s.pools.set p pl }

def State.setPc (s : State) (t : Nat) (pc : Pc) : State :=
  { s with pc := Function.update s.pc t pc }

/-! ## Creating and destroying -/

/-- Two heaps that do not overlap. -/
def Apart (heap heapBytes : Nat) (pl : Pool) : Prop :=
  heap + heapBytes ≤ pl.heap ∨ pl.heap + pl.heapBytes ≤ heap

instance (heap heapBytes : Nat) (pl : Pool) : Decidable (Apart heap heapBytes pl) := by
  unfold Apart
  infer_instance

/-- `OS_INIT_CRITICAL`. Nobody looks whether the mutex is there. -/
def osInitCritical (s : State) (mutexOk : Bool) : State :=
  if mutexOk then { s with hostedPortMutex := s.mutexes + 1, mutexes := s.mutexes + 1 }
  else { s with hostedPortMutex := 0 }

/-- `os_mempool_init`, which takes the number of blocks as `uint16_t`. -/
def osMempoolInit (s : State) (cfg : PoolConfig) (heap heapBytes : Nat) (mutexOk : Bool) : State :=
  let n := cfg.numBlocks % 2 ^ 16
  if cfg.blockSize = 0 then s
  else
    let s := osInitCritical s mutexOk
    if heap % osAlignment ≠ 0 then s
    else
      { s with
        mem := if 0 < n then linkBlocks s.mem heap (trueBlockSize cfg.blockSize) (n - 1) else s.mem
        pools := s.pools ++ [{
          live := true, heap := heap, heapBytes := heapBytes, numBlocks := cfg.numBlocks
          blockSize := cfg.blockSize, mpNumBlocks := n, mpNumFree := n, mpMinFree := n
          first := heap, outstanding := [] }] }

/-- `hosted_mempool_create`. The heap is not part of the heap of a live pool: `malloc` returns free
memory, and nobody gives memory that is in use. -/
def create (s : State) (cfg : PoolConfig) (m : Memory) : Option State :=
  match poolHeap cfg m with
  | none => some s
  | some (heap, heapBytes) =>
    if ∀ pl ∈ s.pools, pl.live = true → Apart heap heapBytes pl then
      some (osMempoolInit s cfg heap heapBytes m.mutexOk)
    else none

/-- `hosted_mempool_destroy`, when no task is in a call on the pool. -/
def destroy (s : State) (p : Nat) : Option State :=
  if ∀ t ∈ s.busy, (s.pc t).pool ≠ some p then
    (s.livePool p).map fun pl => s.setPool p { pl with live := false, outstanding := [] }
  else none

/-! ## Taking and returning blocks -/

/-- `hosted_mempool_alloc` up to `OS_ENTER_CRITICAL`; `clear` are the bytes to set to 0. -/
def alloc (s : State) (t p nbytes : Nat) (needMemset : Bool) : Option State :=
  if s.pc t = .idle then
    (s.livePool p).map fun pl =>
      if pl.blockSize < nbytes then s
      else { s.setPc t (.getWait p s.hostedPortMutex (if needMemset then nbytes else 0)) with
        busy := t :: s.busy }
  else none

/-- `hosted_mempool_free` up to `OS_ENTER_CRITICAL`. A block is freed by the client that has it. -/
def free (s : State) (t p block : Nat) : Option State :=
  if s.pc t = .idle ∧ s.keeper block = .client then
    (s.livePool p).bind fun pl =>
      if block ∈ pl.outstanding then
        some { s.setPc t (.putWait p block s.hostedPortMutex) with
          busy := t :: s.busy
          keeper := Function.update s.keeper block (.task t) }
      else none
  else none

/-- `xSemaphoreTake` gets the mutex. That a handle is `NULL` fails an assertion there. -/
def enter (s : State) (t : Nat) : Option State :=
  match s.pc t with
  | .getWait p h clear =>
    if h ≠ 0 ∧ s.holder h = none then
      some { s.setPc t (.getRead p clear) with holder := Function.update s.holder h (some t) }
    else none
  | .putWait p block h =>
    if h ≠ 0 ∧ s.holder h = none then
      some { s.setPc t (.putLink p block) with holder := Function.update s.holder h (some t) }
    else none
  | _ => none

/-- The second half of the critical section of `os_memblock_get`. -/
def Pool.get (pl : Pool) (block next : Nat) : Pool :=
  { pl with
    first := next
    mpNumFree := (pl.mpNumFree + 2 ^ 16 - 1) % 2 ^ 16
    mpMinFree := min pl.mpMinFree ((pl.mpNumFree + 2 ^ 16 - 1) % 2 ^ 16)
    outstanding := block :: pl.outstanding }

/-- The second half of the critical section of `os_memblock_put`. -/
def Pool.put (pl : Pool) (block : Nat) : Pool :=
  { pl with
    first := block
    mpNumFree := (pl.mpNumFree + 1) % 2 ^ 16
    outstanding := pl.outstanding.erase block }

/-- One half of the critical section. -/
def critical (s : State) (t : Nat) : Option State :=
  match s.pc t with
  | .getRead p clear =>
    (s.livePool p).map fun pl =>
      { s.setPc t
          (if pl.mpNumFree = 0 then .getExit p 0 clear
            else .getWrite p pl.first (s.mem pl.first) clear) with
        allocs := s.allocs ++
          [⟨pl.mpNumFree != 0 && pl.first != 0, pl.outstanding.length, pl.numBlocks⟩] }
  | .getWrite p block next clear =>
    (s.livePool p).map fun pl =>
      { (s.setPc t (.getExit p block clear)).setPool p (pl.get block next) with
        keeper := Function.update s.keeper block (.task t) }
  | .putLink p block =>
    (s.livePool p).map fun pl =>
      { s.setPc t (.putWrite p block) with mem := Function.update s.mem block pl.first }
  | .putWrite p block =>
    (s.livePool p).map fun pl => (s.setPc t (.putExit p)).setPool p (pl.put block)
  | _ => none

/-- `memset`. -/
def memset (mem : Nat → Nat) (block nbytes : Nat) : Nat → Nat := fun a =>
  if block ≤ a ∧ a < block + nbytes then 0 else mem a

/-- `OS_EXIT_CRITICAL` gives the mutex that is current by now, and the call returns. -/
def exit (s : State) (t : Nat) : Option State :=
  let given := { s.setPc t .idle with
    holder := Function.update s.holder s.hostedPortMutex none, busy := s.busy.erase t }
  match s.pc t with
  | .getExit _ block clear =>
    if block = 0 then some given
    else some { given with
      mem := memset s.mem block clear, keeper := Function.update s.keeper block .client }
  | .putExit _ => some given
  | _ => none

/-- The client writes into a block that it has. -/
def clientWrite (s : State) (p block offset val : Nat) : Option State :=
  (s.livePool p).bind fun pl =>
    if block ∈ pl.outstanding ∧ s.keeper block = .client ∧ offset < pl.blockSize then
      some { s with mem := Function.update s.mem (block + offset) val }
    else none

inductive Action
  | create (cfg : PoolConfig) (m : Memory)
  | destroy (p : Nat)
  | alloc (t p nbytes : Nat) (needMemset : Bool)
  | free (t p block : Nat)
  | enter (t : Nat)
  | critical (t : Nat)
  | exit (t : Nat)
  | clientWrite (p block offset val : Nat)
  deriving DecidableEq

def step (s : State) : Action → Option State
  | .create cfg m => create s cfg m
  | .destroy p => destroy s p
  | .alloc t p nbytes needMemset => alloc s t p nbytes needMemset
  | .free t p block => free s t p block
  | .enter t => enter s t
  | .critical t => critical s t
  | .exit t => exit s t
  | .clientWrite p block offset val => clientWrite s p block offset val

end EspHosted.Mempool
