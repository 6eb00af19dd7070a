import EspHosted.Lib.Machine
import EspHosted.Sdio.Stream
import Mathlib.Data.List.Count
import Mathlib.Data.List.Nodup

/-!
# Receive buffers in packet mode

In packet mode `sdio_read_task` takes a buffer of the pool for each transfer and hands it to
`sdio_data_to_rx_buf_task`, which passes it on to `sdio_process_rx_task` through one of three
queues. Each of the tasks may be the one that is done with the buffer. A buffer with an invalid
packet is given to `h_free`, which is not where it came from, and one that finds no queue is
given to nobody.

Buffers are numbered in the order in which they are taken from the pool.

* `processRx_eq`: whatever the interface and the consumer, `sdio_process_rx_task` gives its
  buffer back to the pool once;
* `step_inv`: in every run each buffer is in one place, was given back, or was dropped;
* `balanced_iff`: so the pool is in balance exactly if no buffer was dropped;
* `balanced_of_handled`: along runs in which every transfer is handled it always is.
-/

namespace EspHosted.Sdio.RxPool

open Machine Reads Sdio.Stream

/-! ## One packet in `sdio_process_rx_task` -/

def espStaIf : Nat := 1
def espApIf : Nat := 2
def espSerialIf : Nat := 3
def espHciIf : Nat := 4

/-- What a buffer is freed with: `sdio_buffer_free` or `h_free`. -/
inductive FreeFunc
  | pool
  | heap
  deriving DecidableEq

/-- A buffer that was freed. -/
structure Freed where
  buf : Nat
  func : FreeFunc
  deriving DecidableEq

/-- `interface_buffer_handle_t`; the pointer is `none` for `NULL`. -/
structure Handle where
  ifType : Nat
  payloadZcopy : Bool
  privBufferHandle : Option Nat
  freeBufHandle : FreeFunc
  deriving DecidableEq

/-- `H_FREE_PTR_WITH_FUNC`. -/
def freePtrWithFunc (h : Handle) : List Freed × Handle :=
  match h.privBufferHandle with
  | none => ([], h)
  | some buf => ([⟨buf, h.freeBufHandle⟩], { h with privBufferHandle := none })

/-- What the task finds: whether a channel is registered for the interface, and whether the
serial layer discards the packet. -/
structure Consumer where
  channel : Bool
  discarded : Bool
  deriving DecidableEq

/-- The branches on `if_type`. The serial layer frees what it discards, and a packet for the
network is copied before it is passed on. -/
def dispatch (c : Consumer) (h : Handle) : List Freed × Handle :=
  if h.ifType = espSerialIf then if c.discarded then freePtrWithFunc h else ([], h)
  else if h.ifType = espStaIf ∨ h.ifType = espApIf then
    if c.channel then freePtrWithFunc h else ([], h)
  else ([], h)

/-- One round of `sdio_process_rx_task`. -/
def processRx (c : Consumer) (h : Handle) : List Freed :=
  let r := dispatch c h
  if r.2.payloadZcopy then r.1 else r.1 ++ (freePtrWithFunc r.2).1

/-! ## The pipeline -/

/-- `free` are the blocks of the pool that are left to receive into, `allocs` the buffers taken so
far. `reading` is `rxbuff` of `sdio_read_task`, and `handed` the buffer at `read_index` with what
was read into it. `dropped` are the buffers that no task has any more and that were not given back
to the pool. -/
structure State where
  free : Nat
  allocs : Nat
  reading : Option Nat
  handed : Option (Nat × Memory)
  serialQueue : List Handle
  btQueue : List Handle
  othersQueue : List Handle
  processing : Option Handle
  freed : List Freed
  dropped : List Nat

def boot (blocks : Nat) : State := ⟨blocks, 0, none, none, [], [], [], none, [], []⟩

inductive Action
  | getBuffer
  | readBlock (data : Option Memory)
  | push (queuesReady : Bool)
  | recv
  | process (c : Consumer)

/-- `sdio_rx_get_buffer`. The task asserts that there is one. -/
def getBuffer (s : State) : Option State :=
  if s.reading = none ∧ 0 < s.free then
    some { s with free := s.free - 1, allocs := s.allocs + 1, reading := some s.allocs }
  else none

/-- `sdio_buffer_free`. -/
def State.giveBack (s : State) (buf : Nat) : State :=
  { s with free := s.free + 1, freed := s.freed ++ [⟨buf, .pool⟩] }

/-- The end of a round of `sdio_read_task`. The buffer of a failed read is freed, and that of a
transfer for which the other task is not ready. -/
def readBlock (s : State) (data : Option Memory) : Option State :=
  match s.reading with
  | none => none
  | some buf =>
    let s := { s with reading := none }
    match data with
    | none => some (s.giveBack buf)
    | some data =>
      match s.handed with
      | none => some { s with handed := some (buf, data) }
      | some _ => some (s.giveBack buf)

/-- `h->if_type`. -/
def ifType (data : Memory) : Nat := (data 0 &&& 0x0F).toNat

/-- `buf_handle` in `sdio_push_pkt_to_queue`. -/
def bufHandle (buf : Nat) (data : Memory) : Handle :=
  { ifType := ifType data, payloadZcopy := false, privBufferHandle := some buf,
    freeBufHandle := .pool }

/-- `h_queue_send` to the queue for the interface. -/
def State.enqueue (s : State) (h : Handle) : State :=
  if h.ifType = espSerialIf then { s with serialQueue := s.serialQueue ++ [h] }
  else if h.ifType = espHciIf then { s with btQueue := s.btQueue ++ [h] }
  else { s with othersQueue := s.othersQueue ++ [h] }

/-- `sdio_push_data_to_queue` of packet mode in `sdio_data_to_rx_buf_task`, and `read_index = -1`
behind it. -/
def push (b : Build) (s : State) (queuesReady : Bool) : Option State :=
  match s.handed with
  | none => none
  | some (buf, data) =>
    let s := { s with handed := none }
    match (isValidSdioRxPacket b data).accepted with
    | none => some { s with freed := s.freed ++ [⟨buf, .heap⟩], dropped := s.dropped ++ [buf] }
    | some _ =>
      if queuesReady then some (s.enqueue (bufHandle buf data))
      else some { s with dropped := s.dropped ++ [buf] }

/-- `h_queue_recv` from the three queues. -/
def recv (s : State) : Option State :=
  match s.processing with
  | some _ => none
  | none =>
    match s.serialQueue with
    | h :: rest => some { s with serialQueue := rest, processing := some h }
    | [] =>
      match s.btQueue with
      | h :: rest => some { s with btQueue := rest, processing := some h }
      | [] =>
        match s.othersQueue with
        | h :: rest => some { s with othersQueue := rest, processing := some h }
        | [] => none

/-- The rest of the round. -/
def process (s : State) (c : Consumer) : Option State :=
  match s.processing with
  | none => none
  | some h =>
    let freed := processRx c h
    some { s with
      free := s.free + freed.countP (·.func = .pool)
      processing := none
      freed := s.freed ++ freed }

def step (b : Build) (s : State) : Action → Option State
  | .getBuffer => getBuffer s
  | .readBlock data => readBlock s data
  | .push queuesReady => push b s queuesReady
  | .recv => recv s
  | .process c => process s c

/-! ## Balance -/

/-- The buffers in the hands of a task or in a queue. -/
def State.places (s : State) : List Nat :=
  s.reading.toList ++ s.handed.toList.map Prod.fst ++
    (s.serialQueue ++ s.btQueue ++ s.othersQueue ++ s.processing.toList).filterMap
      Handle.privBufferHandle

/-- Every buffer that is in no place was given back to the pool, once, and nothing was freed
otherwise. The pool is whole when the pipeline is empty. -/
structure Balanced (blocks : Nat) (s : State) : Prop where
  pool : ∀ f ∈ s.freed, f.func = .pool
  back : ∀ buf, buf < s.allocs → buf ∉ s.places → (s.freed.map Freed.buf).count buf = 1
  whole : s.places = [] → s.free = blocks

/-- A transfer that is passed on holds a valid packet, and the queues are there. -/
def Handled (b : Build) (s : State) : Action → Prop
  | .push queuesReady => queuesReady = true ∧
      ∀ h ∈ s.handed, (isValidSdioRxPacket b h.2).accepted.isSome
  | _ => True

instance (b : Build) (s : State) : (a : Action) → Decidable (Handled b s a)
  | .push queuesReady => by
    unfold Handled
    infer_instance
  | .getBuffer | .readBlock _ | .recv | .process _ => .isTrue trivial

/-- The packet's way out of the driver. -/
theorem processRx_eq (c : Consumer) {h : Handle} {buf : Nat} (hBuf : h.privBufferHandle = some buf)
    (hFunc : h.freeBufHandle = .pool) (hZcopy : h.payloadZcopy = false) :
    processRx c h = [⟨buf, .pool⟩] := by
  obtain ⟨ifType, payloadZcopy, privBufferHandle, freeBufHandle⟩ := h
  subst hBuf hFunc hZcopy
  unfold processRx dispatch
  split
  · cases c.discarded <;> rfl
  · split
    · cases c.channel <;> rfl
    · rfl

/-! ## The invariant -/

def State.handles (s : State) : List Handle :=
  s.serialQueue ++ s.btQueue ++ s.othersQueue ++ s.processing.toList

/-- The buffers that were given back. -/
def poolFreed (freed : List Freed) : List Nat :=
  (freed.filter (·.func = .pool)).map Freed.buf

/-- A handle as `sdio_push_pkt_to_queue` makes it. -/
structure Fresh (h : Handle) : Prop where
  buf : ∃ buf, h.privBufferHandle = some buf
  func : h.freeBufHandle = .pool
  zcopy : h.payloadZcopy = false

/-- A buffer that was taken was given back, was dropped, or is in one place. -/
structure Inv (blocks : Nat) (s : State) : Prop where
  fresh : ∀ h ∈ s.handles, Fresh h
  count : ∀ buf, (poolFreed s.freed).count buf + s.dropped.count buf + s.places.count buf =
    (List.range s.allocs).count buf
  blocks : s.free + s.allocs = blocks + (poolFreed s.freed).length
  heap : ∀ f ∈ s.freed, f.func ≠ .pool → f.buf ∈ s.dropped

theorem boot_inv (blocks : Nat) : Inv blocks (boot blocks) :=
  ⟨nofun, fun _ => rfl, rfl, nofun⟩

theorem poolFreed_append (freed freed' : List Freed) :
    poolFreed (freed ++ freed') = poolFreed freed ++ poolFreed freed' := by
  simp [poolFreed]

variable {b : Build} {blocks : Nat} {s s' : State}

theorem getBuffer_inv (h : Inv blocks s) (hStep : getBuffer s = some s') : Inv blocks s' := by
  unfold getBuffer at hStep
  split at hStep
  · rename_i hReady
    cases hStep
    refine ⟨h.fresh, fun buf => ?_, ?_, h.heap⟩
    · have hCount := h.count buf
      simp only [State.places, hReady.1, Option.toList_none, Option.toList_some, List.nil_append,
        List.range_succ, List.count_append] at hCount ⊢
      omega
    · have hBlocks := h.blocks
      have hFree := hReady.2
      simp only
      omega
  · cases hStep

/-- The buffer of a transfer is given back before it is passed on. -/
theorem giveBack_inv {buf : Nat} (h : Inv blocks s) (hReading : s.reading = some buf) :
    Inv blocks (State.giveBack { s with reading := none } buf) := by
  refine ⟨h.fresh, fun k => ?_, ?_, fun f hf => ?_⟩
  · have hCount := h.count k
    simp only [State.giveBack, State.places, hReading, Option.toList_none, Option.toList_some,
      List.nil_append, poolFreed_append, List.count_append] at hCount ⊢
    simp only [poolFreed, decide_true, List.filter_cons_of_pos, List.filter_nil, List.map_cons,
      List.map_nil] at hCount ⊢
    omega
  · have hBlocks := h.blocks
    simp only [State.giveBack, poolFreed_append, List.length_append]
    simp only [poolFreed, decide_true, List.filter_cons_of_pos, List.filter_nil, List.map_cons,
      List.map_nil, List.length_singleton] at hBlocks ⊢
    omega
  · intro hFunc
    rcases List.mem_append.mp hf with hf | hf
    · exact h.heap f hf hFunc
    · rw [List.mem_singleton.mp hf] at hFunc
      exact absurd rfl hFunc

theorem readBlock_inv {data : Option Memory} (h : Inv blocks s)
    (hStep : readBlock s data = some s') : Inv blocks s' := by
  unfold readBlock at hStep
  split at hStep
  · cases hStep
  · rename_i buf hReading
    simp only at hStep
    split at hStep
    · cases hStep
      exact giveBack_inv h hReading
    · split at hStep
      · rename_i data hHanded
        cases hStep
        refine ⟨h.fresh, fun k => ?_, h.blocks, h.heap⟩
        have hCount := h.count k
        simp only [State.places, hReading, hHanded, Option.toList_none, Option.toList_some,
          List.map_cons, List.map_nil, List.count_append] at hCount ⊢
        simp only [List.count_nil] at hCount ⊢
        omega
      · cases hStep
        exact giveBack_inv h hReading

theorem enqueue_eq (s : State) (h : Handle) :
    (s.enqueue h).free = s.free ∧ (s.enqueue h).allocs = s.allocs ∧
      (s.enqueue h).freed = s.freed ∧ (s.enqueue h).dropped = s.dropped := by
  unfold State.enqueue
  split
  · exact ⟨rfl, rfl, rfl, rfl⟩
  · split <;> exact ⟨rfl, rfl, rfl, rfl⟩

theorem mem_handles_enqueue {h k : Handle} (hMem : k ∈ (s.enqueue h).handles) :
    k ∈ s.handles ∨ k = h := by
  unfold State.enqueue State.handles at hMem
  unfold State.handles
  split at hMem
  · simp only [List.mem_append, List.mem_singleton] at hMem ⊢
    tauto
  · split at hMem <;> simp only [List.mem_append, List.mem_singleton] at hMem ⊢ <;> tauto

theorem count_places_enqueue {h : Handle} {buf : Nat} (hBuf : h.privBufferHandle = some buf)
    (k : Nat) : (s.enqueue h).places.count k = s.places.count k + [buf].count k := by
  have hOne : [h].filterMap Handle.privBufferHandle = [buf] := by simp [hBuf]
  unfold State.enqueue State.places
  split
  · simp only [List.filterMap_append, List.count_append, hOne]
    omega
  · split <;> simp only [List.filterMap_append, List.count_append, hOne] <;> omega

/-- A buffer that is handed over leaves the hands of `sdio_read_task`. -/
theorem count_places_handed {buf : Nat} {data : Memory} (hHanded : s.handed = some (buf, data))
    (k : Nat) :
    s.places.count k = (State.places { s with handed := none }).count k + [buf].count k := by
  simp only [State.places, hHanded, Option.toList_some, Option.toList_none, List.map_cons,
    List.map_nil, List.count_append, List.count_nil]
  omega

theorem push_inv {queuesReady : Bool} (h : Inv blocks s) (hStep : push b s queuesReady = some s') :
    Inv blocks s' := by
  unfold push at hStep
  split at hStep
  · cases hStep
  · rename_i buf data hHanded
    have hPlaces := count_places_handed hHanded
    have hDropped : ∀ freed : List Freed, (∀ f ∈ freed, f = ⟨buf, .heap⟩) →
        Inv blocks { s with handed := none, freed := s.freed ++ freed,
                            dropped := s.dropped ++ [buf] } := by
      intro freed hFreed
      have hNone : poolFreed freed = [] := by
        rw [poolFreed, List.map_eq_nil_iff, List.filter_eq_nil_iff]
        intro f hf
        simp [hFreed f hf]
      refine ⟨h.fresh, fun k => ?_, ?_, fun f hf hFunc => ?_⟩
      · have hCount := h.count k
        rw [hPlaces k] at hCount
        simp only [poolFreed_append, hNone, List.append_nil, List.count_append]
        change _ + (_ + _) + (State.places { s with handed := none }).count k = _
        omega
      · simpa only [poolFreed_append, hNone, List.append_nil] using h.blocks
      · rw [List.mem_append]
        rcases List.mem_append.mp hf with hf | hf
        · exact .inl (h.heap f hf hFunc)
        · rw [hFreed f hf]
          exact .inr List.mem_cons_self
    simp only at hStep
    split at hStep
    · cases hStep
      exact hDropped _ fun f hf => List.mem_singleton.mp hf
    · split at hStep
      · cases hStep
        have hFresh : Fresh (bufHandle buf data) := ⟨⟨buf, rfl⟩, rfl, rfl⟩
        obtain ⟨hFree, hAllocs, hFreed, hDrop⟩ :=
          enqueue_eq { s with handed := none } (bufHandle buf data)
        refine ⟨fun k hk => ?_, fun k => ?_, ?_, ?_⟩
        · rcases mem_handles_enqueue hk with hk | rfl
          · exact h.fresh k hk
          · exact hFresh
        · have hCount := h.count k
          rw [hPlaces k] at hCount
          rw [hFreed, hDrop, hAllocs, count_places_enqueue (show _ = some buf from rfl) k]
          omega
        · rw [hFree, hAllocs, hFreed]
          exact h.blocks
        · rw [hFreed, hDrop]
          exact h.heap
      · cases hStep
        have hNone := hDropped [] nofun
        rwa [List.append_nil] at hNone

/-- Taking a handle from a queue moves its buffer. -/
theorem recv_inv (h : Inv blocks s) (hStep : recv s = some s') : Inv blocks s' := by
  unfold recv at hStep
  split at hStep
  · cases hStep
  · rename_i hProcessing
    have hMoved : ∀ {t : State}, t.reading = s.reading → t.handed = s.handed →
        t.free = s.free → t.allocs = s.allocs → t.freed = s.freed → t.dropped = s.dropped →
        t.handles.Perm s.handles → Inv blocks t := by
      intro t hReading hHanded hFree hAllocs hFreed hDropped hPerm
      refine ⟨fun k hk => h.fresh k (hPerm.mem_iff.mp hk), fun k => ?_, ?_, ?_⟩
      · have hCount := h.count k
        have hSame : (t.handles.filterMap Handle.privBufferHandle).count k =
            (s.handles.filterMap Handle.privBufferHandle).count k :=
          (hPerm.filterMap _).count_eq k
        unfold State.handles at hSame
        simp only [State.places, List.count_append] at hCount ⊢
        rw [hReading, hHanded, hAllocs, hFreed, hDropped, hSame]
        exact hCount
      · rw [hFree, hAllocs, hFreed]
        exact h.blocks
      · rw [hFreed, hDropped]
        exact h.heap
    split at hStep
    · rename_i k rest hSerial
      cases hStep
      refine hMoved rfl rfl rfl rfl rfl rfl ?_
      simp only [State.handles, hSerial, hProcessing, Option.toList_some, Option.toList_none,
        List.append_nil, List.cons_append]
      exact List.perm_append_singleton _ _
    · rename_i hSerial
      split at hStep
      · rename_i k rest hBt
        cases hStep
        refine hMoved rfl rfl rfl rfl rfl rfl ?_
        simp only [State.handles, hSerial, hBt, hProcessing, Option.toList_some,
          Option.toList_none, List.append_nil, List.nil_append, List.cons_append]
        exact List.perm_append_singleton _ _
      · rename_i hBt
        split at hStep
        · rename_i k rest hOthers
          cases hStep
          refine hMoved rfl rfl rfl rfl rfl rfl ?_
          simp only [State.handles, hSerial, hBt, hOthers, hProcessing, Option.toList_some,
            Option.toList_none, List.append_nil, List.nil_append]
          exact List.perm_append_singleton _ _
        · cases hStep

theorem process_inv {c : Consumer} (h : Inv blocks s) (hStep : process s c = some s') :
    Inv blocks s' := by
  unfold process at hStep
  split at hStep
  · cases hStep
  · rename_i k hProcessing
    obtain ⟨⟨buf, hBuf⟩, hFunc, hZcopy⟩ := h.fresh k (by simp [State.handles, hProcessing])
    have hPool : poolFreed [⟨buf, .pool⟩] = [buf] := rfl
    rw [processRx_eq c hBuf hFunc hZcopy] at hStep
    cases hStep
    refine ⟨fun k hk => h.fresh k ?_, fun k => ?_, ?_, fun f hf hNot => ?_⟩
    · simp only [State.handles, Option.toList_none, List.append_nil] at hk ⊢
      exact List.mem_append_left _ hk
    · have hCount := h.count k
      simp only [State.places, hProcessing, Option.toList_some, Option.toList_none,
        List.filterMap_append, List.filterMap_cons, List.filterMap_nil, hBuf, List.count_append,
        List.count_nil, poolFreed_append, hPool] at hCount ⊢
      omega
    · have hBlocks := h.blocks
      simp only [poolFreed_append, hPool, List.length_append, List.length_singleton,
        List.countP_singleton, decide_true, if_true]
      omega
    · rcases List.mem_append.mp hf with hf | hf
      · exact h.heap f hf hNot
      · rw [List.mem_singleton.mp hf] at hNot
        exact absurd rfl hNot

theorem step_inv {a : Action} (h : Inv blocks s) (hStep : step b s a = some s') :
    Inv blocks s' := by
  cases a with
  | getBuffer => exact getBuffer_inv h hStep
  | readBlock data => exact readBlock_inv h hStep
  | push queuesReady => exact push_inv h hStep
  | recv => exact recv_inv h hStep
  | process c => exact process_inv h hStep

/-! ## Runs -/

/-- The pool is in balance exactly if no buffer was dropped. -/
theorem Inv.balanced_iff (h : Inv blocks s) : Balanced blocks s ↔ s.dropped = [] := by
  constructor
  · intro hBalanced
    refine List.eq_nil_iff_forall_not_mem.mpr fun buf hMem => ?_
    have hCount := h.count buf
    have hLe : (List.range s.allocs).count buf ≤ 1 :=
      List.nodup_iff_count_le_one.mp List.nodup_range buf
    have hDropped := List.count_pos_iff.mpr hMem
    have hTaken : buf ∈ List.range s.allocs := List.count_pos_iff.mp (by omega)
    have hPlace : buf ∉ s.places := List.count_eq_zero.mp (by omega)
    have hOnce := hBalanced.back buf (List.mem_range.mp hTaken) hPlace
    have hAll : poolFreed s.freed = s.freed.map Freed.buf := by
      rw [poolFreed, List.filter_eq_self.mpr fun f hf => decide_eq_true (hBalanced.pool f hf)]
    rw [hAll] at hCount
    omega
  · intro hNone
    have hPool : ∀ f ∈ s.freed, f.func = .pool := by
      intro f hf
      by_contra hNot
      have hMem := h.heap f hf hNot
      rw [hNone] at hMem
      cases hMem
    have hAll : poolFreed s.freed = s.freed.map Freed.buf := by
      rw [poolFreed, List.filter_eq_self.mpr fun f hf => decide_eq_true (hPool f hf)]
    refine ⟨hPool, fun buf hTaken hPlace => ?_, fun hEmpty => ?_⟩
    · have hCount := h.count buf
      have hRange : (List.range s.allocs).count buf = 1 :=
        List.count_eq_one_of_mem List.nodup_range (List.mem_range.mpr hTaken)
      rw [hNone, List.count_nil, List.count_eq_zero.mpr hPlace, hAll, hRange] at hCount
      exact hCount
    · have hPerm : (poolFreed s.freed).Perm (List.range s.allocs) := by
        refine List.perm_iff_count.mpr fun buf => ?_
        have hCount := h.count buf
        rwa [hNone, hEmpty, List.count_nil] at hCount
      have hLength := hPerm.length_eq
      have hBlocks := h.blocks
      rw [List.length_range] at hLength
      omega

theorem dropped_step {a : Action} (hHandled : Handled b s a) (hStep : step b s a = some s') :
    s'.dropped = s.dropped := by
  cases a with
  | getBuffer =>
    simp only [step, getBuffer, Option.ite_none_right_eq_some] at hStep
    cases hStep.2
    rfl
  | readBlock data =>
    simp only [step, readBlock] at hStep
    split at hStep
    · cases hStep
    · split at hStep
      · cases hStep
        rfl
      · split at hStep <;> cases hStep <;> rfl
  | push queuesReady =>
    simp only [step, push] at hStep
    split at hStep
    · cases hStep
    · rename_i buf data hHanded
      obtain ⟨rfl, hValid⟩ := hHandled
      have hSome := hValid (buf, data) hHanded
      split at hStep
      · rename_i hNone
        rw [hNone] at hSome
        cases hSome
      · rw [if_pos rfl] at hStep
        cases hStep
        exact (enqueue_eq _ _).2.2.2
  | recv =>
    simp only [step, recv] at hStep
    split at hStep
    · cases hStep
    · split at hStep
      · cases hStep
        rfl
      · split at hStep
        · cases hStep
          rfl
        · split at hStep <;> cases hStep
          rfl
  | process c =>
    simp only [step, process] at hStep
    split at hStep <;> cases hStep
    rfl

/-- In every run the pool is in balance as long as no buffer was dropped. -/
theorem balanced_iff (hRun : Reaches (step b) anyStep (boot blocks) s) :
    Balanced blocks s ↔ s.dropped = [] := by
  have hInv : Inv blocks s :=
    hRun.invariant (boot_inv blocks) fun _ _ _ h _ hStep => step_inv h hStep
  exact hInv.balanced_iff

/-- None is dropped when every transfer that is passed on is handled. -/
theorem balanced_of_handled (hRun : Reaches (step b) (Handled b) (boot blocks) s) :
    Balanced blocks s := by
  have hNone : s.dropped = [] :=
    hRun.invariant (I := fun t => t.dropped = []) rfl fun _ _ _ h hHandled hStep =>
      (dropped_step hHandled hStep).trans h
  exact (balanced_iff hRun.unguarded).mpr hNone

/-- A transfer with a packet of one byte for the given interface. -/
def onePacket (ifType : UInt8) : Memory :=
  load [ifType, 0, 1, 0, 12, 0, 0, 0, 0, 0, 0, 0, 7] fun _ => 0

/-- A failed read, and a packet for the network that goes through. -/
def twoTransfers : List Action :=
  [.getBuffer, .readBlock none, .getBuffer, .readBlock (some (onePacket 1)), .push true, .recv,
    .process ⟨true, false⟩]

theorem balanced_twoTransfers : ∃ s, Reaches (step ⟨false, false⟩) (Handled ⟨false, false⟩)
    (boot 4) s ∧ s.freed = [⟨0, .pool⟩, ⟨1, .pool⟩] ∧ s.free = 4 ∧ Balanced 4 s := by
  obtain ⟨s, hs, hFreed, hFree⟩ : ∃ s, runGuarded (step ⟨false, false⟩) (Handled ⟨false, false⟩)
      (boot 4) twoTransfers = some s ∧ s.freed = [⟨0, .pool⟩, ⟨1, .pool⟩] ∧ s.free = 4 :=
    ⟨_, rfl, rfl, rfl⟩
  exact ⟨s, .of_run hs, hFreed, hFree, balanced_of_handled (.of_run hs)⟩

/-- A transfer of zeros is no valid packet, and its buffer is freed on the heap. -/
theorem not_balanced :
    ¬ ∀ (b : Build) (blocks : Nat) (s : State), Reaches (step b) anyStep (boot blocks) s →
      Balanced blocks s := by
  intro h
  obtain ⟨s, hs, hFreed⟩ : ∃ s, run (step ⟨false, false⟩) (boot 4)
      [.getBuffer, .readBlock (some fun _ => 0), .push true] = some s ∧
      s.freed = [⟨0, .heap⟩] := ⟨_, rfl, rfl⟩
  have hPool := (h ⟨false, false⟩ 4 s (.of_plain_run hs)).pool ⟨0, .heap⟩ (by simp [hFreed])
  cases hPool

end EspHosted.Sdio.RxPool
