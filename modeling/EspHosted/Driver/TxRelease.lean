import Mathlib.Data.List.Count

/-!
# Who frees a buffer that is transmitted

`esp_hosted_tx` of the SDIO, UART and JL UART drivers takes a buffer together with the function
that frees it, and the tx task of the driver hands the buffer back once it is done with it. In
copy mode the payload is first copied into a send buffer of the driver; in zero-copy mode it is
sent from where it is.

What happens to one packet is a list of events: the free functions that are called, the send
buffers that are allocated, the writes to the bus. A `NULL` pointer is 0.

* `sdioTx_released_iff`, `uartTx_released_iff`, `jlTx_released_iff`: when each of the drivers
  hands the buffer back exactly once, and frees its send buffer exactly once;
* `tx_released_iff`: the three together.
-/

namespace EspHosted.Driver

/-- `ESP_HCI_IF`. -/
def espHciIf : Nat := 4

/-- `sizeof(struct esp_payload_header)`. -/
def headerSize : Nat := 12

def maxSdioBufferSize : Nat := 1536
def maxUartBufferSize : Nat := 1600
def moreFragment : Nat := 1

/-- The function that a pointer is freed with: none, that of the send buffers of the driver,
or one of the caller. -/
inductive FreeFunc
  | null
  | sendBuffer
  | caller (f : Nat)
  deriving DecidableEq

inductive Event
  | alloc (buf : Nat)
  | free (func : FreeFunc) (ptr : Nat)
  | write (buf len : Nat)
  | fault
  deriving DecidableEq

/-- `H_FREE_PTR_WITH_FUNC`. -/
def freePtrWithFunc (func : FreeFunc) (ptr : Nat) : List Event :=
  if func ≠ .null ∧ ptr ≠ 0 then [.free func ptr] else []

/-- The arguments of `esp_hosted_tx`. -/
structure Call where
  ifType : Nat
  payloadBuf : Nat
  payloadLen : Nat
  buffZcopy : Nat
  bufferToFree : Nat
  freeBufFunc : FreeFunc
  flags : Nat

/-- `interface_buffer_handle_t`. -/
structure Handle where
  payloadZcopy : Nat
  ifType : Nat
  payloadLen : Nat
  payload : Nat
  privBufferHandle : Nat
  freeBufHandle : FreeFunc
  flag : Nat

def Call.bufHandle (c : Call) : Handle :=
  { payloadZcopy := c.buffZcopy, ifType := c.ifType, payloadLen := c.payloadLen,
    payload := c.payloadBuf, privBufferHandle := c.bufferToFree, freeBufHandle := c.freeBufFunc,
    flag := c.flags }

/-- What the surroundings answer while a packet is transmitted: whether the transport is up and
the tx queue there and takes the packet, the send buffer (0 if there is none), whether the slave
has receive buffers, and the result of each attempt to write to the bus. -/
structure Env where
  transportUp : Bool
  queueUp : Bool
  queued : Bool
  sendBuf : Nat
  available : Bool
  written : Nat → Bool

/-! ## What the drivers share -/

/-- `h_memcpy` into the send buffer, behind the header. -/
def memcpyOk (size src n : Nat) : Bool := decide (n = 0 ∨ (src ≠ 0 ∧ n + headerSize ≤ size))

/-- The payload is copied behind the header, in copy mode; the first byte of an HCI packet goes
into the header. The value is the length that is left, as a `uint16_t`, and `none` if memory is
read or written that is not there. `if_type` has four bits in the header. -/
def copyPayload (size : Nat) (h : Handle) : Option Nat :=
  if h.payloadZcopy ≠ 0 then some h.payloadLen
  else if h.ifType % 16 = espHciIf then
    let len := (h.payloadLen + 65535) % 65536
    if h.payload ≠ 0 ∧ memcpyOk size (h.payload + 1) len then some len else none
  else if memcpyOk size h.payload h.payloadLen then some h.payloadLen else none

/-- The events at the label `done` of the SDIO and UART drivers. -/
def atDone (h : Handle) (len : Nat) (freeFunc : FreeFunc) (sendbuf : Nat) : List Event :=
  (if len ≠ 0 ∧ h.payloadZcopy = 0 then freePtrWithFunc h.freeBufHandle h.privBufferHandle
    else []) ++
  freePtrWithFunc freeFunc sendbuf

/-! ## SDIO -/

/-- The local variables of `sdio_write_task` that stay from one packet to the next. -/
structure SdioWriteTask where
  len : Nat
  flag : Nat
  sendbuf : Nat
  freeFunc : FreeFunc

/-- `MAX_SDIO_WRITE_RETRY`. -/
def maxSdioWriteRetry : Nat := 2

/-- The write loop: the whole packet is sent at once, or tried again. -/
def sdioWriteBlocks (env : Env) (sendbuf dataLeft : Nat) : (left : Nat) → List Event
  | 0 => []
  | left + 1 =>
    .write sendbuf dataLeft ::
      if env.written (maxSdioWriteRetry - (left + 1)) then []
      else sdioWriteBlocks env sendbuf dataLeft left

/-- One packet in `sdio_write_task`. -/
def sdioWriteTask (env : Env) (t : SdioWriteTask) (h : Handle) : List Event × SdioWriteTask :=
  let t := { t with len := h.payloadLen, flag := h.flag }
  if t.flag = 0 ∧ t.len = 0 then (atDone h t.len t.freeFunc t.sendbuf, t)
  else
    let t := if h.payloadZcopy = 0 then { t with sendbuf := env.sendBuf, freeFunc := .sendBuffer }
      else { t with sendbuf := h.payload, freeFunc := h.freeBufHandle }
    if t.sendbuf = 0 then
      let t := { t with freeFunc := .null }
      (atDone h t.len t.freeFunc t.sendbuf, t)
    else
      let allocated : List Event := if h.payloadZcopy = 0 then [.alloc t.sendbuf] else []
      if maxSdioBufferSize - headerSize < h.payloadLen then
        (allocated ++ atDone h t.len t.freeFunc t.sendbuf, t)
      else
        match copyPayload maxSdioBufferSize h with
        | none => (allocated ++ [.fault], t)
        | some len =>
          let t := { t with len }
          let writes := if env.available then
            sdioWriteBlocks env t.sendbuf (len + headerSize) maxSdioWriteRetry else []
          (allocated ++ writes ++ atDone h t.len t.freeFunc t.sendbuf, t)

/-- The check at the entry of `esp_hosted_tx`. -/
def sdioAccepts (env : Env) (c : Call) : Bool :=
  decide (c.payloadBuf ≠ 0 ∧ c.payloadLen ≠ 0 ∧ c.payloadLen ≤ maxSdioBufferSize - headerSize ∧
    env.transportUp = true)

/-- A packet from `esp_hosted_tx` on until the tx task is done with it. -/
def sdioTx (env : Env) (t : SdioWriteTask) (c : Call) : List Event :=
  if sdioAccepts env c then (sdioWriteTask env t c.bufHandle).1
  else freePtrWithFunc c.freeBufFunc c.bufferToFree

/-! ## UART -/

/-- `h_uart_write_packet`. -/
def uartWritePacket (env : Env) (h : Handle) : List Event :=
  if h.flag = 0 ∧ h.payloadLen = 0 then []
  else if h.payloadZcopy = 0 ∧ env.sendBuf = 0 then []
  else
    let sendbuf := if h.payloadZcopy = 0 then env.sendBuf else h.payload
    let freeFunc := if h.payloadZcopy = 0 then .sendBuffer else h.freeBufHandle
    let allocated : List Event := if h.payloadZcopy = 0 then [.alloc sendbuf] else []
    if maxUartBufferSize - headerSize < h.payloadLen then
      allocated ++ atDone h h.payloadLen freeFunc sendbuf
    else if sendbuf = 0 then [.fault]
    else
      match copyPayload maxUartBufferSize h with
      | none => allocated ++ [.fault]
      | some len =>
        allocated ++ [.write sendbuf (len + headerSize)] ++ atDone h len freeFunc sendbuf

/-- The check at the entry, which flags other than `MORE_FRAGMENT` get past. -/
def uartAccepts (env : Env) (c : Call) : Bool :=
  decide (¬ ((c.flags = 0 ∨ c.flags = moreFragment) ∧ (c.payloadBuf = 0 ∨ c.payloadLen = 0 ∨
    maxUartBufferSize - headerSize < c.payloadLen ∨ env.transportUp = false)))

def uartTx (env : Env) (c : Call) : List Event :=
  if uartAccepts env c then uartWritePacket env c.bufHandle
  else freePtrWithFunc c.freeBufFunc c.bufferToFree

/-! ## JL UART -/

/-- `jl_uart_write_packet`. -/
def jlUartWritePacket (env : Env) (h : Handle) : List Event :=
  if h.flag = 0 ∧ h.payloadLen = 0 then []
  else if h.payloadZcopy = 0 ∧ env.sendBuf = 0 then []
  else
    let sendbuf := if h.payloadZcopy = 0 then env.sendBuf else h.payload
    let freeFunc := if h.payloadZcopy = 0 then .sendBuffer else h.freeBufHandle
    let allocated : List Event := if h.payloadZcopy = 0 then [.alloc sendbuf] else []
    if maxUartBufferSize - headerSize < h.payloadLen then
      allocated ++ if freeFunc ≠ .null then [.free freeFunc sendbuf] else []
    else if sendbuf = 0 then [.fault]
    else
      match copyPayload maxUartBufferSize h with
      | none => allocated ++ [.fault]
      | some len =>
        allocated ++ [.write sendbuf (len + headerSize)] ++
          if freeFunc ≠ .null ∧ h.payloadZcopy = 0 then [.free freeFunc sendbuf] else []

/-- The marker of `jl_uart_transport_stop`. -/
def stopSentinel : Nat := 255

/-- One packet in `jl_uart_tx_task`. -/
def jlUartTxTask (env : Env) (h : Handle) : List Event :=
  if h.payloadZcopy = stopSentinel then []
  else
    let events := jlUartWritePacket env h
    -- nothing runs after a fault
    if .fault ∈ events then events
    else events ++ freePtrWithFunc h.freeBufHandle h.privBufferHandle

def jlTx (env : Env) (c : Call) : List Event :=
  if env.queueUp = true ∧ env.queued = true then jlUartTxTask env c.bufHandle else []

/-! ## The buffers of one packet -/

/-- The functions of the caller are called. -/
def Event.ofCaller : Event → Bool
  | .free (.caller _) _ => true
  | _ => false

def Event.isWrite : Event → Bool
  | .write _ _ => true
  | _ => false

/-- The function of the caller is called exactly once, on the buffer that came with it, and
every send buffer is freed as often as it is allocated. -/
structure ReleasedOnce (c : Call) (events : List Event) : Prop where
  once : events.filter Event.ofCaller = [.free c.freeBufFunc c.bufferToFree]
  sendBufs : ∀ buf, events.count (.free .sendBuffer buf) = events.count (.alloc buf)

section Released

variable {c : Call} {f : Nat} {events : List Event}

/-- Writes to the bus do not matter. -/
theorem releasedOnce_owned :
    ReleasedOnce c events ↔ ReleasedOnce c (events.filter fun e => !e.isWrite) := by
  have hCaller : (events.filter fun e => !e.isWrite).filter Event.ofCaller =
      events.filter Event.ofCaller := by
    rw [List.filter_filter]
    refine List.filter_congr fun e _ => ?_
    cases e <;> simp [Event.ofCaller, Event.isWrite]
  have hCount : ∀ e : Event, e.isWrite = false →
      (events.filter fun e => !e.isWrite).count e = events.count e := fun e he =>
    List.count_filter (by rw [he]; rfl)
  refine ⟨fun h => ⟨?_, fun buf => ?_⟩, fun h => ⟨?_, fun buf => ?_⟩⟩
  · rw [hCaller, h.once]
  · rw [hCount _ rfl, hCount _ rfl, h.sendBufs]
  · rw [← hCaller, h.once]
  · rw [← hCount _ rfl, ← hCount (.alloc buf) rfl, h.sendBufs]

theorem releasedOnce_dropWrites (before : List Event) {writes after : List Event}
    (hWrites : ∀ e ∈ writes, e.isWrite = true) :
    ReleasedOnce c (before ++ writes ++ after) ↔ ReleasedOnce c (before ++ after) := by
  have hNone : (writes.filter fun e => !e.isWrite) = [] :=
    List.filter_eq_nil_iff.mpr fun e he => by simp [hWrites e he]
  rw [releasedOnce_owned, List.filter_append, List.filter_append, hNone, List.append_nil,
    ← List.filter_append, ← releasedOnce_owned]

theorem not_releasedOnce (h : ∀ e ∈ events, e.ofCaller = false) : ¬ ReleasedOnce c events := by
  intro hReleased
  have hNil : events.filter Event.ofCaller = [] :=
    List.filter_eq_nil_iff.mpr fun e he => by rw [h e he]; exact Bool.false_ne_true
  rw [hReleased.once] at hNil
  cases hNil

/-- A send buffer that is allocated and freed does not matter either. -/
theorem releasedOnce_sendBuf (buf : Nat) (before after : List Event) :
    ReleasedOnce c (.alloc buf :: (before ++ .free .sendBuffer buf :: after)) ↔
      ReleasedOnce c (before ++ after) := by
  have hCaller : (Event.alloc buf :: (before ++ .free .sendBuffer buf :: after)).filter
      Event.ofCaller = (before ++ after).filter Event.ofCaller := by
    simp [Event.ofCaller]
  refine ⟨fun h => ⟨hCaller.symm.trans h.once, fun b => ?_⟩,
    fun h => ⟨hCaller.trans h.once, fun b => ?_⟩⟩
  · have hCount := h.sendBufs b
    simp only [List.count_cons, List.count_append, beq_iff_eq, Event.alloc.injEq,
      Event.free.injEq, reduceCtorEq, true_and, if_false] at hCount ⊢
    omega
  · have hCount := h.sendBufs b
    simp only [List.count_cons, List.count_append, beq_iff_eq, Event.alloc.injEq,
      Event.free.injEq, reduceCtorEq, true_and, if_false] at hCount ⊢
    omega

theorem releasedOnce_free (hFunc : c.freeBufFunc = .caller f) (hBuf : c.bufferToFree ≠ 0)
    (ptr : Nat) :
    ReleasedOnce c (freePtrWithFunc c.freeBufFunc ptr) ↔ ptr = c.bufferToFree := by
  unfold freePtrWithFunc
  rw [hFunc]
  split
  · refine ⟨fun h => ?_, fun h => ⟨?_, fun buf => ?_⟩⟩
    · have hOnce : [Event.free (.caller f) ptr] = [.free c.freeBufFunc c.bufferToFree] := h.once
      rw [hFunc] at hOnce
      cases hOnce
      rfl
    · simp [Event.ofCaller, hFunc, h]
    · simp
  · rename_i hNone
    have hPtr : ptr = 0 := by simpa using hNone
    refine ⟨fun h => absurd h (not_releasedOnce (by simp)), fun h => ?_⟩
    omega

/-- In copy mode the send buffer is freed and the buffer of the caller is handed back unless
`len` has become 0. -/
theorem releasedOnce_copied (hFunc : c.freeBufFunc = .caller f) (hBuf : c.bufferToFree ≠ 0)
    (hCopy : c.buffZcopy = 0) {buf len : Nat} (hSendBuf : buf ≠ 0) :
    ReleasedOnce c (.alloc buf :: atDone c.bufHandle len .sendBuffer buf) ↔ len ≠ 0 := by
  have hDone : atDone c.bufHandle len .sendBuffer buf =
      (if len ≠ 0 then freePtrWithFunc c.freeBufFunc c.bufferToFree else []) ++
        [.free .sendBuffer buf] := by
    simp [atDone, Call.bufHandle, hCopy, freePtrWithFunc, hSendBuf]
  rw [hDone, releasedOnce_sendBuf, List.append_nil]
  split
  · rename_i hLen
    exact ⟨fun _ => hLen, fun _ => (releasedOnce_free hFunc hBuf _).mpr rfl⟩
  · rename_i hLen
    exact ⟨fun h => absurd h (not_releasedOnce (by simp)), fun h => absurd h hLen⟩

/-- In zero-copy mode the payload itself is freed. -/
theorem releasedOnce_zcopy (hFunc : c.freeBufFunc = .caller f) (hBuf : c.bufferToFree ≠ 0)
    (hZcopy : c.buffZcopy ≠ 0) (len : Nat) :
    ReleasedOnce c (atDone c.bufHandle len c.freeBufFunc c.payloadBuf) ↔
      c.payloadBuf = c.bufferToFree := by
  have hDone : atDone c.bufHandle len c.freeBufFunc c.payloadBuf =
      freePtrWithFunc c.freeBufFunc c.payloadBuf := by
    simp [atDone, Call.bufHandle, hZcopy]
  rw [hDone, releasedOnce_free hFunc hBuf]

end Released

theorem sdioWriteBlocks_write (env : Env) (sendbuf dataLeft : Nat) :
    ∀ left, ∀ e ∈ sdioWriteBlocks env sendbuf dataLeft left, e.isWrite = true := by
  intro left
  induction left with
  | zero => simp [sdioWriteBlocks]
  | succ left ih =>
    intro e he
    simp only [sdioWriteBlocks, List.mem_cons] at he
    rcases he with rfl | he
    · rfl
    · split at he
      · cases he
      · exact ih e he

/-- What copying a packet that fits comes to. The first byte of an HCI packet is read even if
there is none, and the length that is left then wraps round. -/
theorem copyPayload_eq {size : Nat} {c : Call} (hCopy : c.buffZcopy = 0)
    (hMax : c.payloadLen + headerSize ≤ size) (hSize : size ≤ 65535) :
    copyPayload size c.bufHandle =
      if c.ifType % 16 = espHciIf then
        if c.payloadBuf ≠ 0 ∧ c.payloadLen ≠ 0 then some (c.payloadLen - 1) else none
      else if c.payloadBuf ≠ 0 ∨ c.payloadLen = 0 then some c.payloadLen else none := by
  simp only [headerSize] at hMax
  simp only [copyPayload, Call.bufHandle, hCopy, ne_eq, not_true_eq_false, if_false, memcpyOk,
    decide_eq_true_eq, headerSize]
  split
  · by_cases hLen : c.payloadLen = 0
    · rw [if_neg (by omega), if_neg (by omega)]
    · have hLess : (c.payloadLen + 65535) % 65536 = c.payloadLen - 1 := by omega
      rw [hLess]
      by_cases hPayload : c.payloadBuf = 0
      · rw [if_neg (by omega), if_neg (by omega)]
      · rw [if_pos (by omega), if_pos (by omega)]
  · by_cases hSome : c.payloadBuf ≠ 0 ∨ c.payloadLen = 0
    · rw [if_pos (by omega), if_pos (by omega)]
    · rw [if_neg (by omega), if_neg (by omega)]

/-- Without a send buffer nothing is sent. -/
theorem sdioWriteTask_noBuffer {env : Env} {h : Handle} (t : SdioWriteTask)
    (hLen : h.payloadLen ≠ 0) (hCopy : h.payloadZcopy = 0) (hNone : env.sendBuf = 0) :
    (sdioWriteTask env t h).1 = atDone h h.payloadLen .null 0 := by
  simp [sdioWriteTask, hLen, hCopy, hNone]

/-- Apart from writes, a packet in copy mode allocates the send buffer and ends at `done`. -/
theorem sdioWriteTask_copy {env : Env} {h : Handle} (t : SdioWriteTask) {len : Nat}
    (hLen : h.payloadLen ≠ 0) (hMax : h.payloadLen ≤ maxSdioBufferSize - headerSize)
    (hCopy : h.payloadZcopy = 0) (hSome : env.sendBuf ≠ 0)
    (hPayload : copyPayload maxSdioBufferSize h = some len) :
    ∃ writes : List Event, (∀ e ∈ writes, e.isWrite = true) ∧ (sdioWriteTask env t h).1 =
      [.alloc env.sendBuf] ++ writes ++ atDone h len .sendBuffer env.sendBuf := by
  have hNotMax : ¬ maxSdioBufferSize - headerSize < h.payloadLen := by omega
  refine ⟨if env.available then
    sdioWriteBlocks env env.sendBuf (len + headerSize) maxSdioWriteRetry else [], ?_, ?_⟩
  · split
    · exact sdioWriteBlocks_write _ _ _ _
    · simp
  · simp [sdioWriteTask, hLen, hCopy, hSome, hNotMax, hPayload]

theorem sdioWriteTask_zcopy (env : Env) {h : Handle} (t : SdioWriteTask)
    (hLen : h.payloadLen ≠ 0) (hMax : h.payloadLen ≤ maxSdioBufferSize - headerSize)
    (hZcopy : h.payloadZcopy ≠ 0) (hSome : h.payload ≠ 0) :
    ∃ writes : List Event, (∀ e ∈ writes, e.isWrite = true) ∧ (sdioWriteTask env t h).1 =
      writes ++ atDone h h.payloadLen h.freeBufHandle h.payload := by
  have hNotMax : ¬ maxSdioBufferSize - headerSize < h.payloadLen := by omega
  refine ⟨if env.available then
    sdioWriteBlocks env h.payload (h.payloadLen + headerSize) maxSdioWriteRetry else [], ?_, ?_⟩
  · split
    · exact sdioWriteBlocks_write _ _ _ _
    · simp
  · simp [sdioWriteTask, hLen, hZcopy, hSome, hNotMax, copyPayload]

/-- When the SDIO driver hands the buffer of a call back: always if it rejects the packet; in
copy mode, unless the packet is an HCI packet of one byte that gets a send buffer; in zero-copy
mode if the payload is the buffer to free. -/
def sdioReleases (env : Env) (c : Call) : Prop :=
  sdioAccepts env c = false ∨
    if c.buffZcopy = 0 then env.sendBuf = 0 ∨ ¬ (c.ifType % 16 = espHciIf ∧ c.payloadLen = 1)
    else c.payloadBuf = c.bufferToFree

/-- When the UART driver does: in copy mode it needs a send buffer and bytes to send behind
the header, or drops the packet as too long. -/
def uartReleases (env : Env) (c : Call) : Prop :=
  uartAccepts env c = false ∨
    if c.buffZcopy = 0 then
      env.sendBuf ≠ 0 ∧ (maxUartBufferSize - headerSize < c.payloadLen ∨
        c.payloadBuf ≠ 0 ∧ (if c.ifType % 16 = espHciIf then 2 else 1) ≤ c.payloadLen)
    else c.payloadBuf = c.bufferToFree

/-- When the JL UART driver does: its tx task hands the buffer back after every packet, which
is once too often for a packet in zero-copy mode that is too long, and nothing is handed back
without the tx queue. -/
def jlReleases (env : Env) (c : Call) : Prop :=
  env.queueUp = true ∧ env.queued = true ∧ c.buffZcopy ≠ stopSentinel ∧
    ((c.flags = 0 ∧ c.payloadLen = 0) ∨
      if c.buffZcopy = 0 then
        env.sendBuf = 0 ∨ maxUartBufferSize - headerSize < c.payloadLen ∨
          if c.ifType % 16 = espHciIf then c.payloadBuf ≠ 0 ∧ c.payloadLen ≠ 0
          else c.payloadBuf ≠ 0 ∨ c.payloadLen = 0
      else c.payloadLen ≤ maxUartBufferSize - headerSize ∧ c.payloadBuf ≠ 0)

section Drivers

variable {f : Nat} {c : Call}

theorem sdioTx_released_iff (env : Env) (t : SdioWriteTask) (hFunc : c.freeBufFunc = .caller f)
    (hBuf : c.bufferToFree ≠ 0) : ReleasedOnce c (sdioTx env t c) ↔ sdioReleases env c := by
  unfold sdioTx sdioReleases
  cases hAccepts : sdioAccepts env c with
  | false => exact iff_of_true ((releasedOnce_free hFunc hBuf _).mpr rfl) (Or.inl rfl)
  | true =>
    obtain ⟨hPayload, hLen, hMax, -⟩ := of_decide_eq_true hAccepts
    rw [if_pos rfl]
    simp only [Bool.true_eq_false, false_or]
    by_cases hCopy : c.buffZcopy = 0
    · rw [if_pos hCopy]
      by_cases hNone : env.sendBuf = 0
      · rw [sdioWriteTask_noBuffer t hLen hCopy hNone]
        refine iff_of_true ?_ (Or.inl hNone)
        have hDone : atDone c.bufHandle c.payloadLen .null 0 =
            freePtrWithFunc c.freeBufFunc c.bufferToFree := by
          simp [atDone, Call.bufHandle, hCopy, hLen, freePtrWithFunc]
        exact hDone ▸ (releasedOnce_free hFunc hBuf _).mpr rfl
      · have hCopied : copyPayload maxSdioBufferSize c.bufHandle =
            some (if c.ifType % 16 = espHciIf then c.payloadLen - 1 else c.payloadLen) := by
          have hFits : c.payloadLen + headerSize ≤ maxSdioBufferSize := by
            simp only [maxSdioBufferSize, headerSize] at hMax ⊢
            omega
          rw [copyPayload_eq hCopy hFits (by decide)]
          split
          · exact if_pos ⟨hPayload, hLen⟩
          · exact if_pos (Or.inl hPayload)
        obtain ⟨writes, hWrites, hEvents⟩ := sdioWriteTask_copy t hLen hMax hCopy hNone hCopied
        rw [hEvents, releasedOnce_dropWrites _ hWrites]
        refine (releasedOnce_copied hFunc hBuf hCopy hNone).trans ?_
        split <;> omega
    · rw [if_neg hCopy]
      obtain ⟨writes, hWrites, hEvents⟩ :=
        sdioWriteTask_zcopy env t hLen hMax (h := c.bufHandle) hCopy hPayload
      rw [hEvents]
      exact (releasedOnce_dropWrites [] hWrites).trans
        (releasedOnce_zcopy hFunc hBuf hCopy _)

theorem uartTx_released_iff (env : Env) (hFunc : c.freeBufFunc = .caller f)
    (hBuf : c.bufferToFree ≠ 0) : ReleasedOnce c (uartTx env c) ↔ uartReleases env c := by
  unfold uartTx uartReleases
  cases hAccepts : uartAccepts env c with
  | false => exact iff_of_true ((releasedOnce_free hFunc hBuf _).mpr rfl) (Or.inl rfl)
  | true =>
    have hNotEmpty : ¬ (c.flags = 0 ∧ c.payloadLen = 0) := fun hEmpty =>
      of_decide_eq_true hAccepts ⟨Or.inl hEmpty.1, Or.inr (Or.inl hEmpty.2)⟩
    rw [if_pos rfl]
    simp only [Bool.true_eq_false, false_or]
    by_cases hCopy : c.buffZcopy = 0
    · rw [if_pos hCopy]
      by_cases hNone : env.sendBuf = 0
      · have hEvents : uartWritePacket env c.bufHandle = [] := by
          simp [uartWritePacket, Call.bufHandle, hCopy, hNone]
        rw [hEvents]
        exact iff_of_false (not_releasedOnce (by simp)) fun h => h.1 hNone
      · by_cases hLong : maxUartBufferSize - headerSize < c.payloadLen
        · have hEvents : uartWritePacket env c.bufHandle =
              .alloc env.sendBuf :: atDone c.bufHandle c.payloadLen .sendBuffer env.sendBuf := by
            simp [uartWritePacket, Call.bufHandle, hCopy, hNone, hLong, hNotEmpty]
          rw [hEvents, releasedOnce_copied hFunc hBuf hCopy hNone]
          exact iff_of_true (by omega) ⟨hNone, Or.inl hLong⟩
        · have hEvents : uartWritePacket env c.bufHandle =
              match copyPayload maxUartBufferSize c.bufHandle with
              | none => [.alloc env.sendBuf, .fault]
              | some len => [.alloc env.sendBuf] ++ [.write env.sendBuf (len + headerSize)] ++
                  atDone c.bufHandle len .sendBuffer env.sendBuf := by
            simp only [Call.bufHandle] at hCopy ⊢
            simp [uartWritePacket, hCopy, hNone, hLong, hNotEmpty]
          have hFits : c.payloadLen + headerSize ≤ maxUartBufferSize := by
            simp only [maxUartBufferSize, headerSize] at hLong ⊢
            omega
          have hFault : ¬ ReleasedOnce c [.alloc env.sendBuf, .fault] :=
            not_releasedOnce (by simp [Event.ofCaller])
          have hSent : ∀ len, ReleasedOnce c ([.alloc env.sendBuf] ++
              [.write env.sendBuf (len + headerSize)] ++
              atDone c.bufHandle len .sendBuffer env.sendBuf) ↔ len ≠ 0 := fun len =>
            (releasedOnce_dropWrites _ (by simp [Event.isWrite])).trans
              (releasedOnce_copied hFunc hBuf hCopy hNone)
          rw [hEvents, copyPayload_eq hCopy hFits (by decide)]
          by_cases hHci : c.ifType % 16 = espHciIf
          · rw [if_pos hHci, if_pos hHci]
            by_cases hSome : c.payloadBuf ≠ 0 ∧ c.payloadLen ≠ 0
            · rw [if_pos hSome]
              refine (hSent _).trans ?_
              omega
            · rw [if_neg hSome]
              refine iff_of_false hFault ?_
              omega
          · rw [if_neg hHci, if_neg hHci]
            by_cases hSome : c.payloadBuf ≠ 0 ∨ c.payloadLen = 0
            · rw [if_pos hSome]
              refine (hSent _).trans ?_
              omega
            · rw [if_neg hSome]
              refine iff_of_false hFault ?_
              omega
    · rw [if_neg hCopy]
      by_cases hLong : maxUartBufferSize - headerSize < c.payloadLen
      · have hEvents : uartWritePacket env c.bufHandle =
            atDone c.bufHandle c.payloadLen c.freeBufFunc c.payloadBuf := by
          simp [uartWritePacket, Call.bufHandle, hCopy, hLong, hNotEmpty]
        rw [hEvents, releasedOnce_zcopy hFunc hBuf hCopy]
      · by_cases hNull : c.payloadBuf = 0
        · have hEvents : uartWritePacket env c.bufHandle = [.fault] := by
            simp [uartWritePacket, Call.bufHandle, hCopy, hLong, hNotEmpty, hNull]
          rw [hEvents]
          exact iff_of_false (not_releasedOnce (by simp [Event.ofCaller])) (by omega)
        · have hEvents : uartWritePacket env c.bufHandle =
              [] ++ [.write c.payloadBuf (c.payloadLen + headerSize)] ++
                atDone c.bufHandle c.payloadLen c.freeBufFunc c.payloadBuf := by
            simp [uartWritePacket, Call.bufHandle, hCopy, hLong, hNotEmpty, hNull, copyPayload]
          rw [hEvents, releasedOnce_dropWrites _ (by simp [Event.isWrite])]
          exact releasedOnce_zcopy hFunc hBuf hCopy _

/-- The buffer that the tx task hands back after a packet. -/
theorem jlUartTxTask_eq {env : Env} {h : Handle} (hGo : h.payloadZcopy ≠ stopSentinel)
    (hOk : Event.fault ∉ jlUartWritePacket env h) :
    jlUartTxTask env h =
      jlUartWritePacket env h ++ freePtrWithFunc h.freeBufHandle h.privBufferHandle := by
  rw [jlUartTxTask, if_neg hGo, if_neg hOk]

theorem jlUartTxTask_fault {env : Env} {h : Handle} (hGo : h.payloadZcopy ≠ stopSentinel)
    (hFault : Event.fault ∈ jlUartWritePacket env h) :
    jlUartTxTask env h = jlUartWritePacket env h := by
  rw [jlUartTxTask, if_neg hGo, if_pos hFault]

/-- The tx task hands the buffer of a packet back that was written without a fault and without
calling a function of the caller. -/
theorem jl_released {env : Env} (hGo : c.buffZcopy ≠ stopSentinel) {events : List Event}
    (hEvents : jlUartWritePacket env c.bufHandle = events) (hOk : Event.fault ∉ events) :
    ReleasedOnce c (jlUartTxTask env c.bufHandle) ↔
      ReleasedOnce c (events ++ freePtrWithFunc c.freeBufFunc c.bufferToFree) := by
  rw [jlUartTxTask_eq hGo (hEvents ▸ hOk), hEvents]
  rfl

theorem jl_not_released {env : Env} (hGo : c.buffZcopy ≠ stopSentinel) {events : List Event}
    (hEvents : jlUartWritePacket env c.bufHandle = events) (hFault : Event.fault ∈ events)
    (hNone : ∀ e ∈ events, e.ofCaller = false) :
    ¬ ReleasedOnce c (jlUartTxTask env c.bufHandle) := by
  rw [jlUartTxTask_fault hGo (hEvents ▸ hFault), hEvents]
  exact not_releasedOnce hNone

theorem jlUartTxTask_copy_iff (env : Env) (hFunc : c.freeBufFunc = .caller f)
    (hBuf : c.bufferToFree ≠ 0) (hEmpty : ¬ (c.flags = 0 ∧ c.payloadLen = 0))
    (hCopy : c.buffZcopy = 0) :
    ReleasedOnce c (jlUartTxTask env c.bufHandle) ↔
      env.sendBuf = 0 ∨ maxUartBufferSize - headerSize < c.payloadLen ∨
        if c.ifType % 16 = espHciIf then c.payloadBuf ≠ 0 ∧ c.payloadLen ≠ 0
        else c.payloadBuf ≠ 0 ∨ c.payloadLen = 0 := by
  have hGo : c.buffZcopy ≠ stopSentinel := by
    rw [hCopy]
    decide
  have hFree := (releasedOnce_free hFunc hBuf c.bufferToFree).mpr rfl
  have hCopy' : c.bufHandle.payloadZcopy = 0 := hCopy
  have hEmpty' : ¬ (c.bufHandle.flag = 0 ∧ c.bufHandle.payloadLen = 0) := hEmpty
  by_cases hNone : env.sendBuf = 0
  · have hEvents : jlUartWritePacket env c.bufHandle = [] := by
      simp [jlUartWritePacket, hCopy', hNone]
    rw [jl_released hGo hEvents (by simp)]
    exact iff_of_true hFree (Or.inl hNone)
  · by_cases hLong : maxUartBufferSize - headerSize < c.payloadLen
    · have hLong' : maxUartBufferSize - headerSize < c.bufHandle.payloadLen := hLong
      have hEvents : jlUartWritePacket env c.bufHandle =
          [.alloc env.sendBuf, .free .sendBuffer env.sendBuf] := by
        simp [jlUartWritePacket, hCopy', hNone, hEmpty', hLong']
      rw [jl_released hGo hEvents (by simp)]
      exact iff_of_true ((releasedOnce_sendBuf _ [] _).mpr hFree) (Or.inr (Or.inl hLong))
    · have hLong' : ¬ maxUartBufferSize - headerSize < c.bufHandle.payloadLen := hLong
      have hFits : c.payloadLen + headerSize ≤ maxUartBufferSize := by
        simp only [maxUartBufferSize, headerSize] at hLong ⊢
        omega
      have hEq := copyPayload_eq hCopy hFits (by decide)
      have hSent : ∀ len, copyPayload maxUartBufferSize c.bufHandle = some len →
          ReleasedOnce c (jlUartTxTask env c.bufHandle) := by
        intro len hLen
        have hEvents : jlUartWritePacket env c.bufHandle = [.alloc env.sendBuf,
            .write env.sendBuf (len + headerSize), .free .sendBuffer env.sendBuf] := by
          simp [jlUartWritePacket, hCopy', hNone, hEmpty', hLong', hLen]
        rw [jl_released hGo hEvents (by simp)]
        refine (releasedOnce_sendBuf _ [_] _).mpr ?_
        exact (releasedOnce_dropWrites [] (by simp [Event.isWrite])).mpr hFree
      have hFault : copyPayload maxUartBufferSize c.bufHandle = none →
          ¬ ReleasedOnce c (jlUartTxTask env c.bufHandle) := by
        intro hLen
        have hEvents : jlUartWritePacket env c.bufHandle = [.alloc env.sendBuf, .fault] := by
          simp [jlUartWritePacket, hCopy', hNone, hEmpty', hLong', hLen]
        exact jl_not_released hGo hEvents (by simp) (by simp [Event.ofCaller])
      by_cases hHci : c.ifType % 16 = espHciIf
      · rw [if_pos hHci] at hEq ⊢
        split at hEq
        · exact iff_of_true (hSent _ hEq) (by omega)
        · exact iff_of_false (hFault hEq) (by omega)
      · rw [if_neg hHci] at hEq ⊢
        split at hEq
        · exact iff_of_true (hSent _ hEq) (by omega)
        · exact iff_of_false (hFault hEq) (by omega)

theorem jlUartTxTask_zcopy_iff (env : Env) (hFunc : c.freeBufFunc = .caller f)
    (hBuf : c.bufferToFree ≠ 0) (hEmpty : ¬ (c.flags = 0 ∧ c.payloadLen = 0))
    (hGo : c.buffZcopy ≠ stopSentinel) (hZcopy : c.buffZcopy ≠ 0) :
    ReleasedOnce c (jlUartTxTask env c.bufHandle) ↔
      c.payloadLen ≤ maxUartBufferSize - headerSize ∧ c.payloadBuf ≠ 0 := by
  have hFree := (releasedOnce_free hFunc hBuf c.bufferToFree).mpr rfl
  have hNotNull : c.freeBufFunc ≠ .null := by
    rw [hFunc]
    simp
  by_cases hLong : maxUartBufferSize - headerSize < c.payloadLen
  · have hEvents : jlUartWritePacket env c.bufHandle = [.free c.freeBufFunc c.payloadBuf] := by
      simp [jlUartWritePacket, Call.bufHandle, hZcopy, hEmpty, hLong, hNotNull]
    rw [jl_released hGo hEvents (by simp)]
    refine iff_of_false (fun h => ?_) (by omega)
    -- the function of the caller is called twice
    have hTwice : [Event.free c.freeBufFunc c.payloadBuf] ++
        freePtrWithFunc c.freeBufFunc c.bufferToFree =
          [.free (.caller f) c.payloadBuf, .free (.caller f) c.bufferToFree] := by
      simp [freePtrWithFunc, hBuf, hFunc]
    rw [hTwice] at h
    have hOnce : 2 = 1 := congrArg List.length h.once
    omega
  · by_cases hNull : c.payloadBuf = 0
    · have hEvents : jlUartWritePacket env c.bufHandle = [.fault] := by
        simp [jlUartWritePacket, Call.bufHandle, hZcopy, hEmpty, hLong, hNull]
      exact iff_of_false
        (jl_not_released hGo hEvents (by simp) (by simp [Event.ofCaller])) fun h => h.2 hNull
    · have hEvents : jlUartWritePacket env c.bufHandle =
          [.write c.payloadBuf (c.payloadLen + headerSize)] := by
        simp [jlUartWritePacket, Call.bufHandle, hZcopy, hEmpty, hLong, hNull, copyPayload]
      rw [jl_released hGo hEvents (by simp)]
      refine iff_of_true ?_ ⟨by omega, hNull⟩
      exact (releasedOnce_dropWrites [] (by simp [Event.isWrite])).mpr hFree

theorem jlTx_released_iff (env : Env) (hFunc : c.freeBufFunc = .caller f)
    (hBuf : c.bufferToFree ≠ 0) : ReleasedOnce c (jlTx env c) ↔ jlReleases env c := by
  unfold jlTx jlReleases
  by_cases hQueue : env.queueUp = true ∧ env.queued = true
  · rw [if_pos hQueue]
    simp only [hQueue.1, hQueue.2, true_and]
    by_cases hStop : c.buffZcopy = stopSentinel
    · have hEvents : jlUartTxTask env c.bufHandle = [] := if_pos hStop
      rw [hEvents]
      exact iff_of_false (not_releasedOnce (by simp)) fun h => h.1 hStop
    · by_cases hEmpty : c.flags = 0 ∧ c.payloadLen = 0
      · have hEvents : jlUartWritePacket env c.bufHandle = [] := by
          simp [jlUartWritePacket, Call.bufHandle, hEmpty]
        rw [jl_released hStop hEvents (by simp)]
        exact iff_of_true ((releasedOnce_free hFunc hBuf _).mpr rfl) ⟨hStop, Or.inl hEmpty⟩
      · by_cases hCopy : c.buffZcopy = 0
        · rw [if_pos hCopy, jlUartTxTask_copy_iff env hFunc hBuf hEmpty hCopy]
          simp only [ne_eq, hStop, not_false_eq_true, true_and, hEmpty, false_or]
        · rw [if_neg hCopy, jlUartTxTask_zcopy_iff env hFunc hBuf hEmpty hStop hCopy]
          simp only [ne_eq, hStop, not_false_eq_true, true_and, hEmpty, false_or]
  · rw [if_neg hQueue]
    exact iff_of_false (not_releasedOnce (by simp)) fun h => hQueue ⟨h.1, h.2.1⟩

/-- The transports; that of SDIO with what its tx task has in its variables. -/
inductive Bus
  | sdio (t : SdioWriteTask)
  | uart
  | jlUart

/-- What a call of `esp_hosted_tx` comes to. -/
def Bus.espHostedTx (env : Env) (c : Call) : Bus → List Event
  | .sdio t => sdioTx env t c
  | .uart => uartTx env c
  | .jlUart => jlTx env c

def Bus.Releases (env : Env) (c : Call) : Bus → Prop
  | .sdio _ => sdioReleases env c
  | .uart => uartReleases env c
  | .jlUart => jlReleases env c

/-- When a driver calls the function that came with a buffer exactly once, on that buffer, and
frees its send buffer exactly once. -/
theorem tx_released_iff (bus : Bus) (env : Env) (hFunc : c.freeBufFunc = .caller f)
    (hBuf : c.bufferToFree ≠ 0) :
    ReleasedOnce c (bus.espHostedTx env c) ↔ bus.Releases env c := by
  cases bus with
  | sdio t => exact sdioTx_released_iff env t hFunc hBuf
  | uart => exact uartTx_released_iff env hFunc hBuf
  | jlUart => exact jlTx_released_iff env hFunc hBuf

end Drivers

/-- Everything is there and works. -/
def fairEnv : Env :=
  { transportUp := true, queueUp := true, queued := true, sendBuf := 500, available := true,
    written := fun _ => true }

/-- An HCI packet in copy mode. -/
def hciCall (payloadLen : Nat) : Call :=
  { ifType := espHciIf, payloadBuf := 100, payloadLen, buffZcopy := 0, bufferToFree := 100,
    freeBufFunc := .caller 7, flags := 0 }

/-- As `sdio_write_task` starts. -/
def freshTask : SdioWriteTask := { len := 0, flag := 0, sendbuf := 0, freeFunc := .null }

theorem tx_released_iff_hci :
    ReleasedOnce (hciCall 20) (Bus.uart.espHostedTx fairEnv (hciCall 20)) ↔
      Bus.uart.Releases fairEnv (hciCall 20) :=
  tx_released_iff .uart fairEnv (f := 7) rfl (by decide)

/-- An HCI packet of one byte is copied, its only byte goes into the header, and its buffer is
not handed back. -/
theorem not_tx_released :
    ¬ ∀ (bus : Bus) (env : Env) (c : Call) (f : Nat), c.freeBufFunc = .caller f →
      c.bufferToFree ≠ 0 → ReleasedOnce c (bus.espHostedTx env c) := by
  intro h
  have hReleased := h (.sdio freshTask) fairEnv (hciCall 1) 7 rfl (by decide)
  have hNone : (Bus.espHostedTx fairEnv (hciCall 1) (.sdio freshTask)).filter
      Event.ofCaller = [] := by decide
  rw [hReleased.once] at hNone
  cases hNone

end EspHosted.Driver
