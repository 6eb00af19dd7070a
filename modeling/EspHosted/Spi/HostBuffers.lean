import EspHosted.Driver.TxRelease
import EspHosted.Sdio.RxPool

/-!
# The buffers of an SPI transaction on the host

`check_and_execute_spi_transaction` has three buffers in its hands: the one of the caller, that
came with a packet, the one that is sent, and the one that is received into. The caller's is
freed in `get_next_tx_buffer`, the sent one behind the transfer, the received one in
`process_spi_rx_buf` or in `spi_process_rx_task`.

What happens to them is a list of events, as for the other drivers. Without the handshake signal
the function touches no buffer, so a transaction here is one with it.

* `processSpiRxBuf_eq`: a buffer that is received is freed once, whatever its header says and
  whoever consumes it;
* `released_iff`: when a transaction frees all its buffers once.
-/

namespace EspHosted.Spi.HostBuffers

open Driver Reads Sdio.Stream
open Sdio.RxPool (Consumer espStaIf espApIf espSerialIf)

def maxSpiBufferSize : Nat := 1600

/-- `MAX_PAYLOAD_SIZE`. -/
def maxSpiPayloadSize : Nat := maxSpiBufferSize - headerSize

/-- What the surroundings answer: the signals that ask for a transaction, the buffers of the
pool, the result of the transfer, what it received, and who consumes that. The driver asserts that
there are buffers. -/
structure Env where
  dataReady : Bool
  scheduleDummyTx : Bool
  scheduleDummyRx : Bool
  sendBuf : Nat
  dummyBuf : Nat
  rxBuf : Nat
  transferred : Bool
  received : Memory
  consumer : Consumer
  sendBuf_ne : sendBuf ≠ 0
  dummyBuf_ne : dummyBuf ≠ 0
  rxBuf_ne : rxBuf ≠ 0

/-! ## Receiving -/

/-- `H_FREE_PTR_WITH_FUNC` on the fields of a handle. -/
def freeHandle (h : Handle) : List Event × Handle :=
  (freePtrWithFunc h.freeBufHandle h.privBufferHandle,
    if h.freeBufHandle ≠ .null ∧ h.privBufferHandle ≠ 0 then { h with privBufferHandle := 0 }
    else h)

/-- The branches of `spi_process_rx_task` on `if_type`. -/
def dispatch (c : Consumer) (h : Handle) : List Event × Handle :=
  if h.ifType = espSerialIf then if c.discarded then freeHandle h else ([], h)
  else if h.ifType = espStaIf ∨ h.ifType = espApIf then
    if c.channel then freeHandle h else ([], h)
  else ([], h)

/-- One round of `spi_process_rx_task`. -/
def spiProcessRx (c : Consumer) (h : Handle) : List Event :=
  let r := dispatch c h
  r.1 ++ if r.2.payloadZcopy = 0 then (freeHandle r.2).1 else []

/-- `buf_handle` in `process_spi_rx_buf`. -/
def rxHandle (rxbuff : Nat) (received : Memory) : Handle :=
  { payloadZcopy := 0, ifType := Sdio.RxPool.ifType received, payloadLen := pktLen received,
    payload := rxbuff + pktOffset received, privBufferHandle := rxbuff,
    freeBufHandle := .sendBuffer, flag := (received 1).toNat }

/-- `process_spi_rx_buf`, and the round of `spi_process_rx_task` for what it queues. -/
def processSpiRxBuf (c : Consumer) (rxbuff : Nat) (received : Memory) : List Event :=
  let len := pktLen received
  let offset := pktOffset received
  if len = 0 then freePtrWithFunc .sendBuffer rxbuff
  else if maxSpiPayloadSize < len ∨ offset ≠ headerSize then freePtrWithFunc .sendBuffer rxbuff
  else if computeChecksum (clearChecksum received) (len + offset) = pktChecksum received then
    spiProcessRx c (rxHandle rxbuff received)
  else freePtrWithFunc .sendBuffer rxbuff

/-! ## Sending -/

/-- The payload is copied behind the header. The value is the length that is left, and `none` if
memory is read or written that is not there. The checksum over a packet that is longer than the
buffer reads behind it. -/
def spiCopyPayload (h : Handle) : Option Nat :=
  if h.payloadZcopy ≠ 0 then some h.payloadLen
  else if h.ifType % 16 = espHciIf then
    let len := (h.payloadLen + 65535) % 65536
    if h.payload ≠ 0 ∧ memcpyOk maxSpiBufferSize (h.payload + 1) len then some len else none
  else if h.payloadLen = 0 then some 0
  else if memcpyOk maxSpiBufferSize h.payload (min h.payloadLen maxSpiPayloadSize) then
    some h.payloadLen
  else none

/-- The label `done` of `get_next_tx_buffer`. -/
def spiDone (h : Handle) (len : Nat) : List Event :=
  if len ≠ 0 ∧ h.payloadZcopy = 0 then freePtrWithFunc h.freeBufHandle h.privBufferHandle else []

/-- What `get_next_tx_buffer` comes to: the buffer to send with its free function, whether it is
valid, and whether the function got to its end. -/
structure NextTx where
  events : List Event
  sendbuf : Nat
  freeFunc : FreeFunc
  valid : Bool
  faulted : Bool

/-- `get_next_tx_buffer`, on the handle that the queues hold, if any. -/
def getNextTxBuffer (env : Env) : Option Handle → NextTx
  | none => ⟨[], 0, .null, false, false⟩
  | some h =>
    if h.flag = 0 ∧ h.payloadLen = 0 then ⟨[], 0, .null, false, false⟩
    else
      let sendbuf := if h.payloadZcopy = 0 then env.sendBuf else h.payload
      let freeFunc := if h.payloadZcopy = 0 then .sendBuffer else h.freeBufHandle
      let allocated : List Event := if h.payloadZcopy = 0 then [.alloc sendbuf] else []
      if sendbuf = 0 then ⟨allocated ++ spiDone h h.payloadLen, 0, .null, true, false⟩
      else
        match spiCopyPayload h with
        | none => ⟨allocated ++ [.fault], sendbuf, freeFunc, true, true⟩
        | some len => ⟨allocated ++ spiDone h len, sendbuf, freeFunc, true, false⟩

/-- `check_and_execute_spi_transaction`. -/
def spiTransaction (env : Env) (item : Option Handle) : List Event :=
  let n := getNextTxBuffer env item
  if n.faulted then n.events
  else if env.dataReady || n.valid || env.scheduleDummyTx || env.scheduleDummyRx then
    let txbuff := if n.sendbuf = 0 then env.dummyBuf else n.sendbuf
    let freeFunc := if n.sendbuf = 0 then .sendBuffer else n.freeFunc
    let dummy : List Event := if n.sendbuf = 0 then [.alloc txbuff] else []
    let rx := if env.transferred then processSpiRxBuf env.consumer env.rxBuf env.received else []
    n.events ++ dummy ++ [.alloc env.rxBuf] ++ rx ++ freePtrWithFunc freeFunc txbuff
  else n.events ++ freePtrWithFunc n.freeFunc n.sendbuf

/-- The check at the entry of `esp_hosted_tx`. -/
def spiAccepts (c : Call) : Bool :=
  decide (¬ ((c.flags = 0 ∨ c.flags = moreFragment) ∧
    (c.payloadBuf = 0 ∨ c.payloadLen = 0 ∨ maxSpiPayloadSize < c.payloadLen)))

/-- A packet from `esp_hosted_tx` on, with the transaction that takes it from the queue. -/
def spiTx (env : Env) (c : Call) : List Event :=
  if spiAccepts c then spiTransaction env (some c.bufHandle)
  else freePtrWithFunc c.freeBufFunc c.bufferToFree

/-! ## The buffers of a transaction -/

/-- The free functions of the callers are called as `owed` says, and a buffer of the pool is freed
as often as it is allocated. -/
structure Conserved (owed events : List Event) : Prop where
  owed : events.filter Event.ofCaller = owed
  pool : ∀ buf, events.count (.free .sendBuffer buf) = events.count (.alloc buf)

/-- The buffer that comes with a packet is to be freed once, if there is one. -/
def owed (c : Call) : List Event := freePtrWithFunc c.freeBufFunc c.bufferToFree

def OwesNothing (c : Call) : Prop := c.freeBufFunc = .null ∨ c.bufferToFree = 0

instance (c : Call) : Decidable (OwesNothing c) := inferInstanceAs (Decidable (_ ∨ _))

/-- When a packet's transaction frees all its buffers: always if the packet is rejected at the
entry. Otherwise the transfer must succeed. In copy mode an HCI packet needs a payload that is
copied whole and a byte behind the one in the header, and another packet needs a payload, unless
nothing is to be freed and nothing is copied. In zero-copy mode the payload must be the buffer to
free. -/
def Releases (env : Env) (c : Call) : Prop :=
  spiAccepts c = false ∨ env.transferred = true ∧
    if c.buffZcopy = 0 then
      if c.ifType % 16 = espHciIf then
        c.payloadBuf ≠ 0 ∧ c.payloadLen ≠ 0 ∧ c.payloadLen ≤ maxSpiPayloadSize + 1 ∧
          (c.payloadLen ≠ 1 ∨ OwesNothing c)
      else if c.payloadLen = 0 then OwesNothing c
      else c.payloadBuf ≠ 0
    else if c.payloadBuf = 0 then OwesNothing c
    else c.freeBufFunc = .null ∨ c.payloadBuf = c.bufferToFree

/-- Nothing asks for a transaction. -/
def Env.Idle (env : Env) : Prop :=
  env.dataReady = false ∧ env.scheduleDummyTx = false ∧ env.scheduleDummyRx = false

/-- A buffer that is received is freed once. -/
theorem processSpiRxBuf_eq (c : Consumer) {rxbuff : Nat} (received : Memory) (hBuf : rxbuff ≠ 0) :
    processSpiRxBuf c rxbuff received = [.free .sendBuffer rxbuff] := by
  have hFree : freePtrWithFunc .sendBuffer rxbuff = [.free .sendBuffer rxbuff] := by
    simp [freePtrWithFunc, hBuf]
  have hProcess : spiProcessRx c (rxHandle rxbuff received) = [.free .sendBuffer rxbuff] := by
    unfold spiProcessRx dispatch
    split
    · cases c.discarded <;> simp [freeHandle, freePtrWithFunc, rxHandle, hBuf]
    · split
      · cases c.channel <;> simp [freeHandle, freePtrWithFunc, rxHandle, hBuf]
      · simp [freeHandle, freePtrWithFunc, rxHandle, hBuf]
  unfold processSpiRxBuf
  simp only [hFree, hProcess, ite_self]

/-! ## Counting -/

/-- How often a buffer of the pool is allocated more than it is freed. -/
def excess (events : List Event) (buf : Nat) : Int :=
  (events.count (.alloc buf) : Int) - events.count (.free .sendBuffer buf)

@[simp] theorem excess_nil (buf : Nat) : excess [] buf = 0 := rfl

@[simp] theorem excess_append (events events' : List Event) (buf : Nat) :
    excess (events ++ events') buf = excess events buf + excess events' buf := by
  simp only [excess, List.count_append]
  omega

@[simp] theorem excess_alloc (b buf : Nat) : excess [.alloc b] buf = if b = buf then 1 else 0 := by
  by_cases hEq : b = buf <;> simp [excess, hEq]

@[simp] theorem excess_free (b buf : Nat) :
    excess [.free .sendBuffer b] buf = if b = buf then -1 else 0 := by
  by_cases hEq : b = buf <;> simp [excess, hEq]

theorem excess_caller {func : FreeFunc} (hFunc : func ≠ .sendBuffer) (ptr buf : Nat) :
    excess (freePtrWithFunc func ptr) buf = 0 := by
  unfold freePtrWithFunc
  split
  · cases func with
    | sendBuffer => exact absurd rfl hFunc
    | null => simp [excess]
    | caller f => simp [excess]
  · rfl

theorem conserved_iff {owed events : List Event} :
    Conserved owed events ↔
      events.filter Event.ofCaller = owed ∧ ∀ buf, excess events buf = 0 := by
  constructor
  · intro h
    refine ⟨h.owed, fun buf => ?_⟩
    simp only [excess, h.pool buf, Int.sub_self]
  · rintro ⟨hOwed, hPool⟩
    refine ⟨hOwed, fun buf => ?_⟩
    have hZero := hPool buf
    unfold excess at hZero
    omega

/-- A transaction around `events`: a buffer is received into, and freed if the transfer
succeeds. -/
theorem conserved_around {owed before after : List Event} (env : Env)
    (hPool : ∀ buf, excess (before ++ after) buf = 0) :
    Conserved owed (before ++ [.alloc env.rxBuf] ++
        (if env.transferred then processSpiRxBuf env.consumer env.rxBuf env.received else []) ++
        after) ↔
      env.transferred = true ∧ (before ++ after).filter Event.ofCaller = owed := by
  rw [processSpiRxBuf_eq env.consumer env.received env.rxBuf_ne, conserved_iff]
  cases hTransferred : env.transferred with
  | true =>
    simp only [if_true, true_and]
    refine ⟨fun h => ?_, fun h => ⟨?_, fun buf => ?_⟩⟩
    · rw [← h.1]
      simp [Event.ofCaller]
    · rw [← h]
      simp [Event.ofCaller]
    · have hZero := hPool buf
      simp only [excess_append, excess_alloc, excess_free] at hZero ⊢
      split <;> omega
  | false =>
    simp only [Bool.false_eq_true, if_false, false_and, iff_false, not_and]
    intro _ h
    have hOne := h env.rxBuf
    have hZero := hPool env.rxBuf
    simp only [excess_append, excess_alloc, excess_nil, if_true] at hOne hZero
    omega

/-! ## Transactions -/

theorem freePtrWithFunc_sendBuffer {buf : Nat} (hBuf : buf ≠ 0) :
    freePtrWithFunc .sendBuffer buf = [.free .sendBuffer buf] := by
  simp [freePtrWithFunc, hBuf]

/-- A transaction without a packet sends a buffer of its own. -/
theorem conserved_none (env : Env) :
    Conserved [] (spiTransaction env none) ↔ env.Idle ∨ env.transferred = true := by
  have hNext : getNextTxBuffer env none = ⟨[], 0, .null, false, false⟩ := rfl
  by_cases hIdle : env.Idle
  · refine iff_of_true ?_ (.inl hIdle)
    obtain ⟨hReady, hTx, hRx⟩ := hIdle
    have hNil : spiTransaction env none = [] := by
      simp [spiTransaction, hNext, hReady, hTx, hRx, freePtrWithFunc]
    rw [hNil]
    exact ⟨rfl, fun _ => rfl⟩
  · have hGo : (env.dataReady || false || env.scheduleDummyTx || env.scheduleDummyRx) = true := by
      by_contra hNot
      simp only [Bool.or_false, Bool.or_eq_true, not_or, Bool.not_eq_true] at hNot
      exact hIdle ⟨hNot.1.1, hNot.1.2, hNot.2⟩
    have hEvents : spiTransaction env none =
        [Event.alloc env.dummyBuf] ++ [Event.alloc env.rxBuf] ++
        (if env.transferred then processSpiRxBuf env.consumer env.rxBuf env.received else []) ++
        [Event.free .sendBuffer env.dummyBuf] := by
      simp only [spiTransaction, hNext, hGo, Bool.false_eq_true, if_false, if_true,
        List.nil_append, freePtrWithFunc_sendBuffer env.dummyBuf_ne]
    rw [hEvents, conserved_around]
    · simp [Event.ofCaller, hIdle]
    · intro buf
      simp only [excess_append, excess_alloc, excess_free]
      split <;> omega

/-- A packet that gets to the transfer. -/
theorem spiTransaction_some {env : Env} {h : Handle} {n : NextTx}
    (hNext : getNextTxBuffer env (some h) = n) (hValid : n.valid = true)
    (hGoes : n.faulted = false) :
    spiTransaction env (some h) =
      n.events ++ (if n.sendbuf = 0 then [Event.alloc env.dummyBuf] else []) ++
        [Event.alloc env.rxBuf] ++
        (if env.transferred then processSpiRxBuf env.consumer env.rxBuf env.received else []) ++
        freePtrWithFunc (if n.sendbuf = 0 then .sendBuffer else n.freeFunc)
          (if n.sendbuf = 0 then env.dummyBuf else n.sendbuf) := by
  have hGo : (env.dataReady || n.valid || env.scheduleDummyTx || env.scheduleDummyRx) = true := by
    simp [hValid]
  simp only [spiTransaction, hNext, hGoes, hGo, Bool.false_eq_true, if_false, if_true]
  split <;> rfl

theorem owed_eq_nil_iff {c : Call} : owed c = [] ↔ OwesNothing c := by
  unfold owed freePtrWithFunc OwesNothing
  split
  · rename_i hSome
    simp only [List.cons_ne_self, false_iff, not_or]
    exact hSome
  · rename_i hNone
    simp only [true_iff]
    by_contra hNot
    rw [not_or] at hNot
    exact hNone hNot

/-- What copying a packet comes to. -/
theorem spiCopyPayload_eq {c : Call} (hCopy : c.buffZcopy = 0) (hLen : c.payloadLen < 2 ^ 16) :
    spiCopyPayload c.bufHandle =
      if c.ifType % 16 = espHciIf then
        if c.payloadBuf ≠ 0 ∧ c.payloadLen ≠ 0 ∧ c.payloadLen ≤ maxSpiPayloadSize + 1 then
          some (c.payloadLen - 1)
        else none
      else if c.payloadBuf ≠ 0 ∨ c.payloadLen = 0 then some c.payloadLen else none := by
  have hMemcpy : ∀ src n, memcpyOk maxSpiBufferSize src n = true ↔
      n = 0 ∨ (src ≠ 0 ∧ n ≤ maxSpiPayloadSize) := by
    intro src n
    rw [memcpyOk, decide_eq_true_iff]
    unfold maxSpiPayloadSize maxSpiBufferSize headerSize
    omega
  unfold spiCopyPayload
  simp only [Call.bufHandle, hCopy, ne_eq, not_true_eq_false, if_false, hMemcpy]
  split
  · by_cases hZero : c.payloadLen = 0
    · have hMax : maxSpiPayloadSize < 65535 := by decide
      rw [if_neg (by omega), if_neg (by omega)]
    · have hLess : (c.payloadLen + 65535) % 65536 = c.payloadLen - 1 := by omega
      rw [hLess]
      by_cases hFits : c.payloadBuf ≠ 0 ∧ c.payloadLen ≤ maxSpiPayloadSize + 1
      · rw [if_pos (by omega), if_pos (by omega)]
      · rw [if_neg (by omega), if_neg (by omega)]
  · by_cases hZero : c.payloadLen = 0
    · rw [if_pos hZero, if_pos (.inr hZero), hZero]
    · rw [if_neg hZero]
      have hMax : maxSpiPayloadSize ≠ 0 := by decide
      by_cases hPayload : c.payloadBuf = 0
      · rw [if_neg (by omega), if_neg (by omega)]
      · rw [if_pos (by omega), if_pos (.inl hPayload)]

/-- A packet whose copy goes wrong leaves its send buffer behind. -/
theorem not_conserved_fault {env : Env} {c : Call}
    (hValid : ¬ (c.flags = 0 ∧ c.payloadLen = 0)) (hCopy : c.buffZcopy = 0)
    (hNone : spiCopyPayload c.bufHandle = none) :
    ¬ Conserved (owed c) (spiTransaction env (some c.bufHandle)) := by
  have hNext : getNextTxBuffer env (some c.bufHandle) =
      ⟨[.alloc env.sendBuf] ++ [.fault], env.sendBuf, .sendBuffer, true, true⟩ := by
    simp only [getNextTxBuffer]
    rw [if_neg (show ¬ (c.bufHandle.flag = 0 ∧ c.bufHandle.payloadLen = 0) from hValid)]
    simp only [show c.bufHandle.payloadZcopy = 0 from hCopy, if_true, env.sendBuf_ne, if_false,
      hNone]
  intro h
  have hPool := h.pool env.sendBuf
  simp only [spiTransaction, hNext, if_true] at hPool
  simp at hPool

section Packet

variable {env : Env} {c : Call} (hFunc : c.freeBufFunc ≠ .sendBuffer)
include hFunc

theorem filter_caller (ptr : Nat) :
    (freePtrWithFunc c.freeBufFunc ptr).filter Event.ofCaller =
      freePtrWithFunc c.freeBufFunc ptr := by
  unfold freePtrWithFunc
  split
  · cases hCaller : c.freeBufFunc with
    | sendBuffer => exact absurd hCaller hFunc
    | null => simp_all
    | caller f => rfl
  · rfl

/-- In copy mode, behind a copy that leaves `len` bytes. -/
theorem conserved_copied {len : Nat} (hValid : ¬ (c.flags = 0 ∧ c.payloadLen = 0))
    (hCopy : c.buffZcopy = 0) (hLen : spiCopyPayload c.bufHandle = some len) :
    Conserved (owed c) (spiTransaction env (some c.bufHandle)) ↔
      env.transferred = true ∧ (len ≠ 0 ∨ OwesNothing c) := by
  have hNext : getNextTxBuffer env (some c.bufHandle) =
      ⟨[.alloc env.sendBuf] ++ spiDone c.bufHandle len, env.sendBuf, .sendBuffer, true, false⟩ := by
    simp only [getNextTxBuffer]
    rw [if_neg (show ¬ (c.bufHandle.flag = 0 ∧ c.bufHandle.payloadLen = 0) from hValid)]
    simp only [show c.bufHandle.payloadZcopy = 0 from hCopy, if_true, env.sendBuf_ne, if_false,
      hLen]
  have hDone : spiDone c.bufHandle len = if len ≠ 0 then owed c else [] := by
    simp [spiDone, Call.bufHandle, hCopy, owed]
  rw [spiTransaction_some hNext rfl rfl, ← owed_eq_nil_iff]
  simp only [env.sendBuf_ne, if_false, List.append_nil,
    freePtrWithFunc_sendBuffer env.sendBuf_ne]
  rw [conserved_around]
  · refine and_congr_right fun _ => ?_
    rw [hDone]
    by_cases hZero : len = 0
    · simp only [hZero, ne_eq, not_true_eq_false, if_false, false_or]
      exact ⟨fun h => h.symm, fun h => h.symm⟩
    · simp only [hZero, ne_eq, not_false_eq_true, if_true, true_or, iff_true]
      simp [Event.ofCaller, owed, filter_caller hFunc]
  · intro buf
    have hZero : excess (spiDone c.bufHandle len) buf = 0 := by
      rw [hDone]
      split
      · exact excess_caller hFunc _ _
      · rfl
    simp only [excess_append, excess_alloc, excess_free, hZero]
    split <;> omega

/-- In zero-copy mode the payload itself is sent and freed. -/
theorem conserved_zcopy (hValid : ¬ (c.flags = 0 ∧ c.payloadLen = 0)) (hZcopy : c.buffZcopy ≠ 0) :
    Conserved (owed c) (spiTransaction env (some c.bufHandle)) ↔ env.transferred = true ∧
      if c.payloadBuf = 0 then OwesNothing c
      else c.freeBufFunc = .null ∨ c.payloadBuf = c.bufferToFree := by
  have hHandle : ¬ (c.bufHandle.flag = 0 ∧ c.bufHandle.payloadLen = 0) := hValid
  have hCopied : spiCopyPayload c.bufHandle = some c.payloadLen := if_pos hZcopy
  have hDone : spiDone c.bufHandle c.payloadLen = [] := if_neg fun h => hZcopy h.2
  by_cases hPayload : c.payloadBuf = 0
  · have hNext : getNextTxBuffer env (some c.bufHandle) = ⟨[], 0, .null, true, false⟩ := by
      simp only [getNextTxBuffer]
      rw [if_neg hHandle]
      simp only [show ¬ c.bufHandle.payloadZcopy = 0 from hZcopy, if_false,
        show c.bufHandle.payload = 0 from hPayload, if_true, List.nil_append,
        show c.bufHandle.payloadLen = c.payloadLen from rfl, hDone]
    rw [spiTransaction_some hNext rfl rfl, if_pos hPayload, ← owed_eq_nil_iff]
    simp only [if_true, freePtrWithFunc_sendBuffer env.dummyBuf_ne]
    rw [conserved_around]
    · refine and_congr_right fun _ => ?_
      exact ⟨fun h => h.symm, fun h => h.symm⟩
    · intro buf
      simp only [excess_append, excess_nil, excess_alloc, excess_free]
      split <;> omega
  · have hNext : getNextTxBuffer env (some c.bufHandle) =
        ⟨[], c.payloadBuf, c.freeBufFunc, true, false⟩ := by
      simp only [getNextTxBuffer]
      rw [if_neg hHandle]
      simp only [show ¬ c.bufHandle.payloadZcopy = 0 from hZcopy, if_false,
        show ¬ c.bufHandle.payload = 0 from hPayload, hCopied, List.nil_append, hDone]
      rfl
    rw [spiTransaction_some hNext rfl rfl, if_neg hPayload]
    simp only [hPayload, if_false, List.append_nil]
    rw [conserved_around]
    · refine and_congr_right fun _ => ?_
      rw [List.nil_append, filter_caller hFunc, owed, freePtrWithFunc, freePtrWithFunc]
      by_cases hNull : c.freeBufFunc = .null
      · simp [hNull]
      · by_cases hBuf : c.bufferToFree = 0
        · simp [hNull, hPayload, hBuf]
        · simp [hNull, hPayload, hBuf]
    · intro buf
      rw [List.nil_append]
      exact excess_caller hFunc _ _

end Packet

/-- When a packet's transaction frees all its buffers, and when one without a packet does. -/
theorem released_iff (env : Env) {c : Call} (hFunc : c.freeBufFunc ≠ .sendBuffer)
    (hLen : c.payloadLen < 2 ^ 16) :
    (Conserved (owed c) (spiTx env c) ↔ Releases env c) ∧
      (Conserved [] (spiTransaction env none) ↔ env.Idle ∨ env.transferred = true) := by
  refine ⟨?_, conserved_none env⟩
  unfold Releases spiTx
  cases hAccepts : spiAccepts c with
  | false =>
    refine iff_of_true ⟨filter_caller hFunc _, fun buf => ?_⟩ (.inl rfl)
    have hZero := excess_caller hFunc c.bufferToFree buf
    unfold excess at hZero
    simp only [Bool.false_eq_true, if_false]
    omega
  | true =>
    have hValid : ¬ (c.flags = 0 ∧ c.payloadLen = 0) := by
      rintro ⟨hFlags, hZero⟩
      simp [spiAccepts, hFlags, hZero] at hAccepts
    simp only [if_true, Bool.true_eq_false, false_or]
    by_cases hCopy : c.buffZcopy = 0
    · rw [if_pos hCopy]
      have hCopied := spiCopyPayload_eq hCopy hLen
      have hSome : ∀ {len : Nat}, spiCopyPayload c.bufHandle = some len →
          (Conserved (owed c) (spiTransaction env (some c.bufHandle)) ↔
            env.transferred = true ∧ (len ≠ 0 ∨ OwesNothing c)) :=
        conserved_copied hFunc hValid hCopy
      by_cases hHci : c.ifType % 16 = espHciIf
      · rw [if_pos hHci] at hCopied ⊢
        by_cases hFits : c.payloadBuf ≠ 0 ∧ c.payloadLen ≠ 0 ∧
            c.payloadLen ≤ maxSpiPayloadSize + 1
        · rw [if_pos hFits] at hCopied
          rw [hSome hCopied]
          refine and_congr_right fun _ => ?_
          obtain ⟨hPayload, hZero, hMax⟩ := hFits
          have hOne : c.payloadLen - 1 ≠ 0 ↔ c.payloadLen ≠ 1 := by omega
          simp only [hOne, hPayload, hZero, hMax, ne_eq, not_false_eq_true, true_and]
        · rw [if_neg hFits] at hCopied
          refine iff_of_false (not_conserved_fault hValid hCopy hCopied) fun h => hFits ?_
          exact ⟨h.2.1, h.2.2.1, h.2.2.2.1⟩
      · rw [if_neg hHci] at hCopied ⊢
        by_cases hPayload : c.payloadBuf ≠ 0 ∨ c.payloadLen = 0
        · rw [if_pos hPayload] at hCopied
          rw [hSome hCopied]
          refine and_congr_right fun _ => ?_
          by_cases hZero : c.payloadLen = 0
          · simp [hZero]
          · simp [hZero, hPayload.resolve_right hZero]
        · rw [not_or] at hPayload
          rw [if_neg (by tauto)] at hCopied
          refine iff_of_false (not_conserved_fault hValid hCopy hCopied) fun h => ?_
          rw [if_neg hPayload.2] at h
          exact hPayload.1 h.2
    · rw [if_neg hCopy]
      exact conserved_zcopy hFunc hValid hCopy

/-- A transaction that the slave asks for, and that receives zeros. -/
def env (transferred : Bool) : Env :=
  { dataReady := true, scheduleDummyTx := false, scheduleDummyRx := false, sendBuf := 1,
    dummyBuf := 2, rxBuf := 3, transferred, received := fun _ => 0, consumer := ⟨true, false⟩,
    sendBuf_ne := by decide, dummyBuf_ne := by decide, rxBuf_ne := by decide }

/-- A packet for the network in copy mode. -/
def packet : Call :=
  { ifType := espStaIf, payloadBuf := 7, payloadLen := 100, buffZcopy := 0, bufferToFree := 7,
    freeBufFunc := .caller 0, flags := 0 }

theorem released_iff_packet : Conserved (owed packet) (spiTx (env true) packet) :=
  (released_iff (env true) (by decide) (by decide)).1.mpr (.inr ⟨rfl, by decide⟩)

/-- A transfer that fails leaves the buffer behind that was to receive. -/
theorem not_released_failed :
    ¬ ∀ (env : Env) (c : Call), c.freeBufFunc ≠ .sendBuffer → c.payloadLen < 2 ^ 16 →
      Conserved (owed c) (spiTx env c) ∧ Conserved [] (spiTransaction env none) := by
  intro h
  have hPool := (h (env false) packet (by decide) (by decide)).2.pool 3
  exact absurd hPool (by decide)

end EspHosted.Spi.HostBuffers
