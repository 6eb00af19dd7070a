import EspHosted.Lib.Machine

/-!
# Transmit credit of the SDIO host driver

The SDIO slave hands out receive buffers and counts them in the upper half of its token
register, modulo `ESP_TX_BUFFER_MAX`. The host may write a packet only into buffers that
the slave has free. It keeps the credit in two variables of its own: `sdio_tx_buf_count`,
the buffers it has used, modulo `ESP_TX_BUFFER_MAX`, and `buf_available`, a static of
`sdio_is_write_buffer_available` that caches the last credit it computed.

The model follows `sdio_write_task` with `sdio_is_write_buffer_available` and
`sdio_get_tx_buffer_num` inlined at register-access granularity, `bus_init_internal` and
`bus_deinit_internal`, next to the slave's buffers.

Beside the driver runs a history, which sees the events only: which packets were sent and
written since the bus was set up or taken down, which writes failed, what the register said.

* `creditInv_step`: the counts of the driver follow the history, whatever happens;
* `withinCredit_of_kept`: so no packet is written into buffers that the slave does not have,
  as long as the history is level with the slave when the register is read, the slave comes
  back from a reset with enough buffers, and no write is tried again after it has used up
  buffers that the host had counted on;
* `not_withinCredit`: a restart of the bus that does not reset the slave breaks it.
-/

namespace EspHosted.Sdio.Credit

open Machine

def espTxBufferMask : Nat := 0xFFF
def espTxBufferMax : Nat := 0x1000
def espRxBufferSize : Nat := 1536
def maxSdioBufferSize : Nat := 1536
def maxWriteBufRetries : Nat := 50
def maxRetrySdioNotResponding : Nat := 2
def maxSdioWriteRetry : Nat := 2

/-- `sizeof(struct esp_payload_header)`. -/
def payloadHeaderSize : Nat := 12

/-! ## The slave's receive buffers -/

/-- Receive buffers of a slave that has `slots` of them: how many were given to the host
since the last reset and how many of these the host has filled. A buffer is given again
only after the slave's application has returned it. -/
structure Tokens (slots : Nat) where
  loaded : Nat
  consumed : Nat
  consumed_le : consumed ≤ loaded
  loaded_le : loaded ≤ consumed + slots

namespace Tokens

variable {slots : Nat}

/-- The buffers the slave can really take data into. -/
def free (t : Tokens slots) : Nat := t.loaded - t.consumed

/-- The same number as the registers give it: token count less consumed buffers, modulo
`ESP_TX_BUFFER_MAX`. -/
def credit (t : Tokens slots) : Nat :=
  (t.loaded % espTxBufferMax + espTxBufferMax - t.consumed % espTxBufferMax) % espTxBufferMax

def load (t : Tokens slots) : Option (Tokens slots) :=
  if h : t.loaded < t.consumed + slots then
    some ⟨t.loaded + 1, t.consumed, Nat.le_succ_of_le t.consumed_le, h⟩
  else none

def consume (t : Tokens slots) (k : Nat) : Option (Tokens slots) :=
  if h : t.consumed + k ≤ t.loaded then
    some ⟨t.loaded, t.consumed + k, h, by have := t.loaded_le; omega⟩
  else none

/-- A reset slave starts with `n` of its buffers loaded and none consumed. -/
def reset (n : Nat) : Option (Tokens slots) :=
  if h : n ≤ slots then some ⟨n, 0, Nat.zero_le n, by omega⟩ else none

theorem credit_eq_free (t : Tokens slots) (hSlots : slots < espTxBufferMax) :
    t.credit = t.free := by
  have h1 := t.consumed_le
  have h2 := t.loaded_le
  unfold espTxBufferMax at hSlots
  simp only [credit, free, espTxBufferMax]
  omega

theorem free_load {t t' : Tokens slots} (h : t.load = some t') : t'.free = t.free + 1 := by
  unfold load at h
  split at h
  · cases h
    have := t.consumed_le
    simp only [free]
    omega
  · cases h

theorem free_consume {t t' : Tokens slots} {k : Nat} (h : t.consume k = some t') :
    t'.free + k = t.free := by
  unfold consume at h
  split at h
  · cases h
    simp only [free]
    omega
  · cases h

theorem free_reset {t' : Tokens slots} {n : Nat} (h : reset n = some t') : t'.free = n := by
  unfold reset at h
  split at h
  · cases h
    rfl
  · cases h

end Tokens

/-! ## The host driver -/

/-- What `sdio_write_task` reads of the `interface_buffer_handle_t` it dequeues. -/
structure BufHandle where
  payloadLen : Nat
  flag : Nat
  isHci : Bool
  payloadZcopy : Bool
  deriving DecidableEq

/-- The slave buffers a dequeued packet needs, or `none` when the packet is dropped before
the bus is touched: empty, no send buffer, or longer than a slave buffer. The length of a
copied HCI packet loses its first byte, in 16 bits. -/
def bufNeeded (h : BufHandle) (sendbufOk : Bool) : Option Nat :=
  if h.flag = 0 ∧ h.payloadLen = 0 then none
  else if !sendbufOk then none
  else if maxSdioBufferSize - payloadHeaderSize < h.payloadLen then none
  else
    let len := if h.isHci && !h.payloadZcopy then (h.payloadLen + 0xFFFF) % 0x10000
      else h.payloadLen
    some ((len + payloadHeaderSize + espRxBufferSize - 1) / espRxBufferSize)

/-- Where `sdio_write_task` is. `polling` is the loop of `sdio_is_write_buffer_available`
with its two retry counters, `written` the point between the last bus write and the update
of `sdio_tx_buf_count`. -/
inductive WritePc
  | down
  | gated
  | idle
  | polling (bufNeeded retry notResponding : Nat)
  | writing (bufNeeded retries : Nat)
  | written (bufNeeded : Nat)
  deriving DecidableEq

/-- Result of reading the token register. -/
inductive RegRead
  | value (tokenRdata : Nat)
  | unresponsive
  | failed
  deriving DecidableEq

inductive Action
  | send (h : BufHandle) (sendbufOk : Bool)
  | readToken (r : RegRead)
  | writeOk
  | writeFail (consumed : Nat)
  | account
  | slaveLoad
  | slaveReset (n : Nat)
  | startWriteThread
  | busDeinit
  | busInit
  | restartHost
  deriving DecidableEq

/-- `packet` are the buffers of the packet sent last and `fails` its failed writes; `written` are
the buffers of all packets written since the bus was set up or taken down; `credit` is what the
last register value had left over them, less the packets that came to an end since. -/
structure History where
  packet : Nat
  fails : Nat
  written : Nat
  credit : Nat
  deriving DecidableEq

/-- The token count in the register. -/
def tokenCount (tokenRdata : Nat) : Nat := (tokenRdata >>> 16) &&& espTxBufferMask

def History.next (h : History) : Action → History
  | .send b sendbufOk =>
    match bufNeeded b sendbufOk with
    | none => h
    | some need => { h with packet := need, fails := 0 }
  | .readToken (.value r) =>
    { h with credit :=
      (tokenCount r + espTxBufferMax - h.written % espTxBufferMax) % espTxBufferMax }
  | .writeOk => { h with written := h.written + h.packet, credit := h.credit - h.packet }
  | .writeFail _ =>
    if h.fails + 1 < maxSdioWriteRetry then { h with fails := h.fails + 1 }
    else { h with credit := h.credit - h.packet }
  | .busDeinit | .busInit => { h with written := 0 }
  | .restartHost => ⟨0, 0, 0, 0⟩
  | _ => h

structure State (slots : Nat) where
  sdioTxBufCount : Nat
  bufAvailable : Nat
  pc : WritePc
  slave : Tokens slots
  history : History

variable {slots : Nat}

/-- `sdio_get_tx_buffer_num` on the register value. -/
def sdioGetTxBufferNum (sdioTxBufCount tokenRdata : Nat) : Nat :=
  (tokenCount tokenRdata + espTxBufferMax - sdioTxBufCount) % espTxBufferMax

/-- Entry of `sdio_is_write_buffer_available`: the cached credit is used when it is large
enough, and the slave is asked otherwise. -/
def requestBuffers (s : State slots) (need : Nat) : State slots :=
  if s.bufAvailable < need then
    { s with pc := .polling need maxWriteBufRetries maxRetrySdioNotResponding }
  else { s with bufAvailable := s.bufAvailable - need, pc := .writing need 0 }

/-- The rest of one loop iteration of `sdio_is_write_buffer_available` after the register
read. The loop ends with the packet dropped when no retry is left. -/
def checkBuffers (s : State slots) (need retry notResponding : Nat) : State slots :=
  if s.bufAvailable < need then
    if retry - 1 = 0 then { s with pc := .idle }
    else { s with pc := .polling need (retry - 1) notResponding }
  else { s with bufAvailable := s.bufAvailable - need, pc := .writing need 0 }

def pollToken (s : State slots) (need retry notResponding : Nat) :
    RegRead → Option (State slots)
  | .unresponsive =>
    if notResponding - 1 = 0 then some { s with pc := .idle }
    else some { s with pc := .polling need retry (notResponding - 1) }
  | .failed => some (checkBuffers s need retry notResponding)
  | .value r =>
    if tokenCount r = s.slave.loaded % espTxBufferMax then
      some (checkBuffers { s with bufAvailable := sdioGetTxBufferNum s.sdioTxBufCount r }
        need retry notResponding)
    else none

/-- A failed bus write, during which the slave filled `k` of the packet's buffers. -/
def failWrite (s : State slots) (need retries k : Nat) : Option (State slots) :=
  if k ≤ need then
    (s.slave.consume k).map fun slave =>
      if retries + 1 < maxSdioWriteRetry then
        { s with slave, pc := .writing need (retries + 1) }
      else { s with slave, pc := .idle }
  else none

/-- What the driver and the slave do. -/
def act (s : State slots) : Action → Option (State slots)
  | .send h sendbufOk =>
    match s.pc with
    | .idle =>
      match bufNeeded h sendbufOk with
      | none => some s
      | some need => some (requestBuffers s need)
    | _ => none
  | .readToken r =>
    match s.pc with
    | .polling need retry notResponding => pollToken s need retry notResponding r
    | _ => none
  | .writeOk =>
    match s.pc with
    | .writing need _ => (s.slave.consume need).map fun slave =>
        { s with slave, pc := .written need }
    | _ => none
  | .writeFail k =>
    match s.pc with
    | .writing need retries => failWrite s need retries k
    | _ => none
  | .account =>
    match s.pc with
    | .written need =>
      some { s with sdioTxBufCount := (s.sdioTxBufCount + need) % espTxBufferMax, pc := .idle }
    | _ => none
  | .slaveLoad => s.slave.load.map fun slave => { s with slave }
  | .slaveReset n => (Tokens.reset n).map fun slave => { s with slave }
  | .startWriteThread => if s.pc = .gated then some { s with pc := .idle } else none
  | .busDeinit => some { s with sdioTxBufCount := 0, pc := .down }
  | .busInit =>
    if s.pc = .down then some { s with sdioTxBufCount := 0, pc := .gated } else none
  | .restartHost => some { s with sdioTxBufCount := 0, bufAvailable := 0, pc := .down }

def step (s : State slots) (a : Action) : Option (State slots) :=
  (act s a).map fun t => { t with history := s.history.next a }

/-- The host after power-on, in front of a slave in any state. -/
def boot (slave : Tokens slots) : State slots := ⟨0, 0, .down, slave, ⟨0, 0, 0, 0⟩⟩

/-! ## The credit -/

/-- Buffers promised to the packet that is being written. -/
def State.inFlight (s : State slots) : Nat :=
  match s.pc with
  | .writing need _ => need
  | _ => 0

/-- Buffers of the packet that is written and not counted yet. -/
def State.uncounted (s : State slots) : Nat :=
  match s.pc with
  | .written need => need
  | _ => 0

/-- The packet that is asked for or written is the one sent last. -/
def State.Tracked (s : State slots) : Prop :=
  match s.pc with
  | .polling need _ _ => s.history.packet = need ∧ s.history.fails = 0
  | .writing need retries => s.history.packet = need ∧ s.history.fails = retries
  | _ => True

/-- `sdio_tx_buf_count` counts what the history says was written, and the cached credit and the
packet being written fit into the slave's free buffers and into the credit of the history. -/
structure CreditInv (s : State slots) : Prop where
  count_lt : s.sdioTxBufCount < espTxBufferMax
  count : (s.sdioTxBufCount + s.uncounted) % espTxBufferMax = s.history.written % espTxBufferMax
  tracked : s.Tracked
  credit : s.bufAvailable + s.inFlight ≤ s.history.credit
  covered : s.bufAvailable + s.inFlight ≤ s.slave.free

/-- Transmit credit safety of one state. -/
def WithinCredit (s : State slots) : Prop :=
  s.bufAvailable ≤ s.slave.free ∧
    ∀ need retries, s.pc = .writing need retries → need ≤ s.slave.credit

/-- How far the buffers of the packets written since the bus was set up or taken down are ahead
of those taken since the slave was reset, modulo `ESP_TX_BUFFER_MAX`. -/
def State.ahead (s : State slots) : Nat :=
  (s.history.written % espTxBufferMax + espTxBufferMax - s.slave.consumed % espTxBufferMax) %
    espTxBufferMax

/-- When the token register is read, the packets written since the bus was set up or taken down
are level with what the slave took since its reset, or ahead of it within the free buffers; the
slave comes back from a reset with the buffers that the last register value has left; a failed
write that is going to be tried again took no buffers, or there are more than these by as many. -/
def CreditKept (s : State slots) : Action → Prop
  | .readToken (.value _) => s.ahead ≤ s.slave.free
  | .writeFail k =>
    s.history.fails + 1 < maxSdioWriteRetry → k ≠ 0 → s.history.credit + k ≤ s.slave.free
  | .slaveReset n => s.history.credit ≤ n
  | _ => True

instance (s : State slots) : (a : Action) → Decidable (CreditKept s a)
  | .readToken (.value _) | .slaveReset _ => inferInstanceAs (Decidable (_ ≤ _))
  | .writeFail _ => inferInstanceAs (Decidable (_ → _ → _))
  | .readToken .unresponsive | .readToken .failed | .send .. | .writeOk | .account
  | .slaveLoad | .startWriteThread | .busDeinit | .busInit | .restartHost => .isTrue trivial

/-! ### One lemma for each part of the write path -/

/-- With a count that follows the history, the credit computed from the token register is the
credit of the history, and stays within the free buffers if the history is not too far ahead of
the slave. -/
theorem sdioGetTxBufferNum_covered {s : State slots} {r : Nat}
    (hCount : s.sdioTxBufCount = s.history.written % espTxBufferMax)
    (hReg : tokenCount r = s.slave.loaded % espTxBufferMax)
    (hFree : s.slave.free < espTxBufferMax) (hAhead : s.ahead ≤ s.slave.free) :
    sdioGetTxBufferNum s.sdioTxBufCount r = (s.history.next (.readToken (.value r))).credit ∧
      sdioGetTxBufferNum s.sdioTxBufCount r ≤ s.slave.free := by
  have hLe := s.slave.consumed_le
  have hLt : s.history.written % espTxBufferMax < espTxBufferMax := Nat.mod_lt _ (by decide)
  constructor
  · rw [hCount]
    rfl
  · simp only [Tokens.free, espTxBufferMax, State.ahead] at hFree hAhead ⊢
    simp only [sdioGetTxBufferNum, hCount, hReg]
    simp only [espTxBufferMax] at hLt ⊢
    omega

/-- Granting a packet moves credit from the cache to the packet. -/
theorem requestBuffers_inv {s : State slots} {need : Nat} (hIdle : s.pc = .idle)
    (hInv : CreditInv s) (history : History) (hWritten : history.written = s.history.written)
    (hCredit : history.credit = s.history.credit) (hPacket : history.packet = need)
    (hFails : history.fails = 0) : CreditInv { requestBuffers s need with history } := by
  obtain ⟨hLt, hCount, -, hCr, hCov⟩ := hInv
  simp only [State.inFlight, State.uncounted, hIdle] at hCount hCr hCov
  unfold requestBuffers
  split
  · refine ⟨hLt, ?_, ⟨hPacket, hFails⟩, ?_, ?_⟩
    · simpa only [State.uncounted, hWritten] using hCount
    · simpa only [State.inFlight, hCredit] using hCr
    · simpa only [State.inFlight] using hCov
  · refine ⟨hLt, ?_, ⟨hPacket, hFails⟩, ?_, ?_⟩
    · simpa only [State.uncounted, hWritten] using hCount
    · simp only [State.inFlight, hCredit]
      omega
    · simp only [State.inFlight]
      omega

/-- One polling round hands on the credit it was given: cached, or cached and promised. -/
theorem checkBuffers_inv {s : State slots} {need retry notResponding : Nat} {history : History}
    (hLt : s.sdioTxBufCount < espTxBufferMax)
    (hCount : s.sdioTxBufCount % espTxBufferMax = history.written % espTxBufferMax)
    (hTracked : history.packet = need ∧ history.fails = 0)
    (hCredit : s.bufAvailable ≤ history.credit) (hCovered : s.bufAvailable ≤ s.slave.free) :
    CreditInv { checkBuffers s need retry notResponding with history } := by
  unfold checkBuffers
  split
  · split
    · exact ⟨hLt, hCount, trivial, hCredit, hCovered⟩
    · exact ⟨hLt, hCount, hTracked, hCredit, hCovered⟩
  · refine ⟨hLt, hCount, hTracked, ?_, ?_⟩
    · simp only [State.inFlight]
      omega
    · simp only [State.inFlight]
      omega

theorem pollToken_inv {s s' : State slots} {need retry notResponding : Nat} {r : RegRead}
    (hSlots : slots < espTxBufferMax) (hPc : s.pc = .polling need retry notResponding)
    (hInv : CreditInv s) (hKept : CreditKept s (.readToken r))
    (h : pollToken s need retry notResponding r = some s') :
    CreditInv { s' with history := s.history.next (.readToken r) } := by
  obtain ⟨hLt, hCount, hTracked, hCr, hCov⟩ := hInv
  simp only [State.inFlight, State.uncounted, State.Tracked, hPc, Nat.add_zero]
    at hCount hTracked hCr hCov
  cases r with
  | unresponsive =>
    simp only [pollToken] at h
    split at h
    · cases h
      exact ⟨hLt, hCount, trivial, hCr, hCov⟩
    · cases h
      exact ⟨hLt, hCount, hTracked, hCr, hCov⟩
  | failed =>
    cases h
    exact checkBuffers_inv hLt hCount hTracked hCr hCov
  | value r =>
    simp only [pollToken] at h
    split at h
    · rename_i hReg
      cases h
      have hFree : s.slave.free < espTxBufferMax := by
        have := s.slave.loaded_le
        simp only [Tokens.free]
        omega
      have hCountEq := hCount
      rw [Nat.mod_eq_of_lt hLt] at hCountEq
      obtain ⟨hEq, hLe⟩ := sdioGetTxBufferNum_covered hCountEq hReg hFree hKept
      exact checkBuffers_inv hLt hCount hTracked (Nat.le_of_eq hEq) hLe
    · cases h

theorem failWrite_inv {s s' : State slots} {need retries k : Nat}
    (hPc : s.pc = .writing need retries) (hInv : CreditInv s)
    (hKept : CreditKept s (.writeFail k)) (h : failWrite s need retries k = some s') :
    CreditInv { s' with history := s.history.next (.writeFail k) } := by
  obtain ⟨hLt, hCount, hTracked, hCr, hCov⟩ := hInv
  simp only [State.inFlight, State.uncounted, State.Tracked, hPc] at hCount hTracked hCr hCov
  obtain ⟨hPacket, hFails⟩ := hTracked
  unfold failWrite at h
  split at h
  · obtain ⟨slave, hSlave, rfl⟩ := Option.map_eq_some_iff.mp h
    have hFree := Tokens.free_consume hSlave
    simp only [CreditKept, hFails] at hKept
    simp only [History.next, hFails]
    split
    · rename_i hRetry
      have hLeft := hKept hRetry
      refine ⟨hLt, hCount, ⟨hPacket, rfl⟩, hCr, ?_⟩
      simp only [State.inFlight]
      rcases Nat.eq_zero_or_pos k with hZero | hPos
      · omega
      · have := hLeft (Nat.ne_of_gt hPos)
        omega
    · refine ⟨hLt, hCount, trivial, ?_, ?_⟩
      · simp only [State.inFlight]
        omega
      · simp only [State.inFlight]
        omega
  · cases h

/-! ### The whole driver -/

/-- The counts of the driver follow the history, and the credit stays covered along the steps that
satisfy `CreditKept`. -/
theorem creditInv_step {s s' : State slots} {a : Action} (hSlots : slots < espTxBufferMax)
    (hInv : CreditInv s) (hKept : CreditKept s a) (h : step s a = some s') : CreditInv s' := by
  obtain ⟨t, hAct, rfl⟩ := Option.map_eq_some_iff.mp h
  obtain ⟨hLt, hCount, hTracked, hCr, hCov⟩ := hInv
  cases a with
  | send b sendbufOk =>
    simp only [act] at hAct
    split at hAct
    · rename_i hPc
      simp only [History.next]
      split at hAct
      · cases hAct
        exact ⟨hLt, hCount, hTracked, hCr, hCov⟩
      · cases hAct
        exact requestBuffers_inv hPc ⟨hLt, hCount, hTracked, hCr, hCov⟩ _ rfl rfl rfl rfl
    · cases hAct
  | readToken r =>
    simp only [act] at hAct
    split at hAct
    · rename_i hPc
      exact pollToken_inv hSlots hPc ⟨hLt, hCount, hTracked, hCr, hCov⟩ hKept hAct
    · cases hAct
  | writeOk =>
    simp only [act] at hAct
    split at hAct
    · rename_i need retries hPc
      obtain ⟨slave, hSlave, rfl⟩ := Option.map_eq_some_iff.mp hAct
      have hFree := Tokens.free_consume hSlave
      simp only [State.inFlight, State.uncounted, State.Tracked, hPc, Nat.add_zero]
        at hCount hTracked hCr hCov
      refine ⟨hLt, ?_, trivial, ?_, ?_⟩
      · show (s.sdioTxBufCount + need) % espTxBufferMax =
          (s.history.written + s.history.packet) % espTxBufferMax
        rw [hTracked.1, Nat.add_mod, hCount, ← Nat.add_mod]
      · show s.bufAvailable + 0 ≤ s.history.credit - s.history.packet
        omega
      · show s.bufAvailable + 0 ≤ slave.free
        omega
    · cases hAct
  | writeFail k =>
    simp only [act] at hAct
    split at hAct
    · rename_i hPc
      exact failWrite_inv hPc ⟨hLt, hCount, hTracked, hCr, hCov⟩ hKept hAct
    · cases hAct
  | account =>
    simp only [act] at hAct
    split at hAct
    · rename_i need hPc
      cases hAct
      simp only [State.inFlight, State.uncounted, hPc] at hCount hCr hCov
      refine ⟨Nat.mod_lt _ (by decide), ?_, trivial, hCr, hCov⟩
      show ((s.sdioTxBufCount + need) % espTxBufferMax + 0) % espTxBufferMax = _
      rw [Nat.add_zero, Nat.mod_mod]
      exact hCount
    · cases hAct
  | slaveLoad =>
    obtain ⟨slave, hSlave, rfl⟩ := Option.map_eq_some_iff.mp hAct
    have hFree := Tokens.free_load hSlave
    refine ⟨hLt, hCount, hTracked, hCr, ?_⟩
    simp only [State.inFlight] at hCov ⊢
    omega
  | slaveReset n =>
    obtain ⟨slave, hSlave, rfl⟩ := Option.map_eq_some_iff.mp hAct
    refine ⟨hLt, hCount, hTracked, hCr, ?_⟩
    show s.bufAvailable + s.inFlight ≤ slave.free
    rw [Tokens.free_reset hSlave]
    exact Nat.le_trans hCr hKept
  | startWriteThread =>
    simp only [act, Option.ite_none_right_eq_some] at hAct
    obtain ⟨hPc, hEq⟩ := hAct
    cases hEq
    simp only [State.inFlight, State.uncounted, hPc] at hCount hCr hCov
    exact ⟨hLt, hCount, trivial, hCr, hCov⟩
  | busDeinit =>
    cases hAct
    exact ⟨Nat.two_pow_pos 12, rfl, trivial, Nat.le_of_add_right_le hCr,
      Nat.le_of_add_right_le hCov⟩
  | busInit =>
    simp only [act, Option.ite_none_right_eq_some] at hAct
    cases hAct.2
    exact ⟨Nat.two_pow_pos 12, rfl, trivial, Nat.le_of_add_right_le hCr,
      Nat.le_of_add_right_le hCov⟩
  | restartHost =>
    cases hAct
    exact ⟨Nat.two_pow_pos 12, rfl, trivial, Nat.le_refl _, Nat.zero_le _⟩

theorem boot_inv (slave : Tokens slots) : CreditInv (boot slave) :=
  ⟨Nat.two_pow_pos 12, rfl, trivial, Nat.le_refl _, Nat.zero_le _⟩

theorem CreditInv.withinCredit {s : State slots} (hSlots : slots < espTxBufferMax)
    (hInv : CreditInv s) : WithinCredit s := by
  have hCov := hInv.covered
  refine ⟨Nat.le_of_add_right_le hCov, ?_⟩
  intro need retries hPc
  rw [Tokens.credit_eq_free _ hSlots]
  simp only [State.inFlight, hPc] at hCov
  omega

/-- Transmit credit safety: along steps that satisfy `CreditKept`, from power-on in front
of a slave in any state, the driver writes a packet only within the slave's credit and
never caches more credit than the slave has. -/
theorem withinCredit_of_kept (hSlots : slots < espTxBufferMax) {slave : Tokens slots}
    {s : State slots} (hRun : Reaches step CreditKept (boot slave) s) : WithinCredit s :=
  CreditInv.withinCredit hSlots <|
    hRun.invariant (boot_inv slave) fun _ _ _ hInv hKept hStep =>
      creditInv_step hSlots hInv hKept hStep

/-! ### A bus restart without a slave reset -/

/-- A slave of two buffers, both free. -/
def twoBuffers : Tokens 2 := ⟨2, 0, Nat.zero_le _, by decide⟩

/-- A 100-byte packet of the station interface. -/
def smallPacket : BufHandle := ⟨100, 0, false, false⟩

/-- The first two packets after power-on: the first asks for credit and finds two buffers,
so that one stays in the cache. -/
def firstPacket : List Action :=
  [.busInit, .startWriteThread, .send smallPacket true, .readToken (.value (2 * 2 ^ 16)),
    .writeOk, .account]

/-- Then the bus is set up again with a reset slave, and a write fails once. -/
def freshStart : List Action :=
  firstPacket ++ ([.busDeinit, .slaveReset 2, .busInit, .startWriteThread, .send smallPacket true,
    .writeFail 0, .writeOk, .account, .send smallPacket true,
    .readToken (.value (2 * 2 ^ 16))] : List Action)

theorem withinCredit_of_kept_freshStart :
    ∃ s, runGuarded step CreditKept (boot twoBuffers) freshStart = some s ∧
      s.pc = .writing 1 0 ∧ WithinCredit s := by
  have hRun : (runGuarded step CreditKept (boot twoBuffers) freshStart).map
      State.pc = some (.writing 1 0) := by decide +kernel
  obtain ⟨s, hs, hPc⟩ := Option.map_eq_some_iff.mp hRun
  exact ⟨s, hs, hPc, withinCredit_of_kept (by decide) (.of_run hs)⟩

/-- The bus is restarted while the slave keeps running: the cache survives, the count of
used buffers starts again from 0. One packet uses the cached buffer, the next one is
granted a buffer that the slave does not have. -/
def busRestart : List Action :=
  firstPacket ++ ([.busDeinit, .busInit, .startWriteThread, .send smallPacket true, .writeOk,
    .account, .send smallPacket true, .readToken (.value (2 * 2 ^ 16))] : List Action)

theorem not_withinCredit :
    ¬ ∀ s, Reaches step anyStep (boot twoBuffers) s → WithinCredit s := by
  intro h
  have hRun : ∃ s, run step (boot twoBuffers) busRestart = some s ∧
      s.pc = .writing 1 0 ∧ s.slave.credit = 0 := ⟨_, rfl, rfl, rfl⟩
  obtain ⟨s, hs, hPc, hCredit⟩ := hRun
  have hWithin := (h s (.of_plain_run hs)).2 1 0 hPc
  omega

end EspHosted.Sdio.Credit
