import EspHosted.Lib.Machine
import EspHosted.Serial.Frame

/-!
# The host's receive path

The transport passes every serial frame to `serial_ll_rx_handler`, which collects fragments
in memory that grows by `h_realloc` and puts every completed message into a queue.
`rpc_rx_thread` waits for `readSemaphore`, takes a buffer out of the queue and strips the
TLV records (`h_serial_if_recv`, `h_control_serial_drv_read`, `parse_tlv`).

* `serialLlRxHandler_ok`, `hSerialIfRecv_wrapped`: what the two sides do when no allocation
  fails.
-/

namespace EspHosted.Serial

open Bytes Machine

/-- `r.data` of `serial_ll_if.c`: `NULL`, a block of the `r.len` bytes collected so far, or a
pointer to a block that has been freed. -/
inductive HostRxData
  | null
  | live (data : List UInt8)
  | dangling
  deriving DecidableEq

/-- The memory that holds `acc`; nothing is allocated for an empty message. -/
def HostRxData.holding (acc : List UInt8) : HostRxData := if acc = [] then .null else .live acc

/-- What `serial_ll_rx_handler` puts into its queue: a block of bytes and `payload_len`, a
16-bit field. -/
structure RxBuf where
  payload : List UInt8
  payloadLen : Nat
  deriving DecidableEq

/-- The buffer that is made of `r`. -/
def RxBuf.ofData (data : List UInt8) : RxBuf := ⟨data, data.length % 2 ^ 16⟩

/-- The environment of one call of `serial_ll_rx_handler`: the interface is active, `r.data`
can be (re)allocated, the copy can be allocated. -/
structure RxEnv where
  active : Bool
  reallocOk : Bool
  mallocOk : Bool
  deriving DecidableEq

def RxEnv.ideal : RxEnv := ⟨true, true, true⟩

/-- `serial_buff_cleanup`: `h_free(r.data)`, which leaves the pointer as it is. -/
def serialBuffCleanup : HostRxData → Option HostRxData
  | .null => some .null
  | .live _ => some .dangling
  | .dangling => none

/-- `serial_ll_rx_handler` behind its checks, `data` being the content of `r`. -/
def collectFragment (env : RxEnv) (data : List UInt8) (f : Frame) : HostRxData × Option RxBuf :=
  -- a failed `h_realloc` overwrites the only pointer to the block
  if !env.reallocOk then (.null, none)
  else if f.more then (.live (data ++ f.payload), none)
  else if !env.mallocOk then (.dangling, none)
  else (.null, some (.ofData (data ++ f.payload)))

/-- `serial_ll_rx_handler`: the new `r.data` and the buffer that goes into the queue. `none`
is a use of freed memory. -/
def serialLlRxHandler (env : RxEnv) (r : HostRxData) (f : Frame) :
    Option (HostRxData × Option RxBuf) :=
  if f.payload.length = 0 ∨ env.active = false then (serialBuffCleanup r).map (·, none)
  else
    match r with
    | .dangling => none
    | .null => some (collectFragment env [] f)
    | .live data => some (collectFragment env data f)

/-! ## Reading a message -/

/-- `init_read_len`: both records' headers and the endpoint name. -/
def initReadLen : Nat := 12

/-- The host's `parse_tlv` on the first `init_read_len` bytes: the length of the data. -/
def parseTlvHeader (data : List UInt8) : Option Nat :=
  if data.getD 0 0 ≠ tlvTypeEpname then none
  else if le16 (data.getD 1 0) (data.getD 2 0) ≠ rpcEpNameRsp.length then none
  else if (data.drop 3).take 6 ≠ rpcEpNameRsp ∧ (data.drop 3).take 6 ≠ rpcEpNameEvt then none
  else if data.getD 9 0 ≠ tlvTypeData then none
  else some (le16 (data.getD 10 0) (data.getD 11 0))

/-- The two `h_calloc` of `h_control_serial_drv_read`. -/
structure ReadEnv where
  headerOk : Bool
  dataOk : Bool
  deriving DecidableEq

def ReadEnv.ideal : ReadEnv := ⟨true, true⟩

/-- `h_control_serial_drv_read` behind its semaphore, on the buffer that `serial_ll_read` took
out of the queue. The inner `none` is the result `NULL`; the outer one is the second
`h_free(buf)` that the ESP-IDF port makes after a failed check of the header. -/
def hControlSerialDrvRead (env : ReadEnv) (b : RxBuf) : Option (Option (List UInt8)) :=
  if b.payloadLen = 0 then some none
  else if b.payloadLen < initReadLen then some none
  else if !env.headerOk then some none
  else
    match parseTlvHeader (b.payload.take initReadLen) with
    | none => none
    | some bufLen =>
      if bufLen = 0 then none
      else if b.payloadLen < initReadLen + bufLen then none
      else if !env.dataOk then some none
      else some (some ((b.payload.drop initReadLen).take bufLen))

/-- `H_ERR_TIMEOUT` and `H_ERR_INVALID_ARG`. -/
inductive RecvError
  | timeout
  | invalidArg
  deriving DecidableEq

/-- `h_serial_if_recv` into a buffer of `len` bytes. -/
def hSerialIfRecv (env : ReadEnv) (len : Nat) (b : RxBuf) :
    Option (Except RecvError (List UInt8)) :=
  (hControlSerialDrvRead env b).map fun rxData =>
    match rxData with
    | none => .error .timeout
    | some rxData =>
      if rxData.length = 0 then .error .timeout
      else if len < rxData.length then .error .invalidArg
      else .ok (rxData.take (rxData.length % 2 ^ 16))

/-- `ESP_TRANSPORT_MAX_BUF_SIZE`, the size of `recv_buf` in `rpc_rx_thread`. -/
def espTransportMaxBufSize : Nat := 1600

/-! ## The receive path as a system -/

/-- `TO_SERIAL_INFT_QUEUE_SIZE`. -/
def toSerialInftQueueSize : Nat := 10

/-- The frames still to come, `r`, the queue, `readSemaphore`, and what `h_serial_if_recv`
has returned, call by call. `indicating` is the handler between `h_queue_send` and
`rpc_rx_indication`, `woken` is `rpc_rx_thread` behind `h_sem_take`. -/
structure HostRx where
  input : List Frame
  r : HostRxData
  queue : List RxBuf
  readSem : Nat
  indicating : Bool
  woken : Bool
  received : List (Except RecvError (List UInt8))
  fault : Bool

namespace HostRx

inductive Action
  | rxHandler (env : RxEnv)
  | indicate
  | takeSem
  | recv (env : ReadEnv)

def init (frames : List Frame) : HostRx :=
  { input := frames, r := .null, queue := [], readSem := 0, indicating := false,
    woken := false, received := [], fault := false }

/-- One call of `serial_ll_rx_handler` up to `h_queue_send`, which blocks while the queue is
full. -/
def rxHandler (env : RxEnv) (s : HostRx) : Option HostRx :=
  match s.indicating, s.input with
  | false, f :: input =>
    match serialLlRxHandler env s.r f with
    | none => some { s with fault := true }
    | some (r, none) => some { s with input, r }
    | some (r, some b) =>
      if s.queue.length < toSerialInftQueueSize then
        some { s with input, r, queue := s.queue ++ [b], indicating := true }
      else none
  | _, _ => none

/-- `rpc_rx_indication`; a semaphore at its maximum stays there. -/
def indicate (semMax : Nat) (s : HostRx) : Option HostRx :=
  if s.indicating then
    some { s with indicating := false, readSem := min (s.readSem + 1) semMax }
  else none

def takeSem (s : HostRx) : Option HostRx :=
  if s.woken = false ∧ 0 < s.readSem then
    some { s with woken := true, readSem := s.readSem - 1 }
  else none

/-- The rest of `h_serial_if_recv`, with the buffer of `rpc_rx_thread`. -/
def recv (env : ReadEnv) (s : HostRx) : Option HostRx :=
  match s.woken, s.queue with
  | true, b :: queue =>
    match hSerialIfRecv env espTransportMaxBufSize b with
    | none => some { s with fault := true }
    | some result => some { s with woken := false, queue, received := s.received ++ [result] }
  | _, _ => none

/-- `semMax` is `H_MAX_SYNC_RPC_REQUESTS + H_MAX_ASYNC_RPC_REQUESTS`. Nothing happens after a
memory fault. -/
def step (semMax : Nat) (s : HostRx) (a : Action) : Option HostRx :=
  if s.fault then none
  else
    match a with
    | .rxHandler env => rxHandler env s
    | .indicate => indicate semMax s
    | .takeSem => takeSem s
    | .recv env => recv env s

/-- Every frame is processed and every buffer taken. -/
def Done (s : HostRx) : Prop :=
  s.input = [] ∧ s.queue = [] ∧ s.indicating = false

/-- The steps in which the host has memory, its serial interface is up, and the semaphore can
count the message that is announced. -/
def Provided (semMax : Nat) (s : HostRx) : Action → Prop
  | .rxHandler env => env = .ideal
  | .indicate => s.readSem < semMax
  | .takeSem => True
  | .recv env => env = .ideal

instance (semMax : Nat) (s : HostRx) : (a : Action) → Decidable (Provided semMax s a)
  | .rxHandler env => inferInstanceAs (Decidable (env = .ideal))
  | .indicate => inferInstanceAs (Decidable (s.readSem < semMax))
  | .takeSem => .isTrue trivial
  | .recv env => inferInstanceAs (Decidable (env = .ideal))

end HostRx

/-! ## When nothing fails -/

theorem serialLlRxHandler_active {env : RxEnv} (hActive : env.active = true) (acc : List UInt8)
    {f : Frame} (hNe : f.payload ≠ []) :
    serialLlRxHandler env (.holding acc) f = some (collectFragment env acc f) := by
  unfold serialLlRxHandler
  rw [if_neg (by simp [hNe, hActive])]
  by_cases hAcc : acc = []
  · subst hAcc
    rfl
  · simp only [HostRxData.holding, if_neg hAcc]

theorem holding_append (acc : List UInt8) {payload : List UInt8} (hNe : payload ≠ []) :
    HostRxData.holding (acc ++ payload) = .live (acc ++ payload) :=
  if_neg (by simp [hNe])

/-- A fragment is appended; the last one completes the message. -/
theorem serialLlRxHandler_ok (acc : List UInt8) {f : Frame} (hNe : f.payload ≠ []) :
    serialLlRxHandler .ideal (.holding acc) f =
      if f.more then some (.holding (acc ++ f.payload), none)
      else some (.holding [], some (.ofData (acc ++ f.payload))) := by
  rw [serialLlRxHandler_active rfl acc hNe, holding_append acc hNe]
  simp only [collectFragment, RxEnv.ideal, Bool.not_true, Bool.false_eq_true, if_false]
  by_cases hMore : f.more = true
  · rw [if_pos hMore, if_pos hMore]
  · rw [if_neg hMore, if_neg hMore]
    rfl

theorem parseTlvHeader_tlv {epname data : List UInt8}
    (hEp : epname = rpcEpNameRsp ∨ epname = rpcEpNameEvt) (hLen : data.length < 2 ^ 16) :
    parseTlvHeader ((tlv epname data).take initReadLen) = some data.length := by
  have hData := le16_lo_hi hLen
  rcases hEp with rfl | rfl
  all_goals
    simp [parseTlvHeader, tlv, record, initReadLen, rpcEpNameRsp, rpcEpNameEvt, tlvTypeEpname,
      tlvTypeData, hData]
    decide

theorem drop_tlv {epname data : List UInt8} (hEp : epname.length = 6) :
    (tlv epname data).drop initReadLen = data := by
  have hHead : (record tlvTypeEpname epname ++
      [tlvTypeData, lo data.length, hi data.length]).length = initReadLen := by
    simp [record, hEp, initReadLen]
  have hSplit : tlv epname data = (record tlvTypeEpname epname ++
      [tlvTypeData, lo data.length, hi data.length]) ++ data := by
    simp [tlv, record]
  rw [hSplit, ← hHead, List.drop_left]

/-- Of a wrapped message, `h_serial_if_recv` returns the data if it fits. -/
theorem hSerialIfRecv_tlv {epname data : List UInt8} (len : Nat)
    (hEp : epname = rpcEpNameRsp ∨ epname = rpcEpNameEvt) (hData : Wrappable data) :
    hSerialIfRecv .ideal len (.ofData (tlv epname data)) =
      some (if data.length ≤ len then .ok data else .error .invalidArg) := by
  obtain ⟨hPos, hLen⟩ := hData
  have hSix : epname.length = 6 := by rcases hEp with rfl | rfl <;> rfl
  have hSize : (RxBuf.ofData (tlv epname data)).payloadLen = initReadLen + data.length := by
    simp only [RxBuf.ofData, length_tlv, hSix, initReadLen]
    omega
  have hRead : hControlSerialDrvRead .ideal (.ofData (tlv epname data)) = some (some data) := by
    have hHeader : parseTlvHeader ((RxBuf.ofData (tlv epname data)).payload.take initReadLen) =
        some data.length := parseTlvHeader_tlv hEp (by omega)
    have hDrop : (RxBuf.ofData (tlv epname data)).payload.drop initReadLen = data := drop_tlv hSix
    have hHead : 0 < initReadLen := by decide
    rw [hControlSerialDrvRead, hSize, if_neg (by omega), if_neg (by omega), hHeader, hDrop]
    simp only [ReadEnv.ideal, Bool.not_true, Bool.false_eq_true, if_false, Nat.lt_irrefl,
      List.take_length]
    rw [if_neg (by omega)]
  rw [hSerialIfRecv, hRead, Option.map_some]
  dsimp only
  rw [if_neg (by omega), Nat.mod_eq_of_lt (show data.length < 2 ^ 16 by omega), List.take_length]
  by_cases hFits : data.length ≤ len
  · rw [if_neg (by omega), if_pos hFits]
  · rw [if_pos (by omega), if_neg hFits]

end EspHosted.Serial
