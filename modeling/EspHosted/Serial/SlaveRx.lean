import EspHosted.Lib.Machine
import EspHosted.Serial.ReqHandler

/-!
# The co-processor's receive path

`recv_task` passes every serial frame to `process_serial_rx_pkt`, which appends it to the
buffer `r` and, at the last fragment, queues a request for `pserial_task`. That task takes
the message out of `r` with `serial_read_data` and runs `rpc_req_handler` on it. Events of
the co-processor go through the same queue.

The two tasks share `r` without a lock. `process_serial_rx_pkt` reads `r.len` for
`rem_buff_size` when it is called and then waits until `r.valid` is clear;
`serial_read_data` clears `r.valid`, `r.len` and `r.cur_seq_no` one after the other. The
model takes one step for each of these.
-/

namespace EspHosted.Serial

open Machine

/-- `sizeof(r.data)`. -/
def rxDataSize : Nat := 8192

def rpcIdEventBase : Nat := 768
def rpcIdEventMax : Nat := 790
def unknownRpcMsgId : Nat := 0

/-- `REQ_Q_MAX`, by whether the chip is an ESP32-C2. -/
def reqQMax (esp32c2 : Bool) : Nat := if esp32c2 then 3 else 10

/-- `struct rx_data` of the co-processor, `data` being the first `len` bytes of the array. -/
structure SlaveRxData where
  valid : Bool
  curSeqNo : Nat
  data : List UInt8

/-- `serial_arg_t`. -/
structure SerialArg where
  msgId : Nat
  data : List UInt8
  deriving DecidableEq

def SerialArg.isEvent (a : SerialArg) : Bool := rpcIdEventBase < a.msgId && a.msgId < rpcIdEventMax

/-- Where `recv_task` is: between frames, or inside `process_serial_rx_pkt` with
`rem_buff_size` computed. -/
inductive RecvPc
  | idle
  | entered (frame : Frame) (remBuffSize : Nat)

/-- Where `pserial_task` is: waiting for the queue, or with a request in its hands. The
buffer of the request and the length that `serial_read_data` returns go with it. -/
inductive PserialPc
  | idle
  | received (data : List UInt8)
  | validCleared (data : List UInt8) (len : Nat)
  | lenCleared (data : List UInt8) (len : Nat)
  | handling (data : List UInt8) (len : Nat)

/-- The frame inside `process_serial_rx_pkt`. -/
def RecvPc.held : RecvPc → List Frame
  | .idle => []
  | .entered f _ => [f]

def PserialPc.busy : PserialPc → Bool
  | .idle => false
  | _ => true

/-- `serial_read_data` has cleared `r.valid` and not yet `r.len`. -/
def PserialPc.clearing : PserialPc → Bool
  | .validCleared .. => true
  | _ => false

/-- The frames still to come, the shared buffer and queue, the two tasks, and what
`rpc_req_handler` made of each request. -/
structure SlaveRx where
  input : List Frame
  r : SlaveRxData
  reqQueue : List SerialArg
  recvPc : RecvPc
  pserialPc : PserialPc
  extracted : List (Except ReqError (List UInt8 × List UInt8))

namespace SlaveRx

inductive Action
  | recvFrame
  | acceptFrame (mallocOk : Bool)
  | event (msgId : Nat) (data : List UInt8)
  | dequeue
  | readData
  | clearLen
  | clearSeqNo
  | handleReq

def init (frames : List Frame) : SlaveRx :=
  { input := frames, r := ⟨false, 0, []⟩, reqQueue := [], recvPc := .idle, pserialPc := .idle,
    extracted := [] }

/-- `xQueueSend` on the request queue; the caller blocks while it is full. -/
def send (qMax : Nat) (s : SlaveRx) (arg : SerialArg) : Option SlaveRx :=
  if s.reqQueue.length < qMax then some { s with reqQueue := s.reqQueue ++ [arg] } else none

/-- `parse_protobuf_req`, which is `protocomm_pserial_data_ready` on the whole of `r`. -/
def parseProtobufReq (qMax : Nat) (mallocOk : Bool) (s : SlaveRx) : Option SlaveRx :=
  if s.r.data.length ≠ 0 ∧ mallocOk = false then some s
  else send qMax s ⟨unknownRpcMsgId, s.r.data⟩

/-- The start of `process_serial_rx_pkt`. -/
def recvFrame (s : SlaveRx) : Option SlaveRx :=
  match s.recvPc, s.input with
  | .idle, f :: input =>
    some { s with input, recvPc := .entered f (rxDataSize - s.r.data.length) }
  | _, _ => none

/-- The first fragment of a message sets the sequence number of all of them. -/
def noteSeqNo (r : SlaveRxData) (f : Frame) : SlaveRxData :=
  if r.data.length = 0 then { r with curSeqNo := f.seqNum } else r

/-- `process_serial_rx_pkt` behind its wait: a frame of another sequence number ends the
message, any other one is appended as far as `rem_buff_size` goes. -/
def appendFrame (qMax : Nat) (mallocOk : Bool) (s : SlaveRx) (f : Frame) (remBuffSize : Nat) :
    Option SlaveRx :=
  if f.seqNum ≠ s.r.curSeqNo then
    parseProtobufReq qMax mallocOk { s with r := { s.r with valid := true } }
  else
    let data := s.r.data ++ f.payload.take (min f.payload.length remBuffSize)
    if f.more then some { s with r := { s.r with data } }
    else parseProtobufReq qMax mallocOk { s with r := { s.r with valid := true, data } }

/-- The rest of `process_serial_rx_pkt`, once `r.valid` is clear. -/
def acceptFrame (qMax : Nat) (mallocOk : Bool) (s : SlaveRx) : Option SlaveRx :=
  match s.recvPc with
  | .entered f remBuffSize =>
    if s.r.valid then none
    else appendFrame qMax mallocOk { s with r := noteSeqNo s.r f, recvPc := .idle } f remBuffSize
  | .idle => none

/-- `pserial_task` takes the next item; events do not concern `r`. -/
def dequeue (s : SlaveRx) : Option SlaveRx :=
  match s.pserialPc, s.reqQueue with
  | .idle, arg :: reqQueue =>
    some { s with reqQueue, pserialPc := if arg.isEvent then .idle else .received arg.data }
  | _, _ => none

/-- `serial_read_data` up to `r.valid = 0`. Nothing is copied unless `r` is valid. -/
def readData (s : SlaveRx) : Option SlaveRx :=
  match s.pserialPc with
  | .received data =>
    let len := min data.length s.r.data.length
    if s.r.valid then
      some { s with
        r := { s.r with valid := false }
        pserialPc := .validCleared (s.r.data.take len ++ data.drop len) len }
    else some { s with pserialPc := .handling data len }
  | _ => none

def clearLen (s : SlaveRx) : Option SlaveRx :=
  match s.pserialPc with
  | .validCleared data len =>
    some { s with r := { s.r with data := [] }, pserialPc := .lenCleared data len }
  | _ => none

def clearSeqNo (s : SlaveRx) : Option SlaveRx :=
  match s.pserialPc with
  | .lenCleared data len =>
    some { s with r := { s.r with curSeqNo := 0 }, pserialPc := .handling data len }
  | _ => none

/-- `rpc_req_handler`, called when `serial_read_data` returned a length. -/
def handleReq (s : SlaveRx) : Option SlaveRx :=
  match s.pserialPc with
  | .handling data len =>
    if len = 0 then some { s with pserialPc := .idle }
    else some { s with
      pserialPc := .idle, extracted := s.extracted ++ [rpcReqHandler data len] }
  | _ => none

def step (qMax : Nat) (s : SlaveRx) : Action → Option SlaveRx
  | .recvFrame => recvFrame s
  | .acceptFrame mallocOk => acceptFrame qMax mallocOk s
  | .event msgId data =>
    if (SerialArg.mk msgId data).isEvent then send qMax s ⟨msgId, data⟩ else none
  | .dequeue => dequeue s
  | .readData => readData s
  | .clearLen => clearLen s
  | .clearSeqNo => clearSeqNo s
  | .handleReq => handleReq s

/-- Every frame is processed and every request handled. -/
def Done (s : SlaveRx) : Prop :=
  s.input = [] ∧ s.reqQueue = [] ∧ s.recvPc.held = [] ∧ s.pserialPc.busy = false

/-- The steps in which the receive path keeps a message whole: a frame that arrives while
the previous message is still in `r` fits behind it, `process_serial_rx_pkt` does not leave
its wait while `serial_read_data` is clearing `r`, and the request can be allocated. -/
def Unhurried (s : SlaveRx) : Action → Prop
  | .recvFrame => ∀ f ∈ s.input.head?, s.r.data.length + f.payload.length ≤ rxDataSize
  | .acceptFrame mallocOk => mallocOk = true ∧ s.pserialPc.clearing = false
  | _ => True

instance (s : SlaveRx) : (a : Action) → Decidable (Unhurried s a)
  | .recvFrame => inferInstanceAs (Decidable (∀ f ∈ s.input.head?, _))
  | .acceptFrame _ => inferInstanceAs (Decidable (_ ∧ _))
  | .event .. | .dequeue | .readData | .clearLen | .clearSeqNo | .handleReq => .isTrue trivial

/-- The steps that are not events of the co-processor's own. -/
def Action.OnPath : Action → Prop
  | .event .. => False
  | _ => True

end SlaveRx

end EspHosted.Serial
