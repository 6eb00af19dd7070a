import EspHosted.Lib.Bytes
import EspHosted.Lib.Fragments

/-!
# Serial frames and the TLV format

RPC messages travel between the host and the co-processor over the serial interface of the
transport. A message is wrapped in two TLV records, the endpoint name and the data, and the
result is cut into frames. This module has what both sides and both directions share.
-/

namespace EspHosted.Serial

open Bytes Fragments

/-- The transports of the host driver. -/
inductive Transport
  | sdio
  | spi
  | spiHd
  | uart
  deriving DecidableEq

/-- `MAX_TRANSPORT_BUFFER_SIZE`. -/
def Transport.maxTransportBufferSize : Transport → Nat
  | .sdio => 1536
  | .spi | .spiHd | .uart => 1600

/-- `MAX_PAYLOAD_SIZE`: the buffer without `struct esp_payload_header`. -/
def Transport.maxPayloadSize (t : Transport) : Nat := t.maxTransportBufferSize - 12

def maxFragmentablePayloadSize : Nat := 8192

theorem Transport.maxPayloadSize_pos (t : Transport) : 0 < t.maxPayloadSize := by
  cases t <;> decide

/-- Flag bit of `struct esp_payload_header`. -/
def moreFragment : Nat := 1

/-- What the serial layers use of a received packet: its payload (`len` bytes at `offset`),
the sequence number and the flags of the header. -/
structure Frame where
  payload : List UInt8
  seqNum : Nat
  flags : Nat
  deriving DecidableEq

def Frame.more (f : Frame) : Bool := f.flags &&& moreFragment ≠ 0

/-- The frame as a piece of a message. -/
def Frame.piece (f : Frame) : List UInt8 × Bool := (f.payload, f.more)

/-- The flags of a fragment. -/
def fragFlags (more : Bool) : Nat := if more then moreFragment else 0

@[simp] theorem more_mk (payload : List UInt8) (seqNum : Nat) (more : Bool) :
    Frame.more ⟨payload, seqNum, fragFlags more⟩ = more := by
  cases more <;> simp [Frame.more, fragFlags, moreFragment]

/-- The lengths the control path is made for: with the headers of the two TLV records the
message is within `MAX_FRAGMENTABLE_PAYLOAD_SIZE`. -/
def Fragmentable (data : List UInt8) : Prop :=
  1 ≤ data.length ∧ data.length + 12 ≤ maxFragmentablePayloadSize

instance (data : List UInt8) : Decidable (Fragmentable data) :=
  inferInstanceAs (Decidable (_ ∧ _))

/-- The lengths that the 16-bit fields of the path can hold, with the headers. -/
def Wrappable (data : List UInt8) : Prop := 1 ≤ data.length ∧ data.length + 12 < 2 ^ 16

theorem Fragmentable.wrappable {data : List UInt8} (h : Fragmentable data) : Wrappable data :=
  ⟨h.1, Nat.lt_of_le_of_lt h.2 (by decide)⟩

/-! ## TLV records -/

def tlvTypeEpname : UInt8 := 1
def tlvTypeData : UInt8 := 2

/-- `RPC_EP_NAME_RSP`, the bytes of "RPCRsp". -/
def rpcEpNameRsp : List UInt8 := [0x52, 0x50, 0x43, 0x52, 0x73, 0x70]

/-- `RPC_EP_NAME_EVT`, the bytes of "RPCEvt". -/
def rpcEpNameEvt : List UInt8 := [0x52, 0x50, 0x43, 0x45, 0x76, 0x74]

/-- One record: type, 16-bit length, value. -/
def record (type : UInt8) (value : List UInt8) : List UInt8 :=
  type :: lo value.length :: hi value.length :: value

/-- A wrapped message. -/
def tlv (epname data : List UInt8) : List UInt8 :=
  record tlvTypeEpname epname ++ record tlvTypeData data

theorem records_eq_tlv (epname data : List UInt8) :
    record tlvTypeEpname epname ++ record tlvTypeData data = tlv epname data := rfl

theorem length_tlv (epname data : List UInt8) :
    (tlv epname data).length = epname.length + data.length + 6 := by
  simp [tlv, record]
  omega

theorem tlv_ne_nil (epname data : List UInt8) : tlv epname data ≠ [] := by
  simp [tlv, record]

end EspHosted.Serial
