import EspHosted.Coprocessor.Receive
import EspHosted.Lib.Pipeline
import EspHosted.Uart.Framing

/-!
# HCI packets between the host and the controller

The host sends an HCI packet in copy mode with its first byte in the header, and
`process_hci_rx_pkt` steps back to it. `host_rcv_pkt` sends a packet of the controller as it is, to
`hci_rx_handler`. Packets keep their order, as both chips have a queue of their own for them.

* `hostToSlave_carry`, `slaveToHost_carry`: which packets come through, unchanged;
* `hci_delivered_iff`: when a series of packets is delivered as it was sent, in both directions.
-/

namespace EspHosted.Bt.HciTransport

open Reads Machine Pipeline Coprocessor.Receive
open Jl.Frames (Header headerSize espHciIf computeChecksum clearChecksum)
open Uart.Framing (headerBytes frameBytes withChecksum)

inductive Transport
  | sdio
  | spi
  | uart
  deriving DecidableEq

/-- The largest frame, with its header. -/
def Transport.bufferSize : Transport → Nat
  | .sdio => 1536
  | .spi | .uart => 1600

/-- `MAX_PAYLOAD_SIZE`. -/
def Transport.maxPayloadSize (t : Transport) : Nat := t.bufferSize - headerSize

/-- Lengths of packets have 16 bits. -/
abbrev Packet := { p : List UInt8 // p.length < 2 ^ 16 }

def toPacket (p : List UInt8) : Option Packet := if h : p.length < 2 ^ 16 then some ⟨p, h⟩ else none

/-- The header of an HCI frame without its checksum, which is on. -/
def hciHeader (len : Nat) (last : UInt8) : Header where
  ifType := espHciIf
  ifNum := 0
  flags := 0
  len := len
  offset := headerSize
  checksum := 0
  seqNum := 0
  last := last

/-! ## From the host to the controller -/

/-- `h_transmit` and the writer of the driver in copy mode. A packet that is empty or too long is
refused. -/
def hostFrame (t : Transport) (packet : Packet) : Option (List UInt8) :=
  match packet.val with
  | [] => none
  | first :: rest =>
    if t.maxPayloadSize < rest.length + 1 then none
    else some (frameBytes (hciHeader rest.length first) 0 rest)

/-- The co-processor reads a header and as many bytes as it says. -/
def uartRead (frame : List UInt8) (behind : Memory) : UartRead where
  scratch := load frame behind
  header := min frame.length headerSize
  payload := min (frame.length - headerSize : Nat) (lenOf (load frame behind))
  header_le := by omega
  payload_le := by omega

/-- What the co-processor does with a frame that arrives in front of other bytes. -/
def slaveEffects (t : Transport) (behind : Memory) (frame : List UInt8) : List Effect :=
  match t with
  | .sdio => sdioRxTask (load frame behind) frame.length
  | .spi => processSpiRx (load frame behind)
  | .uart => uartRxTask (uartRead frame behind)

def Effect.packet : Effect → Option (List UInt8)
  | .toController packet => some packet
  | _ => none

/-- What `esp_vhci_host_send_packet` gets from a frame. -/
def slaveTake (t : Transport) (behind : Memory) (frame : List UInt8) : Option Packet :=
  ((slaveEffects t behind frame).findSome? Effect.packet).bind toPacket

def hostToSlave (t : Transport) (behind : Memory) : Hops Packet (List UInt8) :=
  ⟨hostFrame t, slaveTake t behind⟩

/-! ## From the controller to the host -/

/-- The length of a frame, which the SPI rounds up to four bytes. -/
def Transport.totalLen (t : Transport) (len : Nat) : Nat :=
  match t with
  | .spi => (len + headerSize + 3) / 4 * 4
  | .sdio | .uart => len + headerSize

/-- `host_rcv_pkt` and the writer of the driver. `mempool` is `H_USE_MEMPOOL`: the pool has no
longer blocks, while the SPI driver compares the length itself. An empty packet is sent on SDIO
only. -/
def slaveFrame (t : Transport) (mempool : Bool) (packet : Packet) : Option (List UInt8) :=
  if t ≠ .sdio ∧ packet.val.length = 0 then none
  else if (mempool = true ∨ t = .spi) ∧ t.bufferSize < t.totalLen packet.val.length then none
  else some (frameBytes (hciHeader packet.val.length 0) 0 packet.val)

/-- What `hci_rx_handler` gets from a frame: the reader of the host looks at the length, the offset
and the checksum. -/
def hostTake (t : Transport) (frame : List UInt8) : Option Packet :=
  let header := Header.decode (frame.take headerSize)
  let payload := (frame.drop headerSize).take header.len
  if header.len = 0 ∨ t.maxPayloadSize < header.len ∨ header.offset ≠ headerSize then none
  else if computeChecksum (clearChecksum (frame.take headerSize) ++ payload) ≠ header.checksum then
    none
  else toPacket payload

def slaveToHost (t : Transport) (mempool : Bool) : Hops Packet (List UInt8) :=
  ⟨slaveFrame t mempool, hostTake t⟩

/-! ## A frame in memory -/

section Frames

variable {h : Header}

theorem load_getD (front rest : List UInt8) (behind : Memory) {i : Nat} (hi : i < front.length) :
    load (front ++ rest) behind i = front.getD i 0 := by
  rw [load_append_agree front rest behind behind i hi, load, dif_pos hi]
  simp [List.getD, hi]

/-- Bytes of a buffer are those of its list. -/
theorem bytesAt_load (bytes : List UInt8) (behind : Memory) {start count : Nat}
    (hEnd : start + count ≤ bytes.length) :
    bytesAt (load bytes behind) start count = (bytes.drop start).take count := by
  refine List.ext_getElem ?_ fun i hi hi' => ?_
  · simp only [bytesAt, List.length_map, List.length_range, List.length_take, List.length_drop]
    omega
  · have hCount : i < count := by simpa [bytesAt] using hi
    have hLt : start + i < bytes.length := by omega
    simp [bytesAt, load, hLt]

/-- The fields of a header in front of a payload. -/
theorem fields_load (payload : List UInt8) (behind : Memory)
    (hDecode : Header.decode (headerBytes h 0) = h) :
    let m := load (headerBytes h 0 ++ payload) behind
    ifTypeOf m = h.ifType ∧ flagsOf m = h.flags ∧ lenOf m = h.len ∧ offsetOf m = h.offset ∧
      checksumOf m = h.checksum := by
  have hAt : ∀ i, i < headerSize →
      load (headerBytes h 0 ++ payload) behind i = (headerBytes h 0).getD i 0 :=
    fun i hi => load_getD _ _ _ hi
  have hType : (Header.decode (headerBytes h 0)).ifType = h.ifType := by rw [hDecode]
  have hFlags : (Header.decode (headerBytes h 0)).flags = h.flags := by rw [hDecode]
  have hLen : (Header.decode (headerBytes h 0)).len = h.len := by rw [hDecode]
  have hOffset : (Header.decode (headerBytes h 0)).offset = h.offset := by rw [hDecode]
  have hSum : (Header.decode (headerBytes h 0)).checksum = h.checksum := by rw [hDecode]
  simp only [ifTypeOf, flagsOf, lenOf, offsetOf, checksumOf, hAt 0 (by decide), hAt 1 (by decide),
    hAt 2 (by decide), hAt 3 (by decide), hAt 4 (by decide), hAt 5 (by decide), hAt 6 (by decide),
    hAt 7 (by decide)]
  exact ⟨hType, hFlags, hLen, hOffset, hSum⟩

/-- A frame of an HCI packet that fits, with the checksum that it gets. -/
theorem hciFrame_eq (payload : List UInt8) (last : UInt8)
    (hFits : payload.length + headerSize ≤ 1600) :
    ∃ h : Header, frameBytes (hciHeader payload.length last) 0 payload =
        headerBytes h 0 ++ payload ∧
      Header.decode (headerBytes h 0) = h ∧ h.ifType = espHciIf ∧ h.flags = 0 ∧
      h.len = payload.length ∧ h.offset = headerSize ∧ h.last = last ∧
      computeChecksum (clearChecksum (headerBytes h 0) ++ payload) = h.checksum := by
  have hSum := Jl.Frames.computeChecksum_lt
    (headerBytes (hciHeader payload.length last) 0 ++ payload)
  refine ⟨withChecksum (hciHeader payload.length last) _, Uart.Framing.frameBytes_eq hFits, ?_, rfl,
    rfl, rfl, rfl, rfl, ?_⟩
  · have hLen : payload.length < 2 ^ 16 := by
      simp only [headerSize] at hFits
      omega
    exact Uart.Framing.decode_headerBytes.trans (Jl.Frames.decode_encode
      (by decide : espHciIf < 16) (by decide : 0 < 16) hLen (by decide : headerSize < 2 ^ 16) hSum
      (by decide : 0 < 2 ^ 16))
  · rw [Uart.Framing.clearChecksum_headerBytes rfl]
    rfl

end Frames

/-! ## To the controller -/

section Receive

variable {m : Memory}

/-- The packet of a frame that passes the checks starts at the last byte of the header. -/
theorem receive_packet {dropsEmpty : Bool} {bound : Nat} (hFlags : flagsOf m = 0)
    (hType : ifTypeOf m = espHciIf) (hBound : lenOf m + offsetOf m ≤ bound)
    (hSum : ChecksumOk m) :
    (receive dropsEmpty bound [] m).findSome? Effect.packet =
      if dropsEmpty = true ∧ lenOf m = 0 then none
      else some (bytesAt m (offsetOf m - 1) ((lenOf m + 1) % 65536)) := by
  have hQuiet : powerSave [] m = [] := by
    rw [powerSave, hFlags, if_neg (by decide), if_neg (by decide)]
  have hHci : ifTypeOf m ≠ espPrivIf := by rw [hType]; decide
  rw [receive, hQuiet, if_neg (Nat.not_lt.mpr hBound), if_pos hSum]
  split
  · rfl
  · rw [processRxPkt, if_neg hHci, if_pos hType]
    rfl

theorem uartRxTask_packet {r : UartRead} (hHeader : r.header = headerSize)
    (hOffset : offsetOf r.scratch = headerSize)
    (hFits : lenOf r.scratch + headerSize ≤ spiBufferSize) (hPayload : r.payload = lenOf r.scratch)
    (hFlags : flagsOf r.scratch = 0) (hType : ifTypeOf r.scratch = espHciIf)
    (hSum : ChecksumOk r.scratch) :
    (uartRxTask r).findSome? Effect.packet =
      some (bytesAt r.scratch (offsetOf r.scratch - 1) ((lenOf r.scratch + 1) % 65536)) := by
  have hQuiet : powerSave [] r.scratch = [] := by
    rw [powerSave, hFlags, if_neg (by decide), if_neg (by decide)]
  have hHci : ifTypeOf r.scratch ≠ espPrivIf := by rw [hType]; decide
  rw [uartRxTask, if_neg (by omega), if_neg (not_not.mpr hOffset), if_neg (by omega),
    if_neg (by omega), hQuiet, if_pos hSum, processRxPkt, if_neg hHci, if_pos hType]
  rfl

end Receive

theorem toPacket_val (p : Packet) : toPacket p.val = some p := dif_pos p.property

theorem maxPayloadSize_le (t : Transport) : t.maxPayloadSize ≤ 1588 := by cases t <;> decide

/-- The co-processor takes the packet of a frame of the host, but on SDIO and SPI none without
payload. -/
theorem slaveTake_frame (t : Transport) (behind : Memory) (first : UInt8) (rest : List UInt8)
    (hMax : rest.length + 1 ≤ t.maxPayloadSize) :
    slaveTake t behind (frameBytes (hciHeader rest.length first) 0 rest) =
      if t ≠ .uart ∧ rest.length = 0 then none else toPacket (first :: rest) := by
  have hSize := maxPayloadSize_le t
  have hTwelve : headerSize = 12 := rfl
  obtain ⟨h, hFrame, hDecode, hType, hFlags, hLen, hOffset, hLast, hSum⟩ :=
    hciFrame_eq rest first (by omega)
  obtain ⟨hType', hFlags', hLen', hOffset', hChecksum'⟩ :=
    fields_load rest behind hDecode
  rw [hFrame]
  set frame := headerBytes h 0 ++ rest
  have hLength : frame.length = headerSize + rest.length := List.length_append
  rw [hLen] at hLen'
  rw [hOffset] at hOffset'
  have hAll : bytesAt (load frame behind) 0 (lenOf (load frame behind) +
      offsetOf (load frame behind)) = frame := by
    rw [hLen', hOffset', Nat.add_comm, ← hLength, bytesAt_load frame behind (by omega),
      List.drop_zero, List.take_length]
  have hOk : ChecksumOk (load frame behind) := by
    rw [ChecksumOk, hAll, hChecksum', ← hSum]
    rfl
  have hPacket : bytesAt (load frame behind) (offsetOf (load frame behind) - 1)
      ((lenOf (load frame behind) + 1) % 65536) = first :: rest := by
    have hMod : (rest.length + 1) % 65536 = (first :: rest).length := by
      rw [List.length_cons]
      omega
    have hDrop : frame.drop 11 = first :: rest := by
      rw [← hLast]
      rfl
    rw [hLen', hOffset', hMod, bytesAt_load frame behind (by simp only [List.length_cons]; omega)]
    show (frame.drop 11).take (first :: rest).length = first :: rest
    rw [hDrop, List.take_length]
  have hEnd : lenOf (load frame behind) + offsetOf (load frame behind) = frame.length := by
    rw [hLen', hOffset', hLength, Nat.add_comm]
  have hFound : ∀ bound, frame.length ≤ bound →
      (receive true bound [] (load frame behind)).findSome? Effect.packet =
        if rest.length = 0 then none else some (first :: rest) := by
    intro bound hBound
    rw [receive_packet (hFlags'.trans hFlags) (hType'.trans hType) (hEnd ▸ hBound) hOk, hPacket,
      hLen']
    exact if_congr (and_iff_right rfl) rfl rfl
  have hShort : rest.length = 0 ∨ rest.length ≠ 0 := em _
  rw [slaveTake]
  cases t with
  | sdio =>
    have hMod : frame.length ≤ frame.length % 65536 := by omega
    rw [slaveEffects, sdioRxTask, hFound _ hMod]
    rcases hShort with hNone | hSome
    · rw [if_pos hNone, if_pos ⟨nofun, hNone⟩]
      rfl
    · rw [if_neg hSome, if_neg fun h => hSome h.2]
      rfl
  | spi =>
    rw [slaveEffects, processSpiRx, hFound spiBufferSize (by simp only [spiBufferSize]; omega)]
    rcases hShort with hNone | hSome
    · rw [if_pos hNone, if_pos ⟨nofun, hNone⟩]
      rfl
    · rw [if_neg hSome, if_neg fun h => hSome h.2]
      rfl
  | uart =>
    have hRead : (uartRead frame behind).header = headerSize := by
      rw [uartRead]
      simp only
      omega
    have hPayload : (uartRead frame behind).payload = lenOf (load frame behind) := by
      rw [uartRead]
      simp only [hLen', hLength]
      omega
    have hSmall : lenOf (load frame behind) + headerSize ≤ spiBufferSize := by
      simp only [spiBufferSize]
      omega
    rw [slaveEffects, uartRxTask_packet hRead hOffset' hSmall hPayload
      (hFlags'.trans hFlags) (hType'.trans hType) hOk, if_neg fun h => h.1 rfl]
    exact congrArg (Option.bind · toPacket) (congrArg some hPacket)

/-- A packet that comes through from the host to the controller: it is not empty, not too long, and
if it has one byte the frame has no payload, which the UART alone takes. -/
def CarriedDown (t : Transport) (p : Packet) : Prop :=
  1 ≤ p.val.length ∧ p.val.length ≤ t.maxPayloadSize ∧ (t = .uart ∨ p.val.length ≠ 1)

instance (t : Transport) (p : Packet) : Decidable (CarriedDown t p) :=
  inferInstanceAs (Decidable (_ ∧ _))

theorem hostToSlave_carry (t : Transport) (behind : Memory) (p : Packet) :
    (hostToSlave t behind).carry p = if CarriedDown t p then some p else none := by
  obtain ⟨packet, hLen⟩ := p
  cases packet with
  | nil => exact (if_neg fun h => Nat.not_succ_le_zero 0 h.1).symm
  | cons first rest =>
    simp only [Hops.carry, hostToSlave, hostFrame]
    by_cases hMax : t.maxPayloadSize < rest.length + 1
    · rw [if_pos hMax]
      exact (if_neg fun h => Nat.not_lt.mpr h.2.1 hMax).symm
    · rw [if_neg hMax, Option.bind_some, slaveTake_frame t behind first rest (Nat.not_lt.mp hMax),
        toPacket_val ⟨first :: rest, hLen⟩]
      by_cases hShort : t ≠ .uart ∧ rest.length = 0
      · rw [if_pos hShort, if_neg fun h => ?_]
        exact h.2.2.elim hShort.1 fun hOne => hOne (congrArg (· + 1) hShort.2)
      · have hOne : t = .uart ∨ rest.length + 1 ≠ 1 := by
          by_cases hUart : t = .uart
          · exact .inl hUart
          · exact .inr fun hOne => hShort ⟨hUart, Nat.succ.inj hOne⟩
        rw [if_neg hShort, if_pos ⟨Nat.succ_pos _, Nat.not_lt.mp hMax, hOne⟩]

/-! ## To the host -/

/-- A packet that comes through from the controller to the host. -/
def CarriedUp (t : Transport) (p : Packet) : Prop :=
  1 ≤ p.val.length ∧ p.val.length ≤ t.maxPayloadSize

instance (t : Transport) (p : Packet) : Decidable (CarriedUp t p) :=
  inferInstanceAs (Decidable (_ ∧ _))

/-- The host reads the length of a packet, however long it is. -/
theorem decode_frame (p : Packet) :
    (Header.decode ((frameBytes (hciHeader p.val.length 0) 0 p.val).take headerSize)).len =
      p.val.length := by
  obtain ⟨sum, hSum, hFrame⟩ : ∃ sum, sum < 2 ^ 16 ∧
      frameBytes (hciHeader p.val.length 0) 0 p.val =
        headerBytes (withChecksum (hciHeader p.val.length 0) sum) 0 ++ p.val :=
    ⟨_, Jl.Frames.computeChecksum_lt _, rfl⟩
  have hDecode : Header.decode (headerBytes (withChecksum (hciHeader p.val.length 0) sum) 0) =
      withChecksum (hciHeader p.val.length 0) sum :=
    Uart.Framing.decode_headerBytes.trans (Jl.Frames.decode_encode
      (by decide : espHciIf < 16) (by decide : 0 < 16) p.property (by decide : headerSize < 2 ^ 16)
      hSum (by decide : 0 < 2 ^ 16))
  rw [hFrame, ← Uart.Framing.headerBytes_length, List.take_left, hDecode]
  rfl

/-- The host takes the payload of a frame that is not empty and not too long. -/
theorem hostTake_frame (t : Transport) (p : Packet) :
    hostTake t (frameBytes (hciHeader p.val.length 0) 0 p.val) =
      if CarriedUp t p then some p else none := by
  by_cases hCarried : CarriedUp t p
  · have hSize := maxPayloadSize_le t
    have hMax := hCarried.2
    obtain ⟨h, hFrame, hDecode, -, -, hLen, hOffset, -, hSum⟩ := hciFrame_eq p.val 0 (by
      simp only [headerSize]
      omega)
    have hTake : (headerBytes h 0 ++ p.val).take headerSize = headerBytes h 0 := rfl
    have hDrop : (headerBytes h 0 ++ p.val).drop headerSize = p.val := rfl
    have hFields : ¬ (h.len = 0 ∨ t.maxPayloadSize < h.len ∨ h.offset ≠ headerSize) := by
      rw [hLen, hOffset]
      have hOne := hCarried.1
      omega
    rw [hFrame, if_pos hCarried, hostTake]
    simp only [hTake, hDrop, hDecode]
    rw [if_neg hFields, hLen, List.take_length, if_neg (not_not.mpr hSum), toPacket_val]
  · have hFields : (Header.decode ((frameBytes (hciHeader p.val.length 0) 0 p.val).take
        headerSize)).len = 0 ∨ t.maxPayloadSize < (Header.decode
          ((frameBytes (hciHeader p.val.length 0) 0 p.val).take headerSize)).len := by
      rw [decode_frame]
      by_contra hNot
      exact hCarried ⟨by omega, by omega⟩
    rw [if_neg hCarried, hostTake]
    exact if_pos (hFields.imp_right .inl)

theorem slaveToHost_carry (t : Transport) (mempool : Bool) (p : Packet) :
    (slaveToHost t mempool).carry p = if CarriedUp t p then some p else none := by
  simp only [Hops.carry, slaveToHost, slaveFrame]
  by_cases hEmpty : t ≠ .sdio ∧ p.val.length = 0
  · rw [if_pos hEmpty, if_neg fun h => absurd h.1 (by omega)]
    rfl
  · rw [if_neg hEmpty]
    by_cases hLong : (mempool = true ∨ t = .spi) ∧ t.bufferSize < t.totalLen p.val.length
    · rw [if_pos hLong, if_neg fun h => ?_]
      · rfl
      · have hMax := h.2
        have hTotal := hLong.2
        cases t <;>
          simp only [Transport.maxPayloadSize, Transport.bufferSize, Transport.totalLen,
            headerSize] at hMax hTotal <;>
          omega
    · rw [if_neg hLong, Option.bind_some, hostTake_frame]

/-! ## Series of packets -/

/-- While nothing is lost under way (no memory, an interface that is down, a host that sleeps, a
semaphore of the controller that is not given in time), what was sent is delivered in order, in both
directions, if every packet comes through. -/
theorem hci_delivered_iff {t : Transport} {behind : Memory} {mempool : Bool}
    {down up : State Packet (List UInt8)}
    (hDown : Reaches (step (hostToSlave t behind)) Kept boot down) (hDownRest : down.AtRest)
    (hUp : Reaches (step (slaveToHost t mempool)) Kept boot up) (hUpRest : up.AtRest) :
    (down.delivered = down.sent ∧ up.delivered = up.sent) ↔
      (∀ p ∈ down.sent, CarriedDown t p) ∧ (∀ p ∈ up.sent, CarriedUp t p) := by
  have hIf : ∀ (c : Prop) [Decidable c] (p q : Packet), (if c then some p else none) = some q →
      q = p := by
    intro c _ p q h
    split at h
    · exact (Option.some.inj h).symm
    · cases h
  have hSome : ∀ (c : Prop) [Decidable c] (p : Packet), (if c then some p else none) = some p ↔
      c := by
    intro c _ p
    by_cases hc : c
    · rw [if_pos hc]
      exact iff_of_true rfl hc
    · rw [if_neg hc]
      exact iff_of_false (Option.some_ne_none p).symm hc
  have hDownIff := delivered_iff (fun p q h =>
    hIf _ p q ((hostToSlave_carry t behind p).symm.trans h)) hDown hDownRest
  have hUpIff := delivered_iff (fun p q h =>
    hIf _ p q ((slaveToHost_carry t mempool p).symm.trans h)) hUp hUpRest
  simp only [hostToSlave_carry, hSome] at hDownIff
  simp only [slaveToHost_carry, hSome] at hUpIff
  rw [hDownIff, hUpIff]

/-- A reset command, with the byte that says that it is a command. -/
def reset : Packet := ⟨[1, 3, 12, 0], by decide⟩

/-- It goes to the controller and the same bytes come back. -/
theorem hci_delivered_iff_reset : ([reset] = [reset] ∧ [reset] = [reset]) ↔
    (∀ p ∈ [reset], CarriedDown .sdio p) ∧ (∀ p ∈ [reset], CarriedUp .sdio p) := by
  have hDown := reaches_alone (hostToSlave .sdio fun _ => 0) reset
  have hUp := reaches_alone (slaveToHost .sdio true) reset
  rw [hostToSlave_carry, if_pos (by decide)] at hDown
  rw [slaveToHost_carry, if_pos (by decide)] at hUp
  exact hci_delivered_iff hDown ⟨rfl, rfl, rfl⟩ hUp ⟨rfl, rfl, rfl⟩

/-- Of a packet of one byte the frame has no payload, and the co-processor drops it. -/
theorem oneByte_dropped : ¬ ∀ (t : Transport) (behind : Memory) (s : State Packet (List UInt8)),
    Reaches (step (hostToSlave t behind)) Kept boot s → s.AtRest → (∀ p ∈ s.sent,
      1 ≤ p.val.length ∧ p.val.length ≤ t.maxPayloadSize) → s.delivered = s.sent := by
  intro h
  let p : Packet := ⟨[1], by decide⟩
  have hAlone := reaches_alone (hostToSlave .sdio fun _ => 0) p
  rw [hostToSlave_carry, if_neg (by decide)] at hAlone
  have hDelivered := h .sdio _ _ hAlone ⟨rfl, rfl, rfl⟩ fun q hq => by
    cases List.mem_singleton.mp hq
    decide
  cases hDelivered

end EspHosted.Bt.HciTransport
