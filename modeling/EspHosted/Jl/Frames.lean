import EspHosted.Lib.Bytes
import Mathlib.Data.List.Induction

/-!
# Frames on the JL UART

`jl_uart_write_packet` writes a header of twelve bytes and the payload to the bus.
`jl_uart_read_packet` reads a header, looks at its fields, reads as many bytes as it says, and
compares the checksum. A read from the bus gives any number of the bytes that were asked for, or
none, and is repeated until all are there.

* `frames_read`: all packets that were written are read again, in order, however the reads split
  the bytes, if `if_num` has no more than the four bits that the header has for it.
-/

namespace EspHosted.Jl.Frames

open Bytes

/-! ## Header -/

/-- `sizeof(struct esp_payload_header)`. -/
def headerSize : Nat := 12

/-- `H_MAX_TRANSPORT_BUFFER_SIZE` less the header. -/
def maxPayloadSize : Nat := 1588

def espHciIf : Nat := 4
def espMaxIf : Nat := 8

/-- The fields of `struct esp_payload_header`; `last` is the union at its end. -/
structure Header where
  ifType : Nat
  ifNum : Nat
  flags : UInt8
  len : Nat
  offset : Nat
  checksum : Nat
  seqNum : Nat
  last : UInt8

/-- The bytes of a header, the first with `if_type` and `if_num` in four bits each. -/
def Header.encode (h : Header) : List UInt8 :=
  [UInt8.ofNat (h.ifType % 16 + h.ifNum % 16 * 16), h.flags, lo h.len, hi h.len, lo h.offset,
    hi h.offset, lo h.checksum, hi h.checksum, lo h.seqNum, hi h.seqNum, 0, h.last]

def Header.decode (bytes : List UInt8) : Header :=
  let byte i := bytes.getD i 0
  { ifType := (byte 0).toNat % 16, ifNum := (byte 0).toNat / 16, flags := byte 1,
    len := le16 (byte 2) (byte 3), offset := le16 (byte 4) (byte 5),
    checksum := le16 (byte 6) (byte 7), seqNum := le16 (byte 8) (byte 9), last := byte 11 }

theorem encode_length (h : Header) : h.encode.length = headerSize := rfl

/-- The fields come back that fit into their bits. -/
theorem decode_encode {h : Header} (hType : h.ifType < 16) (hNum : h.ifNum < 16)
    (hLen : h.len < 2 ^ 16) (hOffset : h.offset < 2 ^ 16) (hChecksum : h.checksum < 2 ^ 16)
    (hSeq : h.seqNum < 2 ^ 16) : Header.decode h.encode = h := by
  have hFirst : (UInt8.ofNat (h.ifType % 16 + h.ifNum % 16 * 16)).toNat =
      h.ifType + h.ifNum * 16 := by
    rw [UInt8.toNat_ofNat']
    omega
  obtain ⟨ifType, ifNum, flags, len, offset, checksum, seqNum, last⟩ := h
  simp only at hType hNum hLen hOffset hChecksum hSeq hFirst
  simp only [Header.decode, Header.encode, List.getD_cons_zero, List.getD_cons_succ, hFirst,
    le16_lo_hi hLen, le16_lo_hi hOffset, le16_lo_hi hChecksum, le16_lo_hi hSeq, Header.mk.injEq,
    and_true]
  constructor <;> omega

/-- `compute_checksum`. -/
def computeChecksum (buf : List UInt8) : Nat :=
  buf.foldl (fun checksum b => (checksum + b.toNat) % 2 ^ 16) 0

theorem computeChecksum_lt (buf : List UInt8) : computeChecksum buf < 2 ^ 16 := by
  induction buf using List.reverseRecOn with
  | nil => decide
  | append_singleton buf b ih =>
    rw [computeChecksum, List.foldl_append]
    exact Nat.mod_lt _ (by decide)

/-! ## Writing -/

/-- `interface_buffer_handle_t`. In zero-copy mode `payload` is what stands behind the room for
the header. -/
structure Handle where
  payloadZcopy : Bool
  ifType : UInt8
  ifNum : UInt8
  flag : UInt8
  seqNum : UInt16
  payload : List UInt8

/-- What goes to the bus, if anything does; `H_UART_CHECKSUM` is set if `checksum` is. -/
def jlUartWritePacket (checksum : Bool) (h : Handle) : Option (List UInt8) :=
  if h.flag = 0 ∧ h.payload.length = 0 then none
  else if maxPayloadSize < h.payload.length then none
  else
    let header : Header :=
      { ifType := h.ifType.toNat % 16, ifNum := h.ifNum.toNat % 16, flags := h.flag,
        len := h.payload.length, offset := headerSize, checksum := 0, seqNum := h.seqNum.toNat,
        last := 0 }
    let copied : Option (Header × List UInt8) :=
      if header.ifType = espHciIf ∧ h.payloadZcopy = false then
        match h.payload with
        | [] => none -- `len` is 65535 then, and `memcpy` leaves both buffers
        | hciPktType :: payload =>
          some ({ header with last := hciPktType, len := h.payload.length - 1 }, payload)
      else some (header, h.payload)
    copied.map fun (header, payload) =>
      let header := if checksum then
          { header with checksum := computeChecksum (header.encode ++ payload) }
        else header
      header.encode ++ payload

/-! ## Reading -/

/-- What each call of `jl_uart_bus_read` can get, perhaps nothing. -/
abbrev Arrivals := List (List UInt8)

/-- `jl_uart_read_fully`. There is no result while bytes are missing. -/
def jlUartReadFully : Nat → Arrivals → Option (List UInt8 × Arrivals)
  | 0, arrivals => some ([], arrivals)
  | _ + 1, [] => none
  | n + 1, bytes :: arrivals =>
    if n + 1 < bytes.length then some (bytes.take (n + 1), bytes.drop (n + 1) :: arrivals)
    else (jlUartReadFully (n + 1 - bytes.length) arrivals).map fun (rest, arrivals) =>
      (bytes ++ rest, arrivals)

/-- `jl_uart_validate_header`. -/
def Header.valid (h : Header) : Bool :=
  h.len ≠ 0 && h.len ≤ maxPayloadSize && h.offset = headerSize && h.ifType < espMaxIf

/-- What the caller of `jl_uart_read_packet` gets. -/
structure Packet where
  ifType : Nat
  ifNum : Nat
  flags : UInt8
  seqNum : Nat
  payload : List UInt8
  deriving DecidableEq

/-- One round of the loop of `jl_uart_read_packet`: it has a packet, goes on, or waits for
bytes. -/
inductive Round
  | packet (p : Packet) (arrivals : Arrivals)
  | again (arrivals : Arrivals)
  | waiting

/-- The checksum field is set to 0. -/
def clearChecksum (headerBytes : List UInt8) : List UInt8 := (headerBytes.set 6 0).set 7 0

/-- `flushInput` is `jl_uart_bus_flush_input`. -/
def readRound (checksum : Bool) (flushInput : Arrivals → Arrivals) (arrivals : Arrivals) : Round :=
  match jlUartReadFully headerSize arrivals with
  | none => .waiting
  | some (headerBytes, arrivals) =>
    let header := Header.decode headerBytes
    if header.valid = false then .again (flushInput arrivals)
    else
      match jlUartReadFully header.len arrivals with
      | none => .waiting
      | some (payload, arrivals) =>
        if checksum = true ∧
            computeChecksum (clearChecksum headerBytes ++ payload) ≠ header.checksum then
          .again (flushInput arrivals)
        else
          .packet { ifType := header.ifType, ifNum := header.ifNum, flags := header.flags,
                    seqNum := header.seqNum, payload := payload } arrivals

/-- The packets that `jl_uart_rx_task` gets in a number of rounds. -/
def readPackets (checksum : Bool) (flushInput : Arrivals → Arrivals) :
    Nat → Arrivals → List Packet
  | 0, _ => []
  | n + 1, arrivals =>
    match readRound checksum flushInput arrivals with
    | .packet p arrivals => p :: readPackets checksum flushInput n arrivals
    | .again arrivals => readPackets checksum flushInput n arrivals
    | .waiting => []

/-! ## Partial reads -/

variable {checksum : Bool} {flushInput : Arrivals → Arrivals} {h : Handle}

/-- All bytes are read if there are as many, and what is behind them stays. -/
theorem readFully_append {bytes rest : List UInt8} {arrivals : Arrivals}
    (hFlat : arrivals.flatten = bytes ++ rest) :
    ∃ left, jlUartReadFully bytes.length arrivals = some (bytes, left) ∧ left.flatten = rest := by
  induction arrivals generalizing bytes with
  | nil =>
    obtain ⟨rfl, rfl⟩ := List.append_eq_nil_iff.mp hFlat.symm
    exact ⟨[], rfl, rfl⟩
  | cons chunk arrivals ih =>
    cases hLen : bytes.length with
    | zero =>
      rw [List.length_eq_zero_iff.mp hLen] at hFlat ⊢
      exact ⟨chunk :: arrivals, rfl, hFlat⟩
    | succ n =>
      rw [List.flatten_cons] at hFlat
      rw [jlUartReadFully, ← hLen]
      by_cases hLong : bytes.length < chunk.length
      · -- the bytes are in this read, and some of it is left
        obtain ⟨more, hMore⟩ := List.prefix_of_prefix_length_le (List.prefix_append bytes rest)
          (hFlat ▸ List.prefix_append chunk arrivals.flatten) (Nat.le_of_lt hLong)
        rw [if_pos hLong, ← hMore, List.take_left, List.drop_left]
        refine ⟨_, rfl, ?_⟩
        rw [← hMore, List.append_assoc] at hFlat
        exact List.append_cancel_left hFlat
      · obtain ⟨more, hMore⟩ := List.prefix_of_prefix_length_le
          (List.prefix_append chunk arrivals.flatten) (hFlat ▸ List.prefix_append bytes rest)
          (Nat.not_lt.mp hLong)
        rw [← hMore, List.append_assoc] at hFlat
        obtain ⟨left, hRead, hLeft⟩ := ih (List.append_cancel_left hFlat)
        rw [if_neg hLong, ← hMore, List.length_append, Nat.add_sub_cancel_left, hRead]
        exact ⟨left, rfl, hLeft⟩

/-- Too few bytes are waited for. -/
theorem readFully_short {n : Nat} {arrivals : Arrivals} (hShort : arrivals.flatten.length < n) :
    jlUartReadFully n arrivals = none := by
  induction arrivals generalizing n with
  | nil =>
    cases n with
    | zero => exact absurd hShort (Nat.not_lt_zero _)
    | succ n => rfl
  | cons chunk arrivals ih =>
    rw [List.flatten_cons, List.length_append] at hShort
    cases n with
    | zero => exact absurd hShort (Nat.not_lt_zero _)
    | succ n =>
      rw [jlUartReadFully, if_neg (by omega), ih (by omega)]
      rfl

/-! ## Frames -/

/-- A packet in copy mode, of a length that fits and of an interface that is not HCI. -/
structure Sendable (h : Handle) : Prop where
  copied : h.payloadZcopy = false
  length : 1 ≤ h.payload.length ∧ h.payload.length ≤ maxPayloadSize
  ifType : h.ifType.toNat < espMaxIf
  notHci : h.ifType.toNat ≠ espHciIf

def Handle.packet (h : Handle) : Packet :=
  { ifType := h.ifType.toNat, ifNum := h.ifNum.toNat, flags := h.flag, seqNum := h.seqNum.toNat,
    payload := h.payload }

/-- The header of a packet that is sent, with its checksum. -/
def Handle.header (h : Handle) (sum : Nat) : Header :=
  { ifType := h.ifType.toNat % 16, ifNum := h.ifNum.toNat % 16, flags := h.flag,
    len := h.payload.length, offset := headerSize, checksum := sum, seqNum := h.seqNum.toNat,
    last := 0 }

def Handle.sum (h : Handle) (checksum : Bool) : Nat :=
  if checksum then computeChecksum ((h.header 0).encode ++ h.payload) else 0

theorem writePacket_eq (checksum : Bool) (hSend : Sendable h) :
    jlUartWritePacket checksum h = some ((h.header (h.sum checksum)).encode ++ h.payload) := by
  have hLength := hSend.length
  have hType : ¬ (h.ifType.toNat % 16 = espHciIf ∧ h.payloadZcopy = false) := by
    have hMax := hSend.ifType
    have hHci := hSend.notHci
    rw [espMaxIf] at hMax
    rw [Nat.mod_eq_of_lt (by omega)]
    exact fun hBoth => hHci hBoth.1
  unfold jlUartWritePacket
  rw [if_neg (by omega), if_neg (by omega)]
  simp only [if_neg hType, Handle.sum]
  cases checksum <;> rfl

theorem sum_lt (h : Handle) (checksum : Bool) : h.sum checksum < 2 ^ 16 := by
  unfold Handle.sum
  split
  · exact computeChecksum_lt _
  · decide

theorem decode_header (hSend : Sendable h) {sum : Nat} (hSum : sum < 2 ^ 16) :
    Header.decode (h.header sum).encode = h.header sum := by
  have hLength := hSend.length
  have hMax : maxPayloadSize = 1588 := rfl
  refine decode_encode ?_ ?_ ?_ (show headerSize < 2 ^ 16 by decide) hSum h.seqNum.toNat_lt
  · exact Nat.mod_lt _ (by decide)
  · exact Nat.mod_lt _ (by decide)
  · simp only [Handle.header]
    omega

theorem header_valid (hSend : Sendable h) (sum : Nat) : (h.header sum).valid = true := by
  have hLength := hSend.length
  have hType := hSend.ifType
  have hMod : h.ifType.toNat % 16 < espMaxIf := Nat.lt_of_le_of_lt (Nat.mod_le _ _) hType
  have hNonzero : h.payload.length ≠ 0 := by omega
  simp only [Header.valid, Handle.header, hMod, hNonzero, hLength.2, ne_eq, not_false_eq_true,
    decide_true, Bool.and_self]

/-- The reader computes the checksum over the bytes that the writer computed it over. -/
theorem clearChecksum_header (h : Handle) (sum : Nat) :
    clearChecksum (h.header sum).encode = (h.header 0).encode := by
  simp only [clearChecksum, Header.encode, Handle.header, List.set_cons_succ, List.set_cons_zero,
    show lo 0 = 0 from rfl, show hi 0 = 0 from rfl]

theorem header_checksum (h : Handle) (sum : Nat) : (h.header sum).checksum = sum := rfl

/-- A frame in front of the bytes is read as it was written. -/
theorem readRound_frame (flushInput : Arrivals → Arrivals) (hSend : Sendable h)
    {frame rest : List UInt8} {arrivals : Arrivals}
    (hWrite : jlUartWritePacket checksum h = some frame)
    (hFlat : arrivals.flatten = frame ++ rest) :
    ∃ left, readRound checksum flushInput arrivals =
        .packet { h.packet with ifNum := h.ifNum.toNat % 16 } left ∧ left.flatten = rest := by
  rw [writePacket_eq checksum hSend] at hWrite
  cases hWrite
  rw [List.append_assoc] at hFlat
  obtain ⟨mid, hHeader, hMid⟩ := readFully_append hFlat
  obtain ⟨left, hPayload, hLeft⟩ := readFully_append hMid
  refine ⟨left, ?_, hLeft⟩
  rw [encode_length] at hHeader
  have hType : h.ifType.toNat % 16 = h.ifType.toNat := by
    have hMax := hSend.ifType
    rw [espMaxIf] at hMax
    omega
  have hSum : ¬ (checksum = true ∧
      computeChecksum ((h.header 0).encode ++ h.payload) ≠ h.sum checksum) := by
    rintro ⟨rfl, hNe⟩
    exact hNe rfl
  simp only [readRound, hHeader, decode_header hSend (sum_lt h checksum),
    header_valid hSend, Bool.true_eq_false, if_false, clearChecksum_header, header_checksum,
    show (h.header (h.sum checksum)).len = h.payload.length from rfl, hPayload, hSum]
  simp only [Handle.header, Handle.packet, hType]

/-- Nothing is read when no bytes are left. -/
theorem readPackets_nil {arrivals : Arrivals} (hFlat : arrivals.flatten = []) (n : Nat) :
    readPackets checksum flushInput n arrivals = [] := by
  cases n with
  | zero => rfl
  | succ n =>
    rw [readPackets, readRound, readFully_short (by rw [hFlat]; decide)]

/-- The frames of a sequence of packets, one behind the other. -/
def frames (checksum : Bool) (hs : List Handle) : List UInt8 :=
  (hs.map fun h => (jlUartWritePacket checksum h).getD []).flatten

theorem readPackets_frames {hs : List Handle} (hSend : ∀ h ∈ hs, Sendable h) {arrivals : Arrivals}
    (hFlat : arrivals.flatten = frames checksum hs) {n : Nat} (hRounds : hs.length ≤ n) :
    readPackets checksum flushInput n arrivals =
      hs.map fun h => { h.packet with ifNum := h.ifNum.toNat % 16 } := by
  induction hs generalizing arrivals n with
  | nil => exact readPackets_nil hFlat n
  | cons h hs ih =>
    have hHead := hSend h List.mem_cons_self
    cases n with
    | zero => exact absurd hRounds (Nat.not_succ_le_zero _)
    | succ n =>
      rw [frames, List.map_cons, List.flatten_cons, ← frames, writePacket_eq checksum hHead,
        Option.getD_some] at hFlat
      obtain ⟨left, hRound, hLeft⟩ :=
        readRound_frame flushInput hHead (writePacket_eq checksum hHead) hFlat
      have hTail := ih (fun g hg => hSend g (List.mem_cons_of_mem _ hg)) hLeft
        (Nat.le_of_succ_le_succ hRounds)
      simp only [readPackets, hRound, List.map_cons, hTail]

/-- For every sequence of packets and however the reads split their bytes. -/
theorem frames_read {hs : List Handle} (hSend : ∀ h ∈ hs, Sendable h ∧ h.ifNum.toNat < 16)
    {arrivals : Arrivals} (hFlat : arrivals.flatten = frames checksum hs) {n : Nat}
    (hRounds : hs.length ≤ n) :
    (∀ h ∈ hs, (jlUartWritePacket checksum h).isSome) ∧
      readPackets checksum flushInput n arrivals = hs.map Handle.packet := by
  constructor
  · intro h hMem
    rw [writePacket_eq checksum (hSend h hMem).1]
    rfl
  · rw [readPackets_frames (fun h hMem => (hSend h hMem).1) hFlat hRounds]
    refine List.map_congr_left fun h hMem => ?_
    rw [Nat.mod_eq_of_lt (hSend h hMem).2]
    rfl

/-- A packet of the station. -/
def hello : Handle :=
  { payloadZcopy := false, ifType := 1, ifNum := 0, flag := 0, seqNum := 7,
    payload := [104, 101, 108, 108, 111] }

theorem hello_sendable : ∀ h ∈ [hello, hello], Sendable h ∧ h.ifNum.toNat < 16 := by
  have hHello : Sendable hello := ⟨rfl, by decide, by decide, by decide⟩
  intro h hMem
  rw [List.mem_cons, List.mem_singleton, or_self] at hMem
  rw [hMem]
  exact ⟨hHello, by decide⟩

/-- Byte by byte, with a read that gets nothing. -/
theorem frames_read_hello :
    readPackets true id 3 ([] :: (frames true [hello, hello]).map fun b => [b]) =
      [hello.packet, hello.packet] := by
  have hFlat : ([] :: (frames true [hello, hello]).map fun b => [b]).flatten =
      frames true [hello, hello] := by decide +kernel
  exact (frames_read hello_sendable hFlat (by decide)).2

/-- The header has four bits for `if_num`. -/
theorem if_num_cut : ∃ h : Handle, Sendable h ∧ h.ifNum = 16 ∧
    ∃ frame, jlUartWritePacket true h = some frame ∧
      (readPackets true id 1 [frame]).map Packet.ifNum = [0] ∧
      readPackets true id 1 [frame] ≠ [h.packet] := by
  refine ⟨{ hello with ifNum := 16 }, ⟨rfl, by decide, by decide, by decide⟩, rfl, _, rfl, ?_, ?_⟩
  · decide +kernel
  · decide +kernel

end EspHosted.Jl.Frames
