import EspHosted.Jl.Frames

/-!
# Frames on the UART

The co-processor writes frames with `h_uart_write`, which the host reads with `h_uart_read_task`,
and the host with `h_uart_write_packet`, which the co-processor reads with `uart_rx_task`. Both
readers read a header, as many bytes as it says, and compare the checksum, which is on. A read waits
until the bytes are there.

* `readPackets_frames`: how a series of frames is read, one after the other;
* `framing_delivers`: in both directions what arrives unchanged is delivered in order, whatever else
  arrives with an intact header and another checksum.
-/

namespace EspHosted.Uart.Framing

open Bytes
open Jl.Frames (Header headerSize maxPayloadSize espHciIf computeChecksum clearChecksum Packet)

/-! ## Writing -/

/-- `MAX_UART_BUFFER_SIZE` of the host and `BUFFER_SIZE` of the co-processor. -/
def maxUartBufferSize : Nat := 1600

/-- `interface_buffer_handle_t`; only the co-processor has `wifi_flow_ctrl_en`. The length has 16
bits. -/
structure Handle where
  ifType : UInt8
  ifNum : UInt8
  flag : UInt8
  seqNum : UInt16
  wifiFlowCtrlEn : UInt8
  payload : List UInt8
  length_lt : payload.length < 2 ^ 16

/-- The fields of the header but for the checksum; the writers take four bits of the interface. -/
def Handle.header (b : Handle) (len : Nat) (last : UInt8) : Header where
  ifType := b.ifType.toNat % 16
  ifNum := b.ifNum.toNat % 16
  flags := b.flag
  len := len
  offset := headerSize
  checksum := 0
  seqNum := b.seqNum.toNat
  last := last

/-- A header with `throttle_cmd`, which has two bits. -/
def headerBytes (h : Header) (throttle : UInt8) : List UInt8 := h.encode.set 10 (throttle &&& 3)

def withChecksum (h : Header) (sum : Nat) : Header := { h with checksum := sum }

/-- The header with its checksum, and the payload. The checksum is over a length of 16 bits. -/
def frameBytes (h : Header) (throttle : UInt8) (payload : List UInt8) : List UInt8 :=
  let summed := (headerBytes h throttle ++ payload).take ((headerSize + payload.length) % 65536)
  headerBytes (withChecksum h (computeChecksum summed)) throttle ++ payload

inductive Written
  | refused
  /-- Memory is read that is not there. -/
  | fault
  | frame (bytes : List UInt8)

/-- `h_uart_write`, if there is memory. `mempool` is `H_USE_MEMPOOL`: the pool has no blocks longer
than `BUFFER_SIZE`. -/
def hUartWrite (mempool : Bool) (b : Handle) : Written :=
  if b.wifiFlowCtrlEn = 0 ∧ b.payload.length = 0 then .refused
  else if mempool = true ∧ maxUartBufferSize < b.payload.length + headerSize then .refused
  else .frame (frameBytes (b.header b.payload.length 0) b.wifiFlowCtrlEn b.payload)

/-- `h_uart_write_packet` in copy mode, if there is a buffer. The first byte of an HCI packet goes
into the header. -/
def hUartWritePacket (b : Handle) : Written :=
  if b.flag = 0 ∧ b.payload.length = 0 then .refused
  else if maxUartBufferSize - headerSize < b.payload.length then .refused
  else if b.ifType.toNat % 16 = espHciIf then
    match b.payload with
    | [] => .fault
    | first :: rest => .frame (frameBytes (b.header rest.length first) 0 rest)
  else .frame (frameBytes (b.header b.payload.length 0) 0 b.payload)

/-! ## Reading -/

inductive Round
  | packet (p : Packet) (rest : List UInt8)
  | again (rest : List UInt8)
  | waiting

/-- One round of a reader, which looks at the header again with `accepts` once the payload is there.
`payloadOf` is what the packet is taken to be. -/
def readRound (accepts : Header → Bool) (payloadOf : Header → List UInt8 → List UInt8)
    (stream : List UInt8) : Round :=
  if stream.length < headerSize then .waiting
  else
    let header := Header.decode (stream.take headerSize)
    let rest := stream.drop headerSize
    if header.offset ≠ headerSize then .again rest
    else if maxUartBufferSize < header.len + headerSize then .again rest
    else if rest.length < header.len then .waiting
    else if accepts header = true ∧ computeChecksum
        (clearChecksum (stream.take headerSize) ++ rest.take header.len) = header.checksum then
      .packet { ifType := header.ifType, ifNum := header.ifNum, flags := header.flags,
                seqNum := header.seqNum, payload := payloadOf header (rest.take header.len) }
        (rest.drop header.len)
    else .again (rest.drop header.len)

/-- The fields that `is_valid_uart_rx_packet` looks at. -/
def isValidUartRxPacket (h : Header) : Bool :=
  h.len ≠ 0 && h.len ≤ maxPayloadSize && h.offset = headerSize

/-- One round of `h_uart_read_task`. -/
def hUartReadTask : List UInt8 → Round := readRound isValidUartRxPacket fun _ payload => payload

/-- `process_hci_rx_pkt` takes the last byte of the header for the first of the packet. -/
def rxPayload (h : Header) (payload : List UInt8) : List UInt8 :=
  if h.ifType = espHciIf then h.last :: payload else payload

/-- One round of `uart_rx_task`. -/
def uartRxTask : List UInt8 → Round := readRound (fun _ => true) rxPayload

/-- The packets of a number of rounds. -/
def readPackets (round : List UInt8 → Round) : Nat → List UInt8 → List Packet
  | 0, _ => []
  | n + 1, stream =>
    match round stream with
    | .packet p rest => p :: readPackets round n rest
    | .again rest => readPackets round n rest
    | .waiting => []

/-! ## What arrives -/

def Handle.packet (b : Handle) : Packet where
  ifType := b.ifType.toNat
  ifNum := b.ifNum.toNat
  flags := b.flag
  seqNum := b.seqNum.toNat
  payload := b.payload

/-- A frame that was written, and the payload that arrives behind its header. -/
structure Arrival (write : Handle → Written) where
  handle : Handle
  frame : List UInt8
  written : write handle = .frame frame
  payload : List UInt8
  length : frame.length = headerSize + payload.length

section Arrivals

variable {write : Handle → Written}

def Arrival.bytes (a : Arrival write) : List UInt8 := a.frame.take headerSize ++ a.payload

/-- Nothing was corrupted. -/
def Arrival.Intact (a : Arrival write) : Prop := a.payload = a.frame.drop headerSize

instance (a : Arrival write) : Decidable a.Intact := inferInstanceAs (Decidable (_ = _))

/-- A corrupted payload has another checksum than the payload that was written. -/
def Arrival.Detected (a : Arrival write) : Prop :=
  a.Intact ∨ computeChecksum a.payload ≠ computeChecksum (a.frame.drop headerSize)

/-- The interface fits into its four bits of the header. -/
def Handle.Fits (b : Handle) : Prop := b.ifType.toNat < 16 ∧ b.ifNum.toNat < 16

def stream (as : List (Arrival write)) : List UInt8 := as.flatMap Arrival.bytes

/-- The packets that arrive unchanged. -/
def intact (as : List (Arrival write)) : List Packet :=
  (as.filter (·.Intact)).map (·.handle.packet)

end Arrivals

/-! ## The checksum -/

theorem foldl_checksum {acc : Nat} (hAcc : acc < 2 ^ 16) (buf : List UInt8) :
    buf.foldl (fun checksum b => (checksum + b.toNat) % 2 ^ 16) acc =
      (acc + computeChecksum buf) % 2 ^ 16 := by
  induction buf generalizing acc with
  | nil => exact (Nat.mod_eq_of_lt hAcc).symm
  | cons b buf ih =>
    have hByte : computeChecksum (b :: buf) =
        ((0 + b.toNat) % 2 ^ 16 + computeChecksum buf) % 2 ^ 16 := ih (Nat.mod_lt _ (by decide))
    rw [List.foldl_cons, ih (Nat.mod_lt _ (by decide)), hByte]
    omega

theorem computeChecksum_append (front back : List UInt8) :
    computeChecksum (front ++ back) =
      (computeChecksum front + computeChecksum back) % 2 ^ 16 := by
  rw [computeChecksum, List.foldl_append]
  exact foldl_checksum (Jl.Frames.computeChecksum_lt front) back

/-- Behind the same header, payloads have the same checksum if they have it alone. -/
theorem computeChecksum_append_iff (front back back' : List UInt8) :
    computeChecksum (front ++ back) = computeChecksum (front ++ back') ↔
      computeChecksum back = computeChecksum back' := by
  have hBack := Jl.Frames.computeChecksum_lt back
  have hBack' := Jl.Frames.computeChecksum_lt back'
  rw [computeChecksum_append, computeChecksum_append]
  omega

/-! ## One frame -/

section Frame

variable {h : Header} {throttle : UInt8}

theorem headerBytes_length : (headerBytes h throttle).length = headerSize := rfl

/-- The readers do not look at `throttle_cmd`. -/
theorem decode_headerBytes : Header.decode (headerBytes h throttle) = Header.decode h.encode := by
  simp only [Header.decode, headerBytes, Header.encode, List.set_cons_succ, List.set_cons_zero,
    List.getD_cons_succ, List.getD_cons_zero]

theorem clearChecksum_headerBytes (hZero : h.checksum = 0) (sum : Nat) :
    clearChecksum (headerBytes (withChecksum h sum) throttle) = headerBytes h throttle := by
  simp only [clearChecksum, headerBytes, withChecksum, Header.encode, List.set_cons_succ,
    List.set_cons_zero, hZero, show lo 0 = 0 from rfl, show hi 0 = 0 from rfl]

/-- A frame that fits has the checksum of all its bytes. -/
theorem frameBytes_eq {payload : List UInt8} (hMax : payload.length + headerSize ≤ 1600) :
    frameBytes h throttle payload =
      headerBytes (withChecksum h (computeChecksum (headerBytes h throttle ++ payload))) throttle ++
        payload := by
  have hAll : (headerBytes h throttle ++ payload).length ≤
      (headerSize + payload.length) % 65536 := by
    rw [List.length_append, headerBytes_length]
    omega
  rw [frameBytes, List.take_of_length_le hAll]

end Frame

section Read

variable {accepts : Header → Bool} {payloadOf : Header → List UInt8 → List UInt8} {b : Handle}
  {throttle last : UInt8} {written arrives rest : List UInt8}

/-- A frame in front of a stream is read, and is a packet if the reader accepts it and what arrives
has the checksum of what was written. -/
theorem readRound_frame (hMax : written.length + headerSize ≤ maxUartBufferSize)
    (hLen : arrives.length = written.length) :
    readRound accepts payloadOf
        ((frameBytes (b.header written.length last) throttle written).take headerSize ++ arrives ++
          rest) =
      let header := withChecksum (b.header written.length last)
        (computeChecksum (headerBytes (b.header written.length last) throttle ++ written))
      if accepts header = true ∧ computeChecksum arrives = computeChecksum written then
        .packet { ifType := header.ifType, ifNum := header.ifNum, flags := header.flags,
                  seqNum := header.seqNum, payload := payloadOf header arrives } rest
      else .again rest := by
  have hSum := Jl.Frames.computeChecksum_lt
    (headerBytes (b.header written.length last) throttle ++ written)
  have hBound : written.length < 2 ^ 16 := by
    simp only [maxUartBufferSize] at hMax
    omega
  rw [frameBytes_eq hMax, ← headerBytes_length, List.take_left]
  set sum := computeChecksum (headerBytes (b.header written.length last) throttle ++ written)
  set header := withChecksum (b.header written.length last) sum
  have hDecode : Header.decode (headerBytes header throttle) = header :=
    decode_headerBytes.trans (Jl.Frames.decode_encode (Nat.mod_lt _ (by decide))
      (Nat.mod_lt _ (by decide)) hBound (by decide : headerSize < 2 ^ 16) hSum b.seqNum.toNat_lt)
  have hTake : (headerBytes header throttle ++ arrives ++ rest).take headerSize =
      headerBytes header throttle := by
    rw [List.append_assoc, ← headerBytes_length, List.take_left]
  have hDrop : (headerBytes header throttle ++ arrives ++ rest).drop headerSize =
      arrives ++ rest := by
    rw [List.append_assoc, ← headerBytes_length, List.drop_left]
  have hLong : ¬ (headerBytes header throttle ++ arrives ++ rest).length < headerSize := by
    rw [List.length_append, List.length_append, headerBytes_length]
    omega
  have hRest : ¬ (arrives ++ rest).length < header.len := by
    rw [List.length_append, hLen]
    exact Nat.not_lt.mpr (Nat.le_add_right _ _)
  have hArrives : (arrives ++ rest).take header.len = arrives := by
    rw [show header.len = arrives.length from hLen.symm, List.take_left]
  have hBehind : (arrives ++ rest).drop header.len = rest := by
    rw [show header.len = arrives.length from hLen.symm, List.drop_left]
  have hClear : clearChecksum (headerBytes header throttle) =
      headerBytes (b.header written.length last) throttle := clearChecksum_headerBytes rfl sum
  have hCompare : computeChecksum (headerBytes (b.header written.length last) throttle ++ arrives) =
      header.checksum ↔ computeChecksum arrives = computeChecksum written :=
    computeChecksum_append_iff _ _ _
  have hOffset : ¬ header.offset ≠ headerSize := not_not.mpr rfl
  have hFits : ¬ maxUartBufferSize < header.len + headerSize := Nat.not_lt.mpr hMax
  rw [readRound, if_neg hLong]
  simp only [hTake, hDrop, hDecode]
  rw [if_neg hOffset, if_neg hFits, if_neg hRest, hArrives, hBehind, hClear]
  exact if_congr (and_congr_right fun _ => hCompare) rfl rfl

end Read

/-! ## Series of frames -/

section Series

variable {write : Handle → Written} {round : List UInt8 → Round}

/-- If each frame is read as `expect` says, a series of frames is read so, in order. -/
theorem readPackets_frames {expect : Arrival write → Option Packet} (hWaiting : round [] = .waiting)
    {as : List (Arrival write)} (hRound : ∀ a ∈ as, ∀ rest, round (a.bytes ++ rest) =
      match expect a with
      | some p => .packet p rest
      | none => .again rest) {n : Nat} (hRounds : as.length ≤ n) :
    readPackets round n (stream as) = as.filterMap expect := by
  induction as generalizing n with
  | nil =>
    cases n with
    | zero => rfl
    | succ n => rw [readPackets, stream, List.flatMap_nil, hWaiting]; rfl
  | cons a as ih =>
    cases n with
    | zero => exact absurd hRounds (Nat.not_succ_le_zero _)
    | succ n =>
      have hTail := ih (fun b hb => hRound b (List.mem_cons_of_mem _ hb))
        (Nat.le_of_succ_le_succ hRounds)
      have hHead := hRound a List.mem_cons_self (stream as)
      rw [readPackets, stream, List.flatMap_cons, ← stream, hHead, List.filterMap_cons]
      cases expect a with
      | none => exact hTail
      | some p => exact congrArg (p :: ·) hTail

/-- What is expected of the frames that arrive unchanged and pass `p`. -/
theorem filterMap_intact (p : Arrival write → Bool) (as : List (Arrival write)) :
    as.filterMap (fun a => if a.Intact ∧ p a = true then some a.handle.packet else none) =
      intact (as.filter p) := by
  induction as with
  | nil => rfl
  | cons a as ih =>
    rw [List.filterMap_cons, ih]
    by_cases hPass : p a = true
    · by_cases hIntact : a.Intact <;> simp [intact, hPass, hIntact]
    · simp [hPass]

/-- A frame of a series that was written from `written`, behind a header that says so. -/
theorem arrival_round (accepts : Header → Bool) (payloadOf : Header → List UInt8 → List UInt8)
    (a : Arrival write) (hDetected : a.Detected) {written : List UInt8} {last throttle : UInt8}
    (hFrame : a.frame = frameBytes (a.handle.header written.length last) throttle written)
    (hMax : written.length + headerSize ≤ maxUartBufferSize) (rest : List UInt8) :
    ∃ sum, readRound accepts payloadOf (a.bytes ++ rest) =
      let header := withChecksum (a.handle.header written.length last) sum
      if accepts header = true ∧ a.Intact then
        .packet { ifType := header.ifType, ifNum := header.ifNum, flags := header.flags,
                  seqNum := header.seqNum, payload := payloadOf header written } rest
      else .again rest := by
  have hWire : a.frame.drop headerSize = written := by
    rw [hFrame, frameBytes_eq hMax, ← headerBytes_length, List.drop_left]
  have hLen : a.payload.length = written.length := by
    have hLength := a.length
    rw [hFrame, frameBytes_eq hMax, List.length_append, headerBytes_length] at hLength
    omega
  have hIntact : a.Intact ↔ a.payload = written := by rw [Arrival.Intact, hWire]
  have hSame : computeChecksum a.payload = computeChecksum written ↔ a.Intact := by
    refine ⟨fun hSum => ?_, fun h => by rw [hIntact.mp h]⟩
    rw [Arrival.Detected, hWire] at hDetected
    exact hDetected.resolve_right (not_not.mpr hSum)
  refine ⟨computeChecksum (headerBytes (a.handle.header written.length last) throttle ++ written),
    ?_⟩
  rw [Arrival.bytes, hFrame, readRound_frame hMax hLen]
  by_cases hArrives : a.Intact
  · simp only [hArrives, hIntact.mp hArrives, and_true]
  · simp only [hSame, hArrives, and_false, if_false]

end Series

/-- A packet has the fields of its handle if the interface fits into the header. -/
theorem packet_eq {b : Handle} (hFits : b.Fits) (len sum : Nat) (last : UInt8)
    {payload : List UInt8} (hPayload : payload = b.payload) :
    let header := withChecksum (b.header len last) sum
    ({ ifType := header.ifType, ifNum := header.ifNum, flags := header.flags,
       seqNum := header.seqNum, payload := payload } : Packet) = b.packet := by
  simp only [withChecksum, Handle.header, Handle.packet, hPayload, Nat.mod_eq_of_lt hFits.1,
    Nat.mod_eq_of_lt hFits.2]

/-! ## From the co-processor to the host -/

theorem hUartWrite_frame {mempool : Bool} (a : Arrival (hUartWrite mempool)) :
    a.frame = frameBytes (a.handle.header a.handle.payload.length 0) a.handle.wifiFlowCtrlEn
      a.handle.payload := by
  have hWritten := a.written
  unfold hUartWrite at hWritten
  split at hWritten
  · cases hWritten
  · split at hWritten
    · cases hWritten
    · exact (Written.frame.inj hWritten).symm

/-- A frame that arrives unchanged is a packet of the host unless it is empty. -/
theorem hUartReadTask_arrival {mempool : Bool} (a : Arrival (hUartWrite mempool))
    (hFits : a.handle.Fits) (hLength : a.handle.payload.length ≤ maxPayloadSize)
    (hDetected : a.Detected) (rest : List UInt8) :
    hUartReadTask (a.bytes ++ rest) =
      match (if a.Intact ∧ (!a.handle.payload.isEmpty) = true then some a.handle.packet
        else none) with
      | some p => .packet p rest
      | none => .again rest := by
  have hMax : a.handle.payload.length + headerSize ≤ maxUartBufferSize := by
    simp only [maxPayloadSize, headerSize, maxUartBufferSize] at hLength ⊢
    omega
  obtain ⟨sum, hRound⟩ := arrival_round isValidUartRxPacket (fun _ payload => payload) a hDetected
    (hUartWrite_frame a) hMax rest
  have hAccepts : isValidUartRxPacket
      (withChecksum (a.handle.header a.handle.payload.length 0) sum) =
        !a.handle.payload.isEmpty := by
    simp only [isValidUartRxPacket, withChecksum, Handle.header, hLength, decide_true,
      Bool.and_true]
    cases a.handle.payload <;> rfl
  rw [hUartReadTask, hRound]
  simp only [hAccepts, packet_eq hFits _ sum 0 rfl, and_comm]
  split <;> rfl

/-! ## From the host to the co-processor -/

/-- A frame that arrives unchanged is a packet of the co-processor. -/
theorem uartRxTask_arrival (a : Arrival hUartWritePacket) (hFits : a.handle.Fits)
    (hDetected : a.Detected) (rest : List UInt8) :
    uartRxTask (a.bytes ++ rest) =
      match (if a.Intact ∧ true = true then some a.handle.packet else none) with
      | some p => .packet p rest
      | none => .again rest := by
  have hWritten := a.written
  unfold hUartWritePacket at hWritten
  split at hWritten
  · cases hWritten
  · split at hWritten
    · cases hWritten
    · rename_i hLong
      have hMax : a.handle.payload.length + headerSize ≤ maxUartBufferSize := by
        simp only [headerSize, maxUartBufferSize] at hLong ⊢
        omega
      split at hWritten
      · rename_i hHci
        split at hWritten
        · cases hWritten
        · rename_i first tail hPayload
          have hLess : tail.length + headerSize ≤ maxUartBufferSize := by
            rw [hPayload, List.length_cons] at hMax
            omega
          obtain ⟨sum, hRound⟩ := arrival_round (fun _ => true) rxPayload a hDetected
            (Written.frame.inj hWritten).symm hLess rest
          have hBytes : rxPayload (withChecksum (a.handle.header tail.length first) sum) tail =
              a.handle.payload := by
            rw [hPayload]
            exact if_pos hHci
          rw [uartRxTask, hRound]
          simp only [packet_eq hFits _ sum first hBytes, true_and, and_true]
          split <;> rfl
      · rename_i hHci
        obtain ⟨sum, hRound⟩ := arrival_round (fun _ => true) rxPayload a hDetected
          (Written.frame.inj hWritten).symm hMax rest
        have hBytes : rxPayload (withChecksum (a.handle.header a.handle.payload.length 0) sum)
            a.handle.payload = a.handle.payload := if_neg hHci
        rw [uartRxTask, hRound]
        simp only [packet_eq hFits _ sum 0 hBytes, true_and, and_true]
        split <;> rfl

/-! ## Both directions -/

/-- What arrives unchanged is delivered in order, with its fields and its payload: of the frames of
the co-processor those that are not empty, of the frames of the host all. -/
theorem framing_delivers {mempool : Bool} {fromSlave : List (Arrival (hUartWrite mempool))}
    {fromHost : List (Arrival hUartWritePacket)}
    (hSlave : ∀ a ∈ fromSlave,
      a.handle.Fits ∧ a.handle.payload.length ≤ maxPayloadSize ∧ a.Detected)
    (hHost : ∀ a ∈ fromHost, a.handle.Fits ∧ a.Detected) (n : Nat) :
    readPackets hUartReadTask (fromSlave.length + n) (stream fromSlave) =
        intact (fromSlave.filter (!·.handle.payload.isEmpty)) ∧
      readPackets uartRxTask (fromHost.length + n) (stream fromHost) = intact fromHost := by
  constructor
  · rw [readPackets_frames rfl (fun a ha rest => hUartReadTask_arrival a (hSlave a ha).1
      (hSlave a ha).2.1 (hSlave a ha).2.2 rest) (Nat.le_add_right _ _)]
    exact filterMap_intact (fun a => !a.handle.payload.isEmpty) fromSlave
  · rw [readPackets_frames rfl (fun a ha rest => uartRxTask_arrival a (hHost a ha).1
      (hHost a ha).2 rest) (Nat.le_add_right _ _)]
    exact (filterMap_intact (fun _ => true) fromHost).trans
      (congrArg intact (List.filter_true fromHost))

/-- A packet of two bytes. -/
def pair (ifType : UInt8) : Handle :=
  { ifType, ifNum := 0, flag := 0, seqNum := 7, wifiFlowCtrlEn := 0, payload := [1, 2],
    length_lt := by decide }

/-- It arrives from the co-processor with other bytes. -/
def pairArrives (payload : List UInt8) (hLen : payload.length = 2) : Arrival (hUartWrite true) :=
  { handle := pair 1, frame := frameBytes ((pair 1).header 2 0) 0 [1, 2], written := rfl, payload,
    length := by rw [hLen]; rfl }

/-- As an HCI packet it arrives unchanged. -/
def hciArrives : Arrival hUartWritePacket :=
  { handle := pair 4, frame := frameBytes ((pair 4).header 1 1) 0 [2], written := rfl,
    payload := [2], length := rfl }

/-- A corrupted packet, the same unchanged, and an HCI packet the other way. -/
theorem framing_delivers_pair :
    readPackets hUartReadTask 2 (stream [pairArrives [1, 3] rfl, pairArrives [1, 2] rfl]) =
        [(pair 1).packet] ∧
      readPackets uartRxTask 1 (stream [hciArrives]) = [(pair 4).packet] := by
  have hFits : ∀ i, i < 16 → (pair i).Fits := fun i hi => ⟨hi, (by decide : (0 : UInt8).toNat < 16)⟩
  have hSlave : ∀ a ∈ [pairArrives [1, 3] rfl, pairArrives [1, 2] rfl],
      a.handle.Fits ∧ a.handle.payload.length ≤ maxPayloadSize ∧ a.Detected := by
    intro a ha
    rcases List.mem_cons.mp ha with rfl | ha
    · exact ⟨hFits 1 (by decide), by decide, .inr (by decide)⟩
    · cases List.mem_singleton.mp ha
      exact ⟨hFits 1 (by decide), by decide, .inl (by decide)⟩
  have hHost : ∀ a ∈ [hciArrives], a.handle.Fits ∧ a.Detected := by
    intro a ha
    cases List.mem_singleton.mp ha
    exact ⟨hFits 4 (by decide), .inl (by decide)⟩
  exact framing_delivers hSlave hHost 0

/-- Two bytes that change places have the checksum that they had. -/
theorem swapped_delivered : ¬ ∀ as : List (Arrival (hUartWrite true)),
    readPackets hUartReadTask as.length (stream as) = intact as := by
  intro h
  exact absurd (h [pairArrives [2, 1] rfl]) (by decide +kernel)

end EspHosted.Uart.Framing
