import EspHosted.Lib.Reads
import EspHosted.Serial.Frame

/-!
# Taking a stream of packets apart

In streaming mode one transfer from the slave holds several packets, and
`sdio_push_data_to_queue` copies them out one after the other. `is_valid_sdio_rx_packet` looks
at the header, and with `H_SDIO_CHECKSUM` at the whole packet, before the size of the packet is
compared with what is left of the transfer. Nothing compares the size of a header with it.

* `queued_packets`: of a stream of accepted packets every packet is queued, in order, that a
  buffer of the pool was left for.
* `Framed`: the transfers in which nothing is cut off that the checks read.
* `parses_iff`: on these transfers and no others all reads stay inside the transfer. The loop
  ends on every transfer.
-/

namespace EspHosted.Sdio.Stream

open Bytes Reads Serial

/-- Options of the build: `H_SDIO_CHECKSUM`, and `LOG_LOCAL_LEVEL` at `ESP_LOG_DEBUG` or more. -/
structure Build where
  checksum : Bool
  hexDump : Bool

/-! ## `is_valid_sdio_rx_packet` -/

/-- `sizeof(struct esp_payload_header)`. -/
def headerLen : Nat := 12

def maxPayloadSize : Nat := Transport.sdio.maxPayloadSize

def flagWakeupPkt : UInt8 := 2

/-- `h->len`. -/
def pktLen (buf : Memory) : Nat := le16 (buf 2) (buf 3)

/-- `h->offset`. -/
def pktOffset (buf : Memory) : Nat := le16 (buf 4) (buf 5)

/-- `h->checksum`. -/
def pktChecksum (buf : Memory) : Nat := le16 (buf 6) (buf 7)

def isWakeupPkt (buf : Memory) : Bool := buf 1 &&& flagWakeupPkt ≠ 0

/-- `h->checksum = 0`. -/
def clearChecksum (buf : Memory) : Memory := fun i => if i = 6 ∨ i = 7 then 0 else buf i

def computeChecksum (buf : Memory) : Nat → Nat
  | 0 => 0
  | i + 1 => (computeChecksum buf i + (buf i).toNat) % 2 ^ 16

/-- A length the driver can hold, and the expected offset. -/
def HeaderOk (buf : Memory) : Prop :=
  pktLen buf ≠ 0 ∧ pktLen buf ≤ maxPayloadSize ∧ pktOffset buf = headerLen

instance (buf : Memory) : Decidable (HeaderOk buf) := inferInstanceAs (Decidable (_ ∧ _))

/-- What the hex dump of a wakeup packet reads. -/
def dumpReads (b : Build) (buf : Memory) : List Range :=
  if b.hexDump ∧ isWakeupPkt buf ∧ pktLen buf < 1500 then
    [⟨pktOffset buf, min (pktLen buf) 128⟩]
  else []

/-- `h->len`, `h->offset`, `h->flags`, and the dump. -/
def headerReads (b : Build) (buf : Memory) : List Range :=
  [⟨2, 2⟩, ⟨4, 2⟩, ⟨1, 1⟩] ++ dumpReads b buf

/-- The outcome of a check: length and offset of an accepted packet, and what was read. -/
structure Check where
  accepted : Option (Nat × Nat)
  buf : Memory
  reads : List Range

def isValidSdioRxPacket (b : Build) (buf : Memory) : Check :=
  let len := pktLen buf
  let offset := pktOffset buf
  if ¬ HeaderOk buf then ⟨none, buf, headerReads b buf⟩
  else if b.checksum then
    let rxChecksum := pktChecksum buf
    let cleared := clearChecksum buf
    let checksum := computeChecksum cleared (len + offset)
    let reads := headerReads b buf ++ [⟨6, 2⟩, ⟨0, len + offset⟩]
    if checksum ≠ rxChecksum then ⟨none, cleared, reads⟩
    else ⟨some (len, offset), cleared, reads⟩
  else ⟨some (len, offset), buf, headerReads b buf⟩

/-! ## `sdio_push_data_to_queue` -/

/-- The transfer from the pointer `buf` on. The pointer is `pos` bytes into the transfer and
`bufLen` bytes are left. `allocs` counts the calls of `sdio_buffer_alloc`. -/
structure Parser where
  buf : Memory
  pos : Nat
  bufLen : Nat
  allocs : Nat
  reads : List Range
  queued : List (List UInt8)

/-- `H_OK` and `H_FAIL`. -/
inductive Status
  | ok
  | fail
  deriving DecidableEq

/-- The call of `is_valid_sdio_rx_packet`. -/
def Parser.check (s : Parser) (b : Build) : Parser :=
  let c := isValidSdioRxPacket b s.buf
  { s with buf := c.buf, reads := s.reads ++ c.reads.map (Range.shift s.pos) }

/-- The call of `sdio_buffer_alloc`. -/
def Parser.alloc (s : Parser) : Parser := { s with allocs := s.allocs + 1 }

/-- `buf_len -= packet_size; buf += packet_size`. -/
def Parser.advance (s : Parser) (packetSize : Nat) : Parser :=
  { s with
    buf := fun i => s.buf (packetSize + i)
    pos := s.pos + packetSize
    bufLen := s.bufLen - packetSize }

/-- `memcpy` of a packet into its own buffer, and `sdio_push_pkt_to_queue`. The queues are
created before the task starts. -/
def Parser.push (s : Parser) (packetSize : Nat) : Parser :=
  { s with
    reads := s.reads ++ [⟨s.pos, packetSize⟩]
    queued := s.queued ++ [(List.range packetSize).map s.buf] }

/-- The body of the loop: `some` status to return, or `none` to go on. `alloc` says which calls
of `sdio_buffer_alloc` find memory. -/
def pushPacket (b : Build) (alloc : Nat → Bool) (s : Parser) : Parser × Option Status :=
  match (isValidSdioRxPacket b s.buf).accepted with
  | none => (s.check b, some .fail)
  | some (len, offset) =>
    let pktRxbuff := alloc s.allocs
    let s := (s.check b).alloc
    let packetSize := len + offset
    if pktRxbuff = false then
      if s.bufLen < packetSize then (s, some .fail) else (s.advance packetSize, none)
    else if s.bufLen < packetSize then (s, some .fail)
    else ((s.push packetSize).advance packetSize, none)

/-- `do … while (buf_len)`, at most `fuel` times. -/
def pushLoop (b : Build) (alloc : Nat → Bool) : Nat → Parser → Option (Parser × Status)
  | 0, _ => none
  | fuel + 1, s =>
    match pushPacket b alloc s with
    | (s, some status) => some (s, status)
    | (s, none) => if s.bufLen = 0 then some (s, .ok) else pushLoop b alloc fuel s

def sdioPushDataToQueue (b : Build) (alloc : Nat → Bool) (bytes : List UInt8) (behind : Memory) :
    Option (Parser × Status) :=
  pushLoop b alloc (bytes.length + 1) ⟨load bytes behind, 0, bytes.length, 0, [], []⟩

/-! ## The transfers that are read inside -/

/-- A packet that is accepted, of the length its header says. -/
def Accepted (b : Build) (packet : List UInt8) : Prop :=
  ∃ len offset, (isValidSdioRxPacket b (load packet fun _ => 0)).accepted = some (len, offset) ∧
    len + offset = packet.length

/-- A packet as its check leaves it. -/
def checkedPacket (b : Build) (packet : List UInt8) : List UInt8 :=
  if b.checksum then (packet.set 6 0).set 7 0 else packet

/-- The packets that a buffer was left for, `k` calls of `sdio_buffer_alloc` being made before. -/
def kept (alloc : Nat → Bool) : Nat → List (List UInt8) → List (List UInt8)
  | _, [] => []
  | k, packet :: packets =>
    if alloc k = false then kept alloc (k + 1) packets
    else packet :: kept alloc (k + 1) packets

/-- The end of a transfer that does not start with an accepted packet. The fields of a header
are there, and so is what the hex dump and the checksum read. -/
structure Tail (b : Build) (tail : List UInt8) : Prop where
  noPacket : ∀ packet rest, tail = packet ++ rest → ¬ Accepted b packet
  fields : 6 ≤ tail.length
  dump : ∀ r ∈ dumpReads b (load tail fun _ => 0), r.Inside tail.length
  checksum : b.checksum → HeaderOk (load tail fun _ => 0) →
    pktLen (load tail fun _ => 0) + headerLen ≤ tail.length

/-- Accepted packets, and a tail if anything is left behind them. -/
inductive Framed (b : Build) : List UInt8 → Prop
  | tail {bytes : List UInt8} : Tail b bytes → Framed b bytes
  | last {packet : List UInt8} : Accepted b packet → Framed b packet
  | packet {packet rest : List UInt8} : Accepted b packet → Framed b rest →
    Framed b (packet ++ rest)

/-- What the parser should do with a transfer: it ends, reads nothing outside, and queues the
packets of a stream in order. -/
def Parses (b : Build) (alloc : Nat → Bool) (bytes : List UInt8) (behind : Memory) : Prop :=
  ∃ s status, sdioPushDataToQueue b alloc bytes behind = some (s, status) ∧
    (∀ r ∈ s.reads, r.Inside bytes.length) ∧
    ∀ packets : List (List UInt8), (∀ packet ∈ packets, Accepted b packet) →
      bytes = packets.flatten → status = .ok ∧
      s.queued = kept alloc 0 (packets.map (checkedPacket b))

/-! ## What a check depends on -/

theorem agree_clearChecksum {n : Nat} {buf buf' : Memory} (h : Agree n buf buf') :
    Agree n (clearChecksum buf) (clearChecksum buf') := by
  intro i hi
  simp only [clearChecksum, h i hi]

theorem pktLen_congr {buf buf' : Memory} (h : Agree 6 buf buf') : pktLen buf = pktLen buf' := by
  simp only [pktLen, h 2 (by decide), h 3 (by decide)]

theorem pktOffset_congr {buf buf' : Memory} (h : Agree 6 buf buf') :
    pktOffset buf = pktOffset buf' := by
  simp only [pktOffset, h 4 (by decide), h 5 (by decide)]

theorem headerOk_congr {buf buf' : Memory} (h : Agree 6 buf buf') :
    HeaderOk buf ↔ HeaderOk buf' := by
  simp only [HeaderOk, pktLen_congr h, pktOffset_congr h]

theorem dumpReads_congr (b : Build) {buf buf' : Memory} (h : Agree 6 buf buf') :
    dumpReads b buf = dumpReads b buf' := by
  have hWakeup : isWakeupPkt buf = isWakeupPkt buf' := by
    unfold isWakeupPkt
    rw [h 1 (by decide)]
  simp only [dumpReads, hWakeup, pktLen_congr h, pktOffset_congr h]

theorem computeChecksum_congr {n : Nat} {buf buf' : Memory} (h : Agree n buf buf') :
    computeChecksum buf n = computeChecksum buf' n := by
  induction n with
  | zero => rfl
  | succ n ih => simp only [computeChecksum, ih (h.mono (by omega)), h n (by omega)]

/-- When a check accepts, and with what. -/
theorem accepted_iff {b : Build} {buf : Memory} {len offset : Nat} :
    (isValidSdioRxPacket b buf).accepted = some (len, offset) ↔
      HeaderOk buf ∧ len = pktLen buf ∧ offset = headerLen ∧
      (b.checksum → computeChecksum (clearChecksum buf) (len + offset) = pktChecksum buf) := by
  unfold isValidSdioRxPacket
  by_cases hOk : HeaderOk buf
  · have hOffset : pktOffset buf = headerLen := hOk.2.2
    simp only [hOk, not_true, if_false, hOffset, true_and]
    by_cases hSum : b.checksum
    · simp only [hSum, if_true, forall_const]
      split
      · rename_i hNe
        constructor
        · nofun
        · rintro ⟨rfl, rfl, hEq⟩
          exact absurd hEq hNe
      · rename_i hEq
        rw [not_ne_iff] at hEq
        constructor
        · intro h
          cases h
          exact ⟨rfl, rfl, hEq⟩
        · rintro ⟨rfl, rfl, -⟩
          rfl
    · simp [hSum, eq_comm]
  · simp [hOk]

theorem accepted_congr {b : Build} {n len offset : Nat} {buf buf' : Memory}
    (h : Agree n buf buf') (hLen : len + offset ≤ n)
    (hAccepted : (isValidSdioRxPacket b buf).accepted = some (len, offset)) :
    (isValidSdioRxPacket b buf').accepted = some (len, offset) := by
  obtain ⟨hOk, rfl, rfl, hSum⟩ := accepted_iff.mp hAccepted
  have hPos := hOk.1
  have hFields : Agree 6 buf buf' := h.mono (by unfold headerLen at hLen; omega)
  have hChecksum : pktChecksum buf = pktChecksum buf' := by
    unfold headerLen at hLen
    simp only [pktChecksum, h 6 (by omega), h 7 (by omega)]
  refine accepted_iff.mpr
    ⟨(headerOk_congr hFields).mp hOk, pktLen_congr hFields, rfl, fun hBuild => ?_⟩
  rw [← computeChecksum_congr ((agree_clearChecksum h).mono hLen), hSum hBuild, hChecksum]

/-- The buffer after a check. -/
theorem check_buf {b : Build} {buf : Memory} (hOk : HeaderOk buf) :
    (isValidSdioRxPacket b buf).buf = if b.checksum then clearChecksum buf else buf := by
  unfold isValidSdioRxPacket
  simp only [hOk, not_true, if_false]
  split
  · split <;> rfl
  · rfl

/-- What a check reads. -/
theorem check_reads (b : Build) (buf : Memory) :
    (isValidSdioRxPacket b buf).reads =
      headerReads b buf ++
        if HeaderOk buf ∧ b.checksum then [⟨6, 2⟩, ⟨0, pktLen buf + headerLen⟩] else [] := by
  unfold isValidSdioRxPacket
  by_cases hOk : HeaderOk buf
  · have hOffset : pktOffset buf = headerLen := hOk.2.2
    by_cases hSum : b.checksum
    · simp only [hOk, hSum, not_true, if_false, if_true, hOffset, and_self]
      split <;> rfl
    · simp [hOk, hSum]
  · simp [hOk]

/-! ## Transfers in memory -/

theorem clearChecksum_load {packet : List UInt8} (rest : List UInt8) (behind : Memory)
    (hLen : headerLen ≤ packet.length) :
    clearChecksum (load (packet ++ rest) behind) =
      load ((packet.set 6 0).set 7 0 ++ rest) behind := by
  unfold headerLen at hLen
  funext i
  by_cases hi : i < packet.length
  · have hLt : i < packet.length + rest.length := by omega
    by_cases h7 : i = 7
    · subst h7
      simp [clearChecksum, load, hi, hLt]
    · by_cases h6 : i = 6
      · subst h6
        simp [clearChecksum, load, hi, hLt]
      · simp [clearChecksum, load, hi, hLt, h6, h7, Ne.symm h6, Ne.symm h7]
  · have h6 : i ≠ 6 := by omega
    have h7 : i ≠ 7 := by omega
    simp [clearChecksum, load, h6, h7, List.getElem_append, hi]

/-! ## An accepted packet -/

theorem Accepted.len {b : Build} {packet : List UInt8} (h : Accepted b packet)
    (rest : List UInt8) (behind : Memory) :
    HeaderOk (load (packet ++ rest) behind) ∧
      pktLen (load (packet ++ rest) behind) + headerLen = packet.length := by
  obtain ⟨len, offset, hAccepted, hLen⟩ := h
  obtain ⟨hOk, rfl, rfl, -⟩ := accepted_iff.mp hAccepted
  have hAgree : Agree 6 (load (packet ++ rest) behind) (load packet fun _ => 0) :=
    (load_append_agree packet rest behind _).mono (by unfold headerLen at hLen; omega)
  exact ⟨(headerOk_congr hAgree).mpr hOk, by rw [pktLen_congr hAgree, hLen]⟩

theorem Accepted.headerLen_le {b : Build} {packet : List UInt8} (h : Accepted b packet) :
    headerLen < packet.length := by
  obtain ⟨hOk, hLen⟩ := h.len [] fun _ => 0
  have hPos := hOk.1
  omega

/-- A packet that is checked inside a transfer is accepted as it would be on its own. -/
theorem accepted_append_iff {b : Build} {packet : List UInt8} (rest : List UInt8)
    (behind : Memory) : Accepted b packet ↔ ∃ len offset,
      (isValidSdioRxPacket b (load (packet ++ rest) behind)).accepted = some (len, offset) ∧
      len + offset = packet.length := by
  have hAgree := load_append_agree packet rest behind fun _ => 0
  constructor
  · rintro ⟨len, offset, hAccepted, hLen⟩
    exact ⟨len, offset, accepted_congr hAgree.symm (by omega) hAccepted, hLen⟩
  · rintro ⟨len, offset, hAccepted, hLen⟩
    exact ⟨len, offset, accepted_congr hAgree (by omega) hAccepted, hLen⟩

/-- Two accepted packets at the same place are the same. -/
theorem accepted_unique {b : Build} {packet packet' rest rest' : List UInt8}
    (h : Accepted b packet) (h' : Accepted b packet')
    (hEq : packet ++ rest = packet' ++ rest') : packet = packet' ∧ rest = rest' := by
  have hLen := (h.len rest fun _ => 0).2
  have hLen' := (h'.len rest' fun _ => 0).2
  rw [hEq] at hLen
  exact List.append_inj hEq (by omega)

@[simp] theorem length_checkedPacket (b : Build) (packet : List UInt8) :
    (checkedPacket b packet).length = packet.length := by
  unfold checkedPacket
  split
  · simp
  · rfl

theorem Accepted.check_buf {b : Build} {packet : List UInt8} (h : Accepted b packet)
    (rest : List UInt8) (behind : Memory) :
    (isValidSdioRxPacket b (load (packet ++ rest) behind)).buf =
      load (checkedPacket b packet ++ rest) behind := by
  rw [Stream.check_buf (h.len rest behind).1]
  unfold checkedPacket
  split
  · exact clearChecksum_load rest behind (Nat.le_of_lt h.headerLen_le)
  · rfl

theorem mem_dumpReads {b : Build} {buf : Memory} {r : Range} (hMem : r ∈ dumpReads b buf) :
    r = ⟨pktOffset buf, min (pktLen buf) 128⟩ := by
  unfold dumpReads at hMem
  split at hMem
  · exact List.mem_singleton.mp hMem
  · cases hMem

/-- The check of an accepted packet reads nothing behind it. -/
theorem Accepted.reads_inside {b : Build} {packet : List UInt8} (h : Accepted b packet)
    (rest : List UInt8) (behind : Memory) :
    ∀ r ∈ (isValidSdioRxPacket b (load (packet ++ rest) behind)).reads,
      r.Inside packet.length := by
  obtain ⟨hOk, hLen⟩ := h.len rest behind
  have hLt := h.headerLen_le
  have hOffset := hOk.2.2
  unfold headerLen at hLt hLen hOffset
  intro r hMem hNe
  rw [check_reads, List.mem_append, headerReads, List.mem_append] at hMem
  rcases hMem with (hMem | hMem) | hMem
  · simp only [List.mem_cons, List.not_mem_nil, or_false] at hMem
    rcases hMem with rfl | rfl | rfl <;> simp only <;> omega
  · rw [mem_dumpReads hMem]
    simp only
    omega
  · split at hMem
    · simp only [List.mem_cons, List.not_mem_nil, or_false, headerLen] at hMem
      rcases hMem with rfl | rfl <;> simp only <;> omega
    · cases hMem

/-! ## One round of the loop -/

/-- An accepted packet is taken out of the transfer, and all reads are inside. -/
theorem pushPacket_accepted {b : Build} (alloc : Nat → Bool) {s : Parser}
    {packet rest : List UInt8} {behind : Memory} (h : Accepted b packet)
    (hBuf : s.buf = load (packet ++ rest) behind) (hLeft : s.bufLen = (packet ++ rest).length) :
    ∃ s', pushPacket b alloc s = (s', none) ∧ s'.buf = load rest behind ∧
      s'.pos = s.pos + packet.length ∧ s'.bufLen = rest.length ∧ s'.allocs = s.allocs + 1 ∧
      s'.queued = s.queued ++ (if alloc s.allocs = false then [] else [checkedPacket b packet]) ∧
      ∃ new, s'.reads = s.reads ++ new ∧
        ∀ r ∈ new, r.Inside (s.pos + (packet ++ rest).length) := by
  obtain ⟨len, offset, hAccepted, hLen⟩ := (accepted_append_iff rest behind).mp h
  rw [← hBuf] at hAccepted
  have hFits : ¬ s.bufLen < packet.length := by
    rw [hLeft, List.length_append]
    omega
  have hRest : s.bufLen - packet.length = rest.length := by
    rw [hLeft, List.length_append]
    omega
  have hDrop := load_append_drop (checkedPacket b packet) rest behind
  have hCopy := range_map_load (checkedPacket b packet) rest behind
  rw [length_checkedPacket] at hDrop hCopy
  have hCheck : ∀ r ∈ (isValidSdioRxPacket b s.buf).reads.map (Range.shift s.pos),
      r.Inside (s.pos + (packet ++ rest).length) := by
    rintro r hMem hNe
    obtain ⟨r', hMem', rfl⟩ := List.mem_map.mp hMem
    rw [hBuf] at hMem'
    have hLe := inside_shift.mpr (h.reads_inside rest behind r' hMem') hNe
    rw [List.length_append]
    omega
  by_cases hAlloc : alloc s.allocs = false
  · refine ⟨(s.check b).alloc.advance packet.length, ?_, ?_, rfl, hRest, rfl, ?_, _, rfl, hCheck⟩
    · simp only [pushPacket, hAccepted, hAlloc, if_true, hLen]
      exact if_neg hFits
    · simp only [Parser.advance, Parser.alloc, Parser.check, hBuf, h.check_buf, hDrop]
    · simp [Parser.advance, Parser.alloc, Parser.check, hAlloc]
  · refine ⟨((s.check b).alloc.push packet.length).advance packet.length, ?_, ?_, rfl, hRest, rfl,
      ?_, (isValidSdioRxPacket b s.buf).reads.map (Range.shift s.pos) ++ [⟨s.pos, packet.length⟩],
      ?_, ?_⟩
    · simp only [pushPacket, hAccepted, hAlloc, hLen]
      exact if_neg hFits
    · simp only [Parser.advance, Parser.push, Parser.alloc, Parser.check, hBuf, h.check_buf, hDrop]
    · simp [Parser.advance, Parser.push, Parser.alloc, Parser.check, hBuf, h.check_buf, hCopy,
        hAlloc]
    · exact List.append_assoc _ _ _
    · intro r hMem
      rcases List.mem_append.mp hMem with hMem | hMem
      · exact hCheck r hMem
      · rw [List.mem_singleton.mp hMem]
        intro _
        simp only [List.length_append]
        omega

/-- The check of what is not an accepted packet reads inside if it is a tail. -/
theorem reads_inside_iff {b : Build} {bytes : List UInt8} (behind : Memory)
    (hNone : ∀ packet rest, bytes = packet ++ rest → ¬ Accepted b packet) :
    (∀ r ∈ (isValidSdioRxPacket b (load bytes behind)).reads, r.Inside bytes.length) ↔
      Tail b bytes := by
  have hFields : 6 ≤ bytes.length → Agree 6 (load bytes behind) (load bytes fun _ => 0) :=
    (load_agree bytes behind _).mono
  rw [check_reads]
  constructor
  · intro h
    have hSix : 6 ≤ bytes.length := h ⟨4, 2⟩ (by simp [headerReads]) (by simp)
    refine ⟨hNone, hSix, fun r hMem => ?_, fun hSum hOk => ?_⟩
    · refine h r (List.mem_append_left _ (List.mem_append_right _ ?_))
      rwa [dumpReads_congr b (hFields hSix)]
    · rw [← headerOk_congr (hFields hSix)] at hOk
      rw [← pktLen_congr (hFields hSix)]
      have hRead := h ⟨0, pktLen (load bytes behind) + headerLen⟩ (by simp [hOk, hSum])
        (by simp [headerLen])
      simpa using hRead
  · intro h r hMem hNe
    have hSix := h.fields
    rw [List.mem_append, headerReads, List.mem_append] at hMem
    rcases hMem with (hMem | hMem) | hMem
    · simp only [List.mem_cons, List.not_mem_nil, or_false] at hMem
      rcases hMem with rfl | rfl | rfl <;> simp only <;> omega
    · rw [dumpReads_congr b (hFields hSix)] at hMem
      exact h.dump r hMem hNe
    · split at hMem
      · rename_i hOk
        have hLen := h.checksum hOk.2 ((headerOk_congr (hFields hSix)).mp hOk.1)
        rw [← pktLen_congr (hFields hSix)] at hLen
        simp only [List.mem_cons, List.not_mem_nil, or_false] at hMem
        unfold headerLen at hMem hLen
        have hPos := hOk.1.1
        rcases hMem with rfl | rfl <;> simp only <;> omega
      · cases hMem

/-- Anything else ends the loop, and the reads are inside if it is a tail. -/
theorem pushPacket_tail {b : Build} (alloc : Nat → Bool) {s : Parser} {bytes : List UInt8}
    {behind : Memory} (hNone : ∀ packet rest, bytes = packet ++ rest → ¬ Accepted b packet)
    (hBuf : s.buf = load bytes behind) (hLeft : s.bufLen = bytes.length) :
    ∃ s' new, pushPacket b alloc s = (s', some .fail) ∧ s'.reads = s.reads ++ new ∧
      ((∀ r ∈ new, r.Inside (s.pos + bytes.length)) ↔ Tail b bytes) := by
  have hReads : (∀ r ∈ (isValidSdioRxPacket b s.buf).reads.map (Range.shift s.pos),
      r.Inside (s.pos + bytes.length)) ↔ Tail b bytes := by
    rw [← reads_inside_iff behind hNone, hBuf, List.forall_mem_map]
    simp only [inside_shift]
  cases hAccepted : (isValidSdioRxPacket b s.buf).accepted with
  | none =>
    exact ⟨s.check b, _, by simp only [pushPacket, hAccepted], rfl, hReads⟩
  | some found =>
    obtain ⟨len, offset⟩ := found
    have hCut : s.bufLen < len + offset := by
      by_contra hFits
      refine hNone (bytes.take (len + offset)) (bytes.drop (len + offset))
        (List.take_append_drop _ _).symm
        ((accepted_append_iff (bytes.drop (len + offset)) behind).mpr ⟨len, offset, ?_, ?_⟩)
      · rwa [List.take_append_drop, ← hBuf]
      · rw [List.length_take]
        omega
    refine ⟨(s.check b).alloc, _, ?_, rfl, hReads⟩
    simp only [pushPacket, hAccepted]
    split
    · exact if_pos hCut
    · exact if_pos hCut

/-! ## The whole transfer -/

/-- A transfer is framed as it is behind its first packet. -/
theorem framed_append_iff {b : Build} {packet rest : List UInt8} (h : Accepted b packet) :
    Framed b (packet ++ rest) ↔ rest = [] ∨ Framed b rest := by
  constructor
  · intro hFramed
    generalize hEq : packet ++ rest = bytes at hFramed
    cases hFramed with
    | tail hTail => exact absurd h (hTail.noPacket packet rest hEq.symm)
    | last hLast => exact .inl (accepted_unique h hLast (hEq.trans (List.append_nil _).symm)).2
    | packet hFirst hRest =>
      obtain ⟨-, rfl⟩ := accepted_unique h hFirst hEq
      exact .inr hRest
  · rintro (rfl | hRest)
    · rw [List.append_nil]
      exact .last h
    · exact .packet h hRest

theorem framed_tail_iff {b : Build} {bytes : List UInt8}
    (hNone : ∀ packet rest, bytes = packet ++ rest → ¬ Accepted b packet) :
    Framed b bytes ↔ Tail b bytes := by
  constructor
  · intro hFramed
    cases hFramed with
    | tail hTail => exact hTail
    | last hLast => exact absurd hLast (hNone _ [] (List.append_nil _).symm)
    | packet hFirst hRest => exact absurd hFirst (hNone _ _ rfl)
  · exact .tail

theorem not_framed_nil {b : Build} : ¬ Framed b [] := by
  intro hFramed
  generalize hEq : ([] : List UInt8) = bytes at hFramed
  cases hFramed with
  | tail hTail =>
    subst hEq
    exact absurd hTail.fields (by decide)
  | last hLast =>
    subst hEq
    exact absurd hLast.headerLen_le (Nat.not_lt_zero _)
  | packet hFirst _ =>
    rw [(List.append_eq_nil_iff.mp hEq.symm).1] at hFirst
    exact absurd hFirst.headerLen_le (Nat.not_lt_zero _)

/-- A run of the loop, by induction on its rounds: it ends, it reads inside on framed transfers
and no others, and it queues what is a stream of packets. -/
theorem pushLoop_spec (b : Build) (alloc : Nat → Bool) (behind : Memory) {fuel : Nat} :
    ∀ {bytes : List UInt8} {s : Parser}, bytes.length < fuel → s.buf = load bytes behind →
      s.bufLen = bytes.length →
      ∃ s' status new, pushLoop b alloc fuel s = some (s', status) ∧ s'.reads = s.reads ++ new ∧
        ((∀ r ∈ new, r.Inside (s.pos + bytes.length)) ↔ Framed b bytes) ∧
        ∀ packets : List (List UInt8), packets ≠ [] → (∀ packet ∈ packets, Accepted b packet) →
          bytes = packets.flatten → status = .ok ∧
          s'.queued = s.queued ++ kept alloc s.allocs (packets.map (checkedPacket b)) := by
  induction fuel with
  | zero =>
    intro bytes s hFuel
    omega
  | succ fuel ih =>
    intro bytes s hFuel hBuf hLeft
    by_cases hFirst : ∃ packet rest, bytes = packet ++ rest ∧ Accepted b packet
    · obtain ⟨packet, rest, rfl, hPacket⟩ := hFirst
      obtain ⟨s₁, hPush, hBuf₁, hPos₁, hLeft₁, hAllocs₁, hQueued₁, new₁, hReads₁, hInside₁⟩ :=
        pushPacket_accepted alloc hPacket hBuf hLeft
      have hPos := hPacket.headerLen_le
      rw [List.length_append] at hFuel
      simp only [pushLoop, hPush]
      -- the packets of a stream start with the packet that was found
      have hHead : ∀ packets : List (List UInt8), packets ≠ [] →
          (∀ packet ∈ packets, Accepted b packet) → packet ++ rest = packets.flatten →
          ∃ others, packets = packet :: others ∧ rest = others.flatten := by
        intro packets hSome hAll hEq
        obtain ⟨first, others, rfl⟩ := List.exists_cons_of_ne_nil hSome
        obtain ⟨rfl, hRest⟩ := accepted_unique hPacket (hAll first List.mem_cons_self) hEq
        exact ⟨others, rfl, hRest⟩
      by_cases hRest : rest = []
      · subst hRest
        refine ⟨s₁, .ok, new₁, if_pos hLeft₁, hReads₁, ?_, ?_⟩
        · exact iff_of_true hInside₁ ((framed_append_iff hPacket).mpr (.inl rfl))
        · intro packets hSome hAll hEq
          obtain ⟨others, rfl, hOthers⟩ := hHead packets hSome hAll hEq
          have hNil : others = [] := by
            refine List.eq_nil_iff_forall_not_mem.mpr fun other hMem => ?_
            have hEmpty := List.flatten_eq_nil_iff.mp hOthers.symm other hMem
            have hLong := (hAll other (List.mem_cons_of_mem _ hMem)).headerLen_le
            rw [hEmpty] at hLong
            exact absurd hLong (Nat.not_lt_zero _)
          subst hNil
          refine ⟨rfl, ?_⟩
          rw [hQueued₁]
          simp only [List.map_cons, List.map_nil, kept]
      · have hLong := List.length_pos_iff.mpr hRest
        obtain ⟨s', status, new, hLoop, hReads, hInside, hQueued⟩ :=
          ih (show rest.length < fuel by omega) hBuf₁ hLeft₁
        have hEnd : s₁.pos + rest.length = s.pos + (packet ++ rest).length := by
          rw [hPos₁, List.length_append]
          omega
        refine ⟨s', status, new₁ ++ new, ?_, ?_, ?_, ?_⟩
        · rw [if_neg (by omega), hLoop]
        · rw [hReads, hReads₁, List.append_assoc]
        · rw [List.forall_mem_append, framed_append_iff hPacket, ← hEnd, hInside]
          rw [← hEnd] at hInside₁
          simp only [hRest, false_or, and_iff_right_iff_imp]
          exact fun _ => hInside₁
        · intro packets hSome hAll hEq
          obtain ⟨others, rfl, hOthers⟩ := hHead packets hSome hAll hEq
          have hSome' : others ≠ [] := by
            rintro rfl
            exact hRest hOthers
          obtain ⟨hOk, hAppend⟩ :=
            hQueued others hSome' (fun p hMem => hAll p (List.mem_cons_of_mem _ hMem)) hOthers
          refine ⟨hOk, ?_⟩
          rw [hAppend, hQueued₁, hAllocs₁, List.map_cons, kept, List.append_assoc]
          split <;> rfl
    · have hNone : ∀ packet rest, bytes = packet ++ rest → ¬ Accepted b packet :=
        fun packet rest hEq hPacket => hFirst ⟨packet, rest, hEq, hPacket⟩
      obtain ⟨s', new, hPush, hReads, hInside⟩ := pushPacket_tail alloc hNone hBuf hLeft
      refine ⟨s', .fail, new, ?_, hReads, ?_, ?_⟩
      · simp only [pushLoop, hPush]
      · rw [hInside, framed_tail_iff hNone]
      · intro packets hSome hAll hEq
        obtain ⟨packet, packets, rfl⟩ := List.exists_cons_of_ne_nil hSome
        exact absurd (hAll packet List.mem_cons_self) (hNone packet packets.flatten hEq)

theorem sdioPushDataToQueue_spec (b : Build) (alloc : Nat → Bool) (bytes : List UInt8)
    (behind : Memory) :
    ∃ s status, sdioPushDataToQueue b alloc bytes behind = some (s, status) ∧
      ((∀ r ∈ s.reads, r.Inside bytes.length) ↔ Framed b bytes) ∧
      ∀ packets : List (List UInt8), packets ≠ [] → (∀ packet ∈ packets, Accepted b packet) →
        bytes = packets.flatten → status = .ok ∧
        s.queued = kept alloc 0 (packets.map (checkedPacket b)) := by
  obtain ⟨s, status, new, hRun, hReads, hInside, hQueued⟩ :=
    pushLoop_spec b alloc behind (Nat.lt_succ_self bytes.length)
      (s := ⟨load bytes behind, 0, bytes.length, 0, [], []⟩) rfl rfl
  rw [Nat.zero_add] at hInside
  rw [List.nil_append] at hReads
  exact ⟨s, status, hRun, by rw [hReads, hInside], hQueued⟩

/-- A stream of accepted packets is queued in order. -/
theorem queued_packets {b : Build} {alloc : Nat → Bool} {packets : List (List UInt8)}
    {behind : Memory} (hSome : packets ≠ []) (hAll : ∀ packet ∈ packets, Accepted b packet) :
    ∃ s, sdioPushDataToQueue b alloc packets.flatten behind = some (s, .ok) ∧
      s.queued = kept alloc 0 (packets.map (checkedPacket b)) := by
  obtain ⟨s, status, hRun, -, hQueued⟩ :=
    sdioPushDataToQueue_spec b alloc packets.flatten behind
  obtain ⟨rfl, hKept⟩ := hQueued packets hSome hAll rfl
  exact ⟨s, hRun, hKept⟩

theorem framed_flatten {b : Build} {packets : List (List UInt8)} (hSome : packets ≠ [])
    (hAll : ∀ packet ∈ packets, Accepted b packet) : Framed b packets.flatten := by
  induction packets with
  | nil => exact absurd rfl hSome
  | cons packet packets ih =>
    refine (framed_append_iff (hAll packet List.mem_cons_self)).mpr ?_
    by_cases hRest : packets = []
    · exact .inl (by rw [hRest, List.flatten_nil])
    · exact .inr (ih hRest fun p hMem => hAll p (List.mem_cons_of_mem _ hMem))

/-- The parser does what it should on framed transfers, among them all streams of packets, and
on no others. -/
theorem parses_iff (b : Build) (alloc : Nat → Bool) (bytes : List UInt8) (behind : Memory) :
    (Parses b alloc bytes behind ↔ Framed b bytes) ∧
      ∀ packets : List (List UInt8), packets ≠ [] → (∀ packet ∈ packets, Accepted b packet) →
        Framed b packets.flatten := by
  obtain ⟨s, status, hRun, hInside, hQueued⟩ := sdioPushDataToQueue_spec b alloc bytes behind
  refine ⟨⟨?_, fun hFramed => ?_⟩, fun packets => framed_flatten⟩
  · rintro ⟨s', status', hRun', hReads, -⟩
    rw [hRun] at hRun'
    cases hRun'
    exact hInside.mp hReads
  · refine ⟨s, status, hRun, hInside.mpr hFramed, fun packets hAll hEq => ?_⟩
    refine hQueued packets ?_ hAll hEq
    rintro rfl
    rw [hEq] at hFramed
    exact not_framed_nil hFramed

/-- A packet of one byte, and three bytes behind it. -/
def cutStream : List UInt8 := [3, 0, 1, 0, 12, 0, 0, 0, 0, 0, 0, 0, 7, 3, 0, 1]

theorem not_parses : ¬ ∀ b alloc bytes behind, Parses b alloc bytes behind := by
  intro h
  obtain ⟨s, status, hRun, hReads, -⟩ :=
    h ⟨false, false⟩ (fun _ => true) cutStream fun _ => 0
  have hMem : (sdioPushDataToQueue ⟨false, false⟩ (fun _ => true) cutStream fun _ => 0).map
      (fun r => decide (⟨15, 2⟩ ∈ r.1.reads)) = some true := by decide +kernel
  rw [hRun] at hMem
  simp only [Option.map_some, Option.some.injEq, decide_eq_true_eq] at hMem
  exact absurd (hReads ⟨15, 2⟩ hMem (by decide)) (by decide)

end EspHosted.Sdio.Stream
