import Mathlib.Logic.Function.Basic
import EspHosted.Lib.Machine

/-!
# Double buffering of the SDIO receive path

`sdio_read_task` reads a transfer of the slave into one half of `double_buf` while
`sdio_data_to_rx_buf_task` passes the previous transfer, in the other half, to
`sdio_push_data_to_queue`. The halves are exchanged through `read_index`, `read_data_len`,
`write_index` and a binary semaphore. There is no lock around them, so both tasks take one
action per access; the parser may stay in `sdio_push_data_to_queue` for any time, because
the queue behind it may be full.

* `step_inv`: the invariant, by the places of the two tasks;
* `HandoverInv.owned_ne_parsed`: the half being parsed is never the one that is allocated, filled or
  freed;
* `handover_exact`: the transfers that find the parser idle are pushed once each, in order
  and whole;
* `not_pushed_eq_counted`: a transfer that finds the parser busy is dropped, although it
  was read and counted.
-/

namespace EspHosted.Sdio.DoubleBuffer

open Machine

def espRxByteMax : Nat := 0x100000
def espSlaveLenMask : Nat := 0xFFFFF
def espRxBufferSize : Nat := 1536
def espBlockSize : Nat := 512

/-- `MAX_SDIO_BUFFER_SIZE`, which is also `H_MAX_TRANSPORT_BUFFER_SIZE` on SDIO. -/
def maxSdioBufferSize : Nat := 1536

/-- `H_SDIO_HOST_RX_MODE`. -/
inductive RxMode
  | streaming
  | packet
  | maxTransportSize
  deriving DecidableEq

/-- The build: receive mode and `H_SDIO_RX_BLOCK_ONLY_XFER`. -/
structure Config where
  mode : RxMode
  blockOnly : Bool

/-- Index of a half of `double_buf`. -/
abbrev Half := Fin 2

/-- `buf_info_t`. The memory behind `buf` is `bytes`, empty for a NULL pointer. -/
structure BufInfo where
  bytes : List UInt8
  bufSize : Nat

/-- The data of one slave transfer and the length it has for the driver. -/
structure Transfer where
  bytes : List UInt8
  len : Nat

/-- Where `sdio_read_task` is. From `reading` on, `half` is the half of its `rxbuff`; a
transfer that was read is remembered with it. The places after `checking` are those inside
the branch that hands the half over. -/
inductive ReadPc
  | idle
  | sized (len : Nat)
  | reading (half : Half) (len : Nat)
  | counting (half : Half) (len : Nat) (read : Option Transfer)
  | checking (half : Half) (len : Nat) (read : Transfer)
  | handing (len : Nat) (read : Transfer)
  | indexSet (len : Nat) (read : Transfer)
  | lenSet (read : Transfer)
  | toggled (read : Transfer)

/-- Where `sdio_data_to_rx_buf_task` is. -/
inductive RxBufPc
  | waiting
  | taken
  | parsing (half : Half) (len : Nat)
  | pushed

/-- The shared variables, the two tasks, and three logs: the transfers that were read and
counted; the same once `read_index` was looked at for them, each with whether it was
negative; the calls of `sdio_push_data_to_queue`. -/
structure State where
  buffer : Half → BufInfo
  readIndex : Option Half
  readDataLen : Nat
  writeIndex : Half
  sem : Nat
  sdioRxByteCount : Nat
  readPc : ReadPc
  rxBufPc : RxBufPc
  counted : List Transfer
  completed : List (Transfer × Bool)
  pushed : List Transfer

inductive Action
  | newPacket (packetLen : Nat)
  | getBuffer
  | readBlock (bytes : List UInt8)
  | readBlockFailed (bytes : List UInt8)
  | addByteCount
  | checkReadIndex
  | setReadIndex
  | setReadDataLen
  | toggleWriteIndex
  | giveSem
  | takeSem
  | checkIndex
  | pushData
  | resetReadIndex

/-- `double_buf` after `bus_init_internal`, both tasks started. -/
def init : State :=
  { buffer := fun _ => ⟨[], 0⟩, readIndex := none, readDataLen := 0, writeIndex := 0, sem := 0,
    sdioRxByteCount := 0, readPc := .idle, rxBufPc := .waiting, counted := [],
    completed := [], pushed := [] }

/-! ## The functions of the driver -/

/-- `sdio_get_len_from_slave`; `none` is `H_FAIL`. -/
def sdioGetLenFromSlave (mode : RxMode) (sdioRxByteCount regVal : Nat) : Option Nat :=
  let len := regVal &&& espSlaveLenMask
  let len :=
    if sdioRxByteCount ≤ len then (len + espRxByteMax - sdioRxByteCount) % espRxByteMax
    else espRxByteMax - sdioRxByteCount + len
  if mode ≠ .streaming ∧ espRxBufferSize < len then none else some len

/-- Bytes on the bus for a transfer of `len` bytes. -/
def Config.xferLen (c : Config) (len : Nat) : Nat :=
  if c.blockOnly then (len + espBlockSize - 1) / espBlockSize * espBlockSize else len

/-- `sdio_rx_get_buffer` on the half at `write_index`: a static buffer that grows when
streaming, a new block of the memory pool otherwise. The task asserts that it gets one. -/
def sdioRxGetBuffer (c : Config) (b : BufInfo) (len : Nat) : BufInfo :=
  match c.mode with
  | .streaming =>
    if b.bufSize < c.xferLen len then ⟨List.replicate (c.xferLen len) 0, c.xferLen len⟩ else b
  | .packet | .maxTransportSize => ⟨List.replicate maxSdioBufferSize 0, len⟩

/-- Data that the bus writes at the start of a buffer. -/
def writeFront (data mem : List UInt8) : List UInt8 := data ++ mem.drop data.length

/-- `sdio_rx_free_buffer`: nothing when streaming, otherwise the block goes back to the
memory pool. -/
def sdioRxFreeBuffer (c : Config) (b : BufInfo) : BufInfo :=
  match c.mode with
  | .streaming => b
  | .packet | .maxTransportSize => { b with bytes := [] }

def State.setBuffer (s : State) (half : Half) (b : BufInfo) : State :=
  { s with buffer := Function.update s.buffer half b }

/-! ### `sdio_read_task` -/

/-- The interrupt of a new packet, up to its length. -/
def newPacket (c : Config) (s : State) (packetLen : Nat) : Option State :=
  match s.readPc with
  | .idle =>
    if c.mode = .maxTransportSize then some { s with readPc := .sized maxSdioBufferSize }
    else
      match sdioGetLenFromSlave c.mode s.sdioRxByteCount packetLen with
      | none | some 0 => some s
      | some len => some { s with readPc := .sized len }
  | _ => none

def getBuffer (c : Config) (s : State) : Option State :=
  match s.readPc with
  | .sized len =>
    some { s.setBuffer s.writeIndex (sdioRxGetBuffer c (s.buffer s.writeIndex) len) with
      readPc := .reading s.writeIndex len }
  | _ => none

/-- `h_sdio_read_block` that succeeds. The bus delivers whole blocks when so configured. -/
def readBlock (c : Config) (s : State) (bytes : List UInt8) : Option State :=
  match s.readPc with
  | .reading half len =>
    if bytes.length = c.xferLen len then
      let b := s.buffer half
      some { s.setBuffer half { b with bytes := writeFront bytes b.bytes } with
        readPc := .counting half len (some ⟨bytes.take len, len⟩) }
    else none
  | _ => none

/-- `h_sdio_read_block` that fails after writing some of the data. -/
def readBlockFailed (c : Config) (s : State) (bytes : List UInt8) : Option State :=
  match s.readPc with
  | .reading half len =>
    if bytes.length ≤ c.xferLen len then
      let b := s.buffer half
      some { s.setBuffer half
          (sdioRxFreeBuffer c { b with bytes := writeFront bytes b.bytes }) with
        readPc := .counting half len none }
    else none
  | _ => none

/-- The transfer is counted whether or not it was read. -/
def addByteCount (s : State) : Option State :=
  match s.readPc with
  | .counting half len read =>
    some { s with
      sdioRxByteCount := (s.sdioRxByteCount + len) % espRxByteMax
      counted := s.counted ++ read.toList
      readPc := match read with
        | none => .idle
        | some t => .checking half len t }
  | _ => none

def checkReadIndex (c : Config) (s : State) : Option State :=
  match s.readPc with
  | .checking half len t =>
    match s.readIndex with
    | none => some { s with completed := s.completed ++ [(t, true)], readPc := .handing len t }
    | some _ =>
      some { s.setBuffer half (sdioRxFreeBuffer c (s.buffer half)) with
        completed := s.completed ++ [(t, false)], readPc := .idle }
  | _ => none

def setReadIndex (s : State) : Option State :=
  match s.readPc with
  | .handing len t => some { s with readIndex := some s.writeIndex, readPc := .indexSet len t }
  | _ => none

def setReadDataLen (s : State) : Option State :=
  match s.readPc with
  | .indexSet len t => some { s with readDataLen := len, readPc := .lenSet t }
  | _ => none

def toggleWriteIndex (s : State) : Option State :=
  match s.readPc with
  | .lenSet t =>
    some { s with writeIndex := if s.writeIndex ≠ 0 then 0 else 1, readPc := .toggled t }
  | _ => none

def giveSem (s : State) : Option State :=
  match s.readPc with
  | .toggled _ => some { s with sem := 1, readPc := .idle }
  | _ => none

/-! ### `sdio_data_to_rx_buf_task` -/

def takeSem (s : State) : Option State :=
  match s.rxBufPc with
  | .waiting => if s.sem = 1 then some { s with sem := 0, rxBufPc := .taken } else none
  | _ => none

def checkIndex (s : State) : Option State :=
  match s.rxBufPc with
  | .taken =>
    match s.readIndex with
    | none => some { s with rxBufPc := .waiting }
    | some half => some { s with rxBufPc := .parsing half s.readDataLen }
  | _ => none

/-- The call of `sdio_push_data_to_queue`. -/
def pushData (s : State) : Option State :=
  match s.rxBufPc with
  | .parsing half len =>
    some { s with
      pushed := s.pushed ++ [⟨(s.buffer half).bytes.take len, len⟩], rxBufPc := .pushed }
  | _ => none

def resetReadIndex (s : State) : Option State :=
  match s.rxBufPc with
  | .pushed => some { s with readIndex := none, rxBufPc := .waiting }
  | _ => none

def step (c : Config) (s : State) : Action → Option State
  | .newPacket packetLen => newPacket c s packetLen
  | .getBuffer => getBuffer c s
  | .readBlock bytes => readBlock c s bytes
  | .readBlockFailed bytes => readBlockFailed c s bytes
  | .addByteCount => addByteCount s
  | .checkReadIndex => checkReadIndex c s
  | .setReadIndex => setReadIndex s
  | .setReadDataLen => setReadDataLen s
  | .toggleWriteIndex => toggleWriteIndex s
  | .giveSem => giveSem s
  | .takeSem => takeSem s
  | .checkIndex => checkIndex s
  | .pushData => pushData s
  | .resetReadIndex => resetReadIndex s

/-! ## The hand-over -/

/-- The transfers that were handed to the parser. -/
def accepted (completed : List (Transfer × Bool)) : List Transfer :=
  (completed.filter (·.2)).map (·.1)

def Holds (s : State) (half : Half) (t : Transfer) : Prop :=
  (s.buffer half).bytes.take t.len = t.bytes

/-- A transfer lies in the half that `read_index` names, which is not the one being
written. -/
structure Mailed (s : State) (half : Half) (t : Transfer) : Prop where
  index : s.readIndex = some half
  other : half ≠ s.writeIndex
  holds : Holds s half t

/-- The parser has nothing to do and was not woken. -/
def Quiet (s : State) : Prop := s.rxBufPc = .waiting ∧ s.sem = 0

/-- What the parser sees, given the transfer that it has still to push. -/
def ParserInv (s : State) (hand : Option Transfer) : Prop :=
  match s.rxBufPc, hand with
  | .waiting, none => s.sem = 0 ∧ s.readIndex = none
  | .waiting, some t => s.sem = 1 ∧ s.readDataLen = t.len ∧ ∃ half, Mailed s half t
  | .taken, some t => s.sem = 0 ∧ s.readDataLen = t.len ∧ ∃ half, Mailed s half t
  | .parsing half len, some t => s.sem = 0 ∧ len = t.len ∧ Mailed s half t
  | .pushed, none => s.sem = 0 ∧ ∃ half, s.readIndex = some half ∧ half ≠ s.writeIndex
  | _, _ => False

/-- Both tasks. While the reader is in the branch that hands its half over, the parser is
quiet; everywhere else the reader works on the half at `write_index`. -/
def HandoverInv (s : State) (hand : Option Transfer) : Prop :=
  match s.readPc with
  | .idle | .sized _ => ParserInv s hand
  | .reading half _ => half = s.writeIndex ∧ ParserInv s hand
  | .counting half len read =>
    half = s.writeIndex ∧ (∀ t ∈ read, t.len = len ∧ Holds s half t) ∧ ParserInv s hand
  | .checking half len t =>
    half = s.writeIndex ∧ t.len = len ∧ Holds s half t ∧ ParserInv s hand
  | .handing len t =>
    hand = some t ∧ Quiet s ∧ s.readIndex = none ∧ t.len = len ∧ Holds s s.writeIndex t
  | .indexSet len t =>
    hand = some t ∧ Quiet s ∧ s.readIndex = some s.writeIndex ∧ t.len = len ∧
      Holds s s.writeIndex t
  | .lenSet t =>
    hand = some t ∧ Quiet s ∧ s.readIndex = some s.writeIndex ∧ s.readDataLen = t.len ∧
      Holds s s.writeIndex t
  | .toggled t => hand = some t ∧ Quiet s ∧ s.readDataLen = t.len ∧ ∃ half, Mailed s half t

/-- The invariant together with the logs: what was pushed, and then the transfer in hand,
are the accepted transfers. -/
def Inv (s : State) : Prop :=
  ∃ hand, HandoverInv s hand ∧ s.pushed ++ hand.toList = accepted s.completed

theorem accepted_snoc (l : List (Transfer × Bool)) (t : Transfer) (b : Bool) :
    accepted (l ++ [(t, b)]) = accepted l ++ if b then [t] else [] := by
  cases b <;> simp [accepted]

theorem toggle_ne (h : Half) : h ≠ if h ≠ 0 then 0 else 1 := by
  revert h
  decide

theorem le_xferLen (c : Config) (len : Nat) : len ≤ c.xferLen len := by
  unfold Config.xferLen espBlockSize
  split <;> omega

theorem take_writeFront {data mem : List UInt8} {len : Nat} (h : len ≤ data.length) :
    (writeFront data mem).take len = data.take len :=
  List.take_append_of_le_length h

/-- The parser sees nothing of what the reader does to the half at `write_index`. -/
theorem ParserInv.frame {s s' : State} {hand : Option Transfer} (hInv : ParserInv s hand)
    (hPc : s'.rxBufPc = s.rxBufPc) (hSem : s'.sem = s.sem) (hIndex : s'.readIndex = s.readIndex)
    (hLen : s'.readDataLen = s.readDataLen) (hWrite : s'.writeIndex = s.writeIndex)
    (hBuf : ∀ half, half ≠ s.writeIndex → s'.buffer half = s.buffer half) :
    ParserInv s' hand := by
  have hMailed : ∀ half t, Mailed s half t → Mailed s' half t := fun half t h =>
    ⟨hIndex.trans h.index, hWrite ▸ h.other, by
      have := h.holds
      simpa only [Holds, hBuf half h.other] using this⟩
  unfold ParserInv at hInv ⊢
  rw [hPc, hSem, hLen, hIndex, hWrite]
  split at hInv
  · exact hInv
  · obtain ⟨h1, h2, half, hM⟩ := hInv
    exact ⟨h1, h2, half, hMailed half _ hM⟩
  · obtain ⟨h1, h2, half, hM⟩ := hInv
    exact ⟨h1, h2, half, hMailed half _ hM⟩
  · obtain ⟨h1, h2, hM⟩ := hInv
    exact ⟨h1, h2, hMailed _ _ hM⟩
  · exact hInv
  · exact hInv.elim

theorem ParserInv.setBuffer {s : State} {hand : Option Transfer} (hInv : ParserInv s hand)
    (b : BufInfo) : ParserInv (s.setBuffer s.writeIndex b) hand :=
  hInv.frame rfl rfl rfl rfl rfl fun _ hne => Function.update_of_ne hne _ _

/-- The half being parsed belongs to the parser alone. -/
theorem ParserInv.index_ne {s : State} {hand : Option Transfer} (hInv : ParserInv s hand)
    {half : Half} (h : s.readIndex = some half) : half ≠ s.writeIndex := by
  unfold ParserInv at hInv
  split at hInv
  · simp [h] at hInv
  · obtain ⟨-, -, _, hM⟩ := hInv
    exact Option.some.inj (h.symm.trans hM.index) ▸ hM.other
  · obtain ⟨-, -, _, hM⟩ := hInv
    exact Option.some.inj (h.symm.trans hM.index) ▸ hM.other
  · exact Option.some.inj (h.symm.trans hInv.2.2.index) ▸ hInv.2.2.other
  · obtain ⟨-, _, hIndex, hne⟩ := hInv
    exact Option.some.inj (h.symm.trans hIndex) ▸ hne
  · exact hInv.elim

/-- A negative `read_index` means that the parser is done with everything it was given. -/
theorem ParserInv.quiet_of_none {s : State} {hand : Option Transfer} (hInv : ParserInv s hand)
    (h : s.readIndex = none) : hand = none ∧ Quiet s := by
  unfold ParserInv at hInv
  split at hInv
  · rename_i hPc
    exact ⟨rfl, hPc, hInv.1⟩
  · obtain ⟨-, -, _, hM⟩ := hInv
    cases h.symm.trans hM.index
  · obtain ⟨-, -, _, hM⟩ := hInv
    cases h.symm.trans hM.index
  · cases h.symm.trans hInv.2.2.index
  · obtain ⟨-, _, hIndex, -⟩ := hInv
    cases h.symm.trans hIndex
  · exact hInv.elim

/-! ### Steps of the reader -/

theorem newPacket_inv {c : Config} {s s' : State} {packetLen : Nat} (hInv : Inv s)
    (h : newPacket c s packetLen = some s') : Inv s' := by
  obtain ⟨hand, hHand, hLog⟩ := hInv
  unfold newPacket at h
  split at h
  · rename_i hRead
    simp only [HandoverInv, hRead] at hHand
    have hFrame : ∀ pc, ParserInv { s with readPc := pc } hand := fun pc =>
      hHand.frame rfl rfl rfl rfl rfl fun _ _ => rfl
    have hSame : Inv s := ⟨hand, by simpa only [HandoverInv, hRead] using hHand, hLog⟩
    split at h
    · cases h
      exact ⟨hand, hFrame _, hLog⟩
    · split at h
      · cases h
        exact hSame
      · cases h
        exact hSame
      · cases h
        exact ⟨hand, hFrame _, hLog⟩
  · cases h

theorem getBuffer_inv {c : Config} {s s' : State} (hInv : Inv s)
    (h : getBuffer c s = some s') : Inv s' := by
  obtain ⟨hand, hHand, hLog⟩ := hInv
  unfold getBuffer at h
  split at h
  · rename_i hRead
    simp only [HandoverInv, hRead] at hHand
    cases h
    exact ⟨hand, ⟨rfl, (hHand.setBuffer _).frame rfl rfl rfl rfl rfl fun _ _ => rfl⟩, hLog⟩
  · cases h

theorem holds_readBlock {s : State} {c : Config} {half : Half} {len : Nat}
    {bytes : List UInt8} (hBytes : bytes.length = c.xferLen len) :
    Holds (s.setBuffer half { s.buffer half with
        bytes := writeFront bytes (s.buffer half).bytes }) half ⟨bytes.take len, len⟩ := by
  simp only [Holds, State.setBuffer, Function.update_self]
  exact take_writeFront (hBytes ▸ le_xferLen c len)

theorem readBlock_inv {c : Config} {s s' : State} {bytes : List UInt8} (hInv : Inv s)
    (h : readBlock c s bytes = some s') : Inv s' := by
  obtain ⟨hand, hHand, hLog⟩ := hInv
  unfold readBlock at h
  split at h
  · rename_i hRead
    simp only [HandoverInv, hRead] at hHand
    obtain ⟨rfl, hParser⟩ := hHand
    split at h
    · rename_i hBytes
      cases h
      refine ⟨hand, ⟨rfl, ?_, ?_⟩, hLog⟩
      · rintro t ⟨⟩
        exact ⟨rfl, holds_readBlock hBytes⟩
      · exact (hParser.setBuffer _).frame rfl rfl rfl rfl rfl fun _ _ => rfl
    · cases h
  · cases h

theorem readBlockFailed_inv {c : Config} {s s' : State} {bytes : List UInt8} (hInv : Inv s)
    (h : readBlockFailed c s bytes = some s') : Inv s' := by
  obtain ⟨hand, hHand, hLog⟩ := hInv
  unfold readBlockFailed at h
  split at h
  · rename_i hRead
    simp only [HandoverInv, hRead] at hHand
    obtain ⟨rfl, hParser⟩ := hHand
    split at h
    · cases h
      refine ⟨hand, ⟨rfl, ?_, ?_⟩, hLog⟩
      · rintro t ⟨⟩
      · exact (hParser.setBuffer _).frame rfl rfl rfl rfl rfl fun _ _ => rfl
    · cases h
  · cases h

theorem addByteCount_inv {s s' : State} (hInv : Inv s) (h : addByteCount s = some s') :
    Inv s' := by
  obtain ⟨hand, hHand, hLog⟩ := hInv
  unfold addByteCount at h
  split at h
  · rename_i half len read hRead
    simp only [HandoverInv, hRead] at hHand
    obtain ⟨hHalf, hT, hParser⟩ := hHand
    have hFrame : ∀ n l pc,
        ParserInv { s with sdioRxByteCount := n, counted := l, readPc := pc } hand :=
      fun _ _ _ => hParser.frame rfl rfl rfl rfl rfl fun _ _ => rfl
    cases h
    cases read with
    | none => exact ⟨hand, hFrame _ _ _, hLog⟩
    | some t =>
      obtain ⟨hLen, hHolds⟩ := hT t rfl
      exact ⟨hand, ⟨hHalf, hLen, hHolds, hFrame _ _ _⟩, hLog⟩
  · cases h

/-- The transfer is handed over exactly when the parser has finished with the last one. -/
theorem checkReadIndex_inv {c : Config} {s s' : State} (hInv : Inv s)
    (h : checkReadIndex c s = some s') : Inv s' := by
  obtain ⟨hand, hHand, hLog⟩ := hInv
  unfold checkReadIndex at h
  split at h
  · rename_i half len t hRead
    simp only [HandoverInv, hRead] at hHand
    obtain ⟨rfl, hLen, hHolds, hParser⟩ := hHand
    split at h
    · rename_i hIndex
      cases h
      obtain ⟨rfl, hPc, hSem⟩ := hParser.quiet_of_none hIndex
      refine ⟨some t, ⟨rfl, ⟨hPc, hSem⟩, hIndex, hLen, hHolds⟩, ?_⟩
      simp only [accepted_snoc, ← hLog]
      simp
    · cases h
      refine ⟨hand, ?_, ?_⟩
      · exact (hParser.setBuffer _).frame rfl rfl rfl rfl rfl fun _ _ => rfl
      · simpa only [accepted_snoc, State.setBuffer, Bool.false_eq_true, if_false,
          List.append_nil] using hLog
  · cases h

theorem setReadIndex_inv {s s' : State} (hInv : Inv s) (h : setReadIndex s = some s') :
    Inv s' := by
  obtain ⟨hand, hHand, hLog⟩ := hInv
  unfold setReadIndex at h
  split at h
  · rename_i hRead
    simp only [HandoverInv, hRead] at hHand
    obtain ⟨rfl, hQuiet, -, hLen, hHolds⟩ := hHand
    cases h
    exact ⟨_, ⟨rfl, hQuiet, rfl, hLen, hHolds⟩, hLog⟩
  · cases h

theorem setReadDataLen_inv {s s' : State} (hInv : Inv s) (h : setReadDataLen s = some s') :
    Inv s' := by
  obtain ⟨hand, hHand, hLog⟩ := hInv
  unfold setReadDataLen at h
  split at h
  · rename_i hRead
    simp only [HandoverInv, hRead] at hHand
    obtain ⟨rfl, hQuiet, hIndex, hLen, hHolds⟩ := hHand
    cases h
    exact ⟨_, ⟨rfl, hQuiet, hIndex, hLen.symm, hHolds⟩, hLog⟩
  · cases h

theorem toggleWriteIndex_inv {s s' : State} (hInv : Inv s)
    (h : toggleWriteIndex s = some s') : Inv s' := by
  obtain ⟨hand, hHand, hLog⟩ := hInv
  unfold toggleWriteIndex at h
  split at h
  · rename_i hRead
    simp only [HandoverInv, hRead] at hHand
    obtain ⟨rfl, hQuiet, hIndex, hLen, hHolds⟩ := hHand
    cases h
    exact ⟨_, ⟨rfl, hQuiet, hLen, s.writeIndex, hIndex, toggle_ne s.writeIndex, hHolds⟩, hLog⟩
  · cases h

theorem giveSem_inv {s s' : State} (hInv : Inv s) (h : giveSem s = some s') : Inv s' := by
  obtain ⟨hand, hHand, hLog⟩ := hInv
  unfold giveSem at h
  split at h
  · rename_i t hRead
    simp only [HandoverInv, hRead] at hHand
    obtain ⟨rfl, ⟨hPc, -⟩, hLen, half, hM⟩ := hHand
    cases h
    refine ⟨some t, ?_, hLog⟩
    simp only [HandoverInv, ParserInv, hPc]
    exact ⟨trivial, hLen, half, hM.index, hM.other, hM.holds⟩
  · cases h

/-! ### Steps of the parser -/

/-- While the parser is at work the reader is outside the branch that hands a half over,
and what it knows does not depend on the parser. -/
theorem HandoverInv.parser {s : State} {hand : Option Transfer} (hInv : HandoverInv s hand)
    (hBusy : ¬ Quiet s) :
    ParserInv s hand ∧ ∀ {s' : State} {hand' : Option Transfer}, s'.readPc = s.readPc →
      s'.buffer = s.buffer → s'.writeIndex = s.writeIndex → ParserInv s' hand' →
      HandoverInv s' hand' := by
  unfold HandoverInv at hInv
  split at hInv
  · rename_i hRead
    refine ⟨hInv, fun hPc _ _ hP => ?_⟩
    simpa only [HandoverInv, hPc, hRead] using hP
  · rename_i hRead
    refine ⟨hInv, fun hPc _ _ hP => ?_⟩
    simpa only [HandoverInv, hPc, hRead] using hP
  · rename_i hRead
    obtain ⟨hHalf, hParser⟩ := hInv
    refine ⟨hParser, fun hPc _ hWrite hP => ?_⟩
    simp only [HandoverInv, hPc, hRead, hWrite]
    exact ⟨hHalf, hP⟩
  · rename_i hRead
    obtain ⟨hHalf, hT, hParser⟩ := hInv
    refine ⟨hParser, fun hPc hBuf hWrite hP => ?_⟩
    simp only [HandoverInv, hPc, hRead, hWrite, Holds, hBuf]
    exact ⟨hHalf, hT, hP⟩
  · rename_i hRead
    obtain ⟨hHalf, hLen, hT, hParser⟩ := hInv
    refine ⟨hParser, fun hPc hBuf hWrite hP => ?_⟩
    simp only [HandoverInv, hPc, hRead, hWrite, Holds, hBuf]
    exact ⟨hHalf, hLen, hT, hP⟩
  all_goals exact absurd hInv.2.1 hBusy

theorem takeSem_inv {s s' : State} (hInv : Inv s) (h : takeSem s = some s') : Inv s' := by
  obtain ⟨hand, hHand, hLog⟩ := hInv
  unfold takeSem at h
  split at h
  · rename_i hPc
    split at h
    · rename_i hSem
      obtain ⟨hParser, hReader⟩ := hHand.parser fun hQ => by
        rw [hQ.2] at hSem
        cases hSem
      cases h
      cases hand with
      | none =>
        simp only [ParserInv, hPc] at hParser
        omega
      | some t =>
        simp only [ParserInv, hPc] at hParser
        obtain ⟨-, hLen, half, hM⟩ := hParser
        refine ⟨some t, hReader rfl rfl rfl ?_, hLog⟩
        exact ⟨rfl, hLen, half, hM.index, hM.other, hM.holds⟩
    · cases h
  · cases h

theorem checkIndex_inv {s s' : State} (hInv : Inv s) (h : checkIndex s = some s') : Inv s' := by
  obtain ⟨hand, hHand, hLog⟩ := hInv
  unfold checkIndex at h
  split at h
  · rename_i hPc
    obtain ⟨hParser, hReader⟩ := hHand.parser fun hQ => by
      rw [hQ.1] at hPc
      cases hPc
    cases hand with
    | none => simp only [ParserInv, hPc] at hParser
    | some t =>
      simp only [ParserInv, hPc] at hParser
      obtain ⟨hSem, hLen, half, hM⟩ := hParser
      split at h
      · rename_i hIndex
        cases hIndex.symm.trans hM.index
      · rename_i half' hIndex
        cases hIndex.symm.trans hM.index
        cases h
        refine ⟨some t, hReader rfl rfl rfl ?_, hLog⟩
        exact ⟨hSem, hLen, hM.index, hM.other, hM.holds⟩
  · cases h

theorem pushData_inv {s s' : State} (hInv : Inv s) (h : pushData s = some s') : Inv s' := by
  obtain ⟨hand, hHand, hLog⟩ := hInv
  unfold pushData at h
  split at h
  · rename_i half len hPc
    obtain ⟨hParser, hReader⟩ := hHand.parser fun hQ => by
      rw [hQ.1] at hPc
      cases hPc
    cases hand with
    | none => simp only [ParserInv, hPc] at hParser
    | some t =>
      simp only [ParserInv, hPc] at hParser
      obtain ⟨hSem, rfl, hM⟩ := hParser
      have hHolds : (s.buffer half).bytes.take t.len = t.bytes := hM.holds
      cases h
      refine ⟨none, hReader rfl rfl rfl ⟨hSem, half, hM.index, hM.other⟩, ?_⟩
      simp only [hHolds, ← hLog]
      simp
  · cases h

theorem resetReadIndex_inv {s s' : State} (hInv : Inv s) (h : resetReadIndex s = some s') :
    Inv s' := by
  obtain ⟨hand, hHand, hLog⟩ := hInv
  unfold resetReadIndex at h
  split at h
  · rename_i hPc
    obtain ⟨hParser, hReader⟩ := hHand.parser fun hQ => by
      rw [hQ.1] at hPc
      cases hPc
    cases hand with
    | none =>
      simp only [ParserInv, hPc] at hParser
      cases h
      exact ⟨none, hReader rfl rfl rfl ⟨hParser.1, rfl⟩, hLog⟩
    | some t => simp only [ParserInv, hPc] at hParser
  · cases h

/-! ### Whole runs -/

theorem init_inv : Inv init := ⟨none, ⟨rfl, rfl⟩, rfl⟩

theorem step_inv {c : Config} {s s' : State} {a : Action} (hInv : Inv s)
    (h : step c s a = some s') : Inv s' := by
  cases a with
  | newPacket packetLen => exact newPacket_inv hInv h
  | getBuffer => exact getBuffer_inv hInv h
  | readBlock bytes => exact readBlock_inv hInv h
  | readBlockFailed bytes => exact readBlockFailed_inv hInv h
  | addByteCount => exact addByteCount_inv hInv h
  | checkReadIndex => exact checkReadIndex_inv hInv h
  | setReadIndex => exact setReadIndex_inv hInv h
  | setReadDataLen => exact setReadDataLen_inv hInv h
  | toggleWriteIndex => exact toggleWriteIndex_inv hInv h
  | giveSem => exact giveSem_inv hInv h
  | takeSem => exact takeSem_inv hInv h
  | checkIndex => exact checkIndex_inv hInv h
  | pushData => exact pushData_inv hInv h
  | resetReadIndex => exact resetReadIndex_inv hInv h

theorem reachable_inv {c : Config} {s : State} (hRun : Reaches (step c) anyStep init s) :
    Inv s :=
  hRun.invariant init_inv fun _ _ _ hInv _ hStep => step_inv hInv hStep

/-- The half that `sdio_read_task` is about to allocate, fill or free. -/
def State.owned (s : State) : Option Half :=
  match s.readPc with
  | .sized _ => some s.writeIndex
  | .reading half _ | .counting half .. | .checking half .. => some half
  | _ => none

/-- The half that the parser works on, from its wake-up until it has reset `read_index`. -/
def State.parsed (s : State) : Option Half :=
  match s.rxBufPc with
  | .waiting => none
  | .taken | .pushed => s.readIndex
  | .parsing half _ => some half

theorem HandoverInv.owned_ne_parsed {s : State} {hand : Option Transfer}
    (hInv : HandoverInv s hand) {half : Half} (hParsed : s.parsed = some half) :
    s.owned ≠ some half := by
  have hBusy : ¬ Quiet s := fun hQ => by
    simp only [State.parsed, hQ.1] at hParsed
    cases hParsed
  have hParser := (hInv.parser hBusy).1
  have hIndex : s.readIndex = some half := by
    unfold State.parsed at hParsed
    split at hParsed
    · cases hParsed
    · exact hParsed
    · exact hParsed
    · rename_i hPc
      cases hParsed
      cases hand with
      | none => simp only [ParserInv, hPc] at hParser
      | some t =>
        simp only [ParserInv, hPc] at hParser
        exact hParser.2.2.index
  have hNe := hParser.index_ne hIndex
  intro hOwned
  unfold State.owned at hOwned
  unfold HandoverInv at hInv
  split at hOwned
  · cases hOwned
    exact hNe rfl
  · rename_i hRead
    simp only [hRead] at hInv
    cases hOwned
    exact hNe hInv.1
  · rename_i hRead
    simp only [hRead] at hInv
    cases hOwned
    exact hNe hInv.1
  · rename_i hRead
    simp only [hRead] at hInv
    cases hOwned
    exact hNe hInv.1
  · cases hOwned

/-! ### What was counted -/

/-- The transfer that was counted and not yet offered to the parser. -/
def ReadPc.due : ReadPc → List Transfer
  | .checking _ _ t => [t]
  | _ => []

/-- Every counted transfer is offered to the parser, in order. -/
def Logged (s : State) : Prop := s.counted = s.completed.map (·.1) ++ s.readPc.due

theorem checkReadIndex_logged {c : Config} {s s' : State} (hLogged : Logged s)
    (h : checkReadIndex c s = some s') : Logged s' := by
  unfold checkReadIndex at h
  split at h
  · rename_i hRead
    simp only [Logged, hRead, ReadPc.due] at hLogged
    split at h <;> cases h <;> simp [Logged, ReadPc.due, State.setBuffer, hLogged]
  · cases h

theorem addByteCount_logged {s s' : State} (hLogged : Logged s)
    (h : addByteCount s = some s') : Logged s' := by
  unfold addByteCount at h
  split at h
  · rename_i half len read hRead
    simp only [Logged, hRead, ReadPc.due] at hLogged
    cases h
    cases read <;> simp [Logged, ReadPc.due, hLogged]
  · cases h

/-- The other accesses neither count a transfer nor offer one. -/
theorem Logged.of_same {s s' : State} (hLogged : Logged s) (hCounted : s'.counted = s.counted)
    (hCompleted : s'.completed = s.completed) (hDue : s'.readPc.due = s.readPc.due) :
    Logged s' := by
  unfold Logged
  rw [hCounted, hCompleted, hDue]
  exact hLogged

theorem step_logged {c : Config} {s s' : State} {a : Action} (hLogged : Logged s)
    (h : step c s a = some s') : Logged s' := by
  cases a with
  | addByteCount => exact addByteCount_logged hLogged h
  | checkReadIndex => exact checkReadIndex_logged hLogged h
  | newPacket packetLen =>
    simp only [step, newPacket] at h
    split at h
    · rename_i hRead
      split at h
      · cases h
        exact hLogged.of_same rfl rfl (by rw [hRead]; rfl)
      · split at h <;> cases h
        · exact hLogged
        · exact hLogged
        · exact hLogged.of_same rfl rfl (by rw [hRead]; rfl)
    · cases h
  | getBuffer | setReadIndex | setReadDataLen | toggleWriteIndex | giveSem =>
    simp only [step, getBuffer, setReadIndex, setReadDataLen, toggleWriteIndex, giveSem] at h
    split at h
    · rename_i hRead
      cases h
      exact hLogged.of_same rfl rfl (by rw [hRead]; rfl)
    · cases h
  | readBlock bytes | readBlockFailed bytes =>
    simp only [step, readBlock, readBlockFailed] at h
    split at h
    · rename_i hRead
      split at h
      · cases h
        exact hLogged.of_same rfl rfl (by rw [hRead]; rfl)
      · cases h
    · cases h
  | takeSem | checkIndex =>
    simp only [step, takeSem, checkIndex] at h
    split at h
    · split at h <;> cases h <;> exact hLogged.of_same rfl rfl rfl
    · cases h
  | pushData | resetReadIndex =>
    simp only [step, pushData, resetReadIndex] at h
    split at h
    · cases h
      exact hLogged.of_same rfl rfl rfl
    · cases h

theorem reachable_logged {c : Config} {s : State} (hRun : Reaches (step c) anyStep init s) :
    Logged s :=
  hRun.invariant rfl fun _ _ _ hLogged _ hStep => step_logged hLogged hStep

/-! ### The hand-over as a whole -/

/-- Everything accepted has been pushed once the two tasks wait for work. -/
def Settled (s : State) : Prop := s.readPc = .idle ∧ Quiet s

theorem Inv.pushed_eq {s : State} (hInv : Inv s) (hSettled : Settled s) :
    s.pushed = accepted s.completed := by
  obtain ⟨hand, hHand, hLog⟩ := hInv
  obtain ⟨hRead, hPc, hSem⟩ := hSettled
  cases hand with
  | none => simpa using hLog
  | some t =>
    simp only [HandoverInv, hRead, ParserInv, hPc, hSem] at hHand
    omega

/-- Receive hand-over, for every interleaving of the two tasks. A transfer that was read and
counted is pushed if and only if it found the parser idle; the pushes are these transfers,
each once, in order, with their own bytes and lengths (all of them when both tasks wait,
all but the one in hand in between). The half that is parsed is never touched meanwhile. -/
theorem handover_exact {c : Config} {s : State} (hRun : Reaches (step c) anyStep init s) :
    (∃ hand : Option Transfer, s.pushed ++ hand.toList = accepted s.completed) ∧
      (Settled s → s.pushed = accepted s.completed ∧ s.completed.map (·.1) = s.counted) ∧
      ∀ half, s.parsed = some half → s.owned ≠ some half := by
  have hInv := reachable_inv hRun
  have hLogged := reachable_logged hRun
  refine ⟨?_, ?_, ?_⟩
  · obtain ⟨hand, -, hLog⟩ := hInv
    exact ⟨hand, hLog⟩
  · intro hSettled
    refine ⟨hInv.pushed_eq hSettled, ?_⟩
    simpa only [Logged, hSettled.1, ReadPc.due, List.append_nil] using hLogged.symm
  · obtain ⟨hand, hHand, -⟩ := hInv
    exact fun half hParsed => hHand.owned_ne_parsed hParsed

/-- A one-byte transfer, up to the look at `read_index`. -/
def receive (packetLen : Nat) (byte : UInt8) : List Action :=
  [.newPacket packetLen, .getBuffer, .readBlock [byte], .addByteCount, .checkReadIndex]

def handOver : List Action := [.setReadIndex, .setReadDataLen, .toggleWriteIndex, .giveSem]

def parse : List Action := [.takeSem, .checkIndex, .pushData, .resetReadIndex]

def streamingMode : Config := ⟨.streaming, false⟩

theorem handover_exact_two :
    ∃ s, run (step streamingMode) init
        (receive 1 7 ++ handOver ++ parse ++ receive 2 9 ++ handOver ++ parse) = some s ∧
      s.pushed = [⟨[7], 1⟩, ⟨[9], 1⟩] ∧ s.pushed = accepted s.completed := by
  have hRun : ∃ s, run (step streamingMode) init
      (receive 1 7 ++ handOver ++ parse ++ receive 2 9 ++ handOver ++ parse) = some s ∧
      s.pushed = [⟨[7], 1⟩, ⟨[9], 1⟩] ∧ Settled s := ⟨_, rfl, rfl, rfl, rfl, rfl⟩
  obtain ⟨s, hs, hPushed, hSettled⟩ := hRun
  exact ⟨s, hs, hPushed, ((handover_exact (.of_plain_run hs)).2.1 hSettled).1⟩

/-- The second transfer is read and counted while the parser has not yet run. -/
theorem not_pushed_eq_counted :
    ¬ ∀ s, Reaches (step streamingMode) anyStep init s → Settled s → s.pushed = s.counted := by
  intro h
  have hRun : ∃ s, run (step streamingMode) init
      (receive 1 7 ++ handOver ++ receive 2 9 ++ parse) = some s ∧ Settled s ∧
      s.pushed = [⟨[7], 1⟩] ∧ s.counted = [⟨[7], 1⟩, ⟨[9], 1⟩] :=
    ⟨_, rfl, ⟨rfl, rfl, rfl⟩, rfl, rfl⟩
  obtain ⟨s, hs, hSettled, hPushed, hCounted⟩ := hRun
  have hEq := h s (.of_plain_run hs) hSettled
  rw [hPushed, hCounted] at hEq
  cases hEq

end EspHosted.Sdio.DoubleBuffer
