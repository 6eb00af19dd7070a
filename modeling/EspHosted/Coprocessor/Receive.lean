import EspHosted.Jl.Frames
import EspHosted.Lib.Reads

/-!
# Receiving on the co-processor

`sdio_rx_task`, `process_spi_rx`, `spi_hd_rx_task` and `uart_rx_task` look at the header of what the
host has sent, tell the power management what its flags say, compare lengths and the checksum, and
pass the frame on to `process_rx_pkt` or return it to the driver. The checksum is on.

* `receive_validated_iff`, `uartRxTask_validated_iff`: when a frame is read within what was
  received, and has no effect if it is refused;
* `validated_iff`: the four transports together.
-/

namespace EspHosted.Coprocessor.Receive

open Bytes Reads Jl.Frames

/-! ## The frame in memory -/

/-- `ESP_TRANSPORT_SPI_MAX_BUF_SIZE`, which is that of the UART as well. -/
def spiBufferSize : Nat := 1600

def espPrivIf : Nat := 5
def espPrivEventInit : UInt8 := 0x22
def flagPowerSaveStarted : UInt8 := 4
def flagPowerSaveStopped : UInt8 := 8

def ifTypeOf (m : Memory) : Nat := (m 0).toNat % 16
def flagsOf (m : Memory) : UInt8 := m 1
def lenOf (m : Memory) : Nat := le16 (m 2) (m 3)
def offsetOf (m : Memory) : Nat := le16 (m 4) (m 5)
def checksumOf (m : Memory) : Nat := le16 (m 6) (m 7)

def bytesAt (m : Memory) (start count : Nat) : List UInt8 :=
  (List.range count).map fun i => m (start + i)

/-- The checksum over `len + offset` bytes, without its own field, is that of the header. -/
def ChecksumOk (m : Memory) : Prop :=
  computeChecksum (clearChecksum (bytesAt m 0 (lenOf m + offsetOf m))) = checksumOf m

instance (m : Memory) : Decidable (ChecksumOk m) := inferInstanceAs (Decidable (_ = _))

/-- A flag of the power save state is set. -/
def Signals (m : Memory) : Prop :=
  flagsOf m &&& flagPowerSaveStarted ≠ 0 ∨ flagsOf m &&& flagPowerSaveStopped ≠ 0

/-! ## Effects -/

inductive Effect
  | read (r : Range)
  /-- The handler gets `ESP_POWER_SAVE_ON` or `ESP_POWER_SAVE_OFF`. -/
  | powerSave (on : Bool)
  /-- `tx_ready_buf_size` of the SPI-HD driver is set to 0. -/
  | resetTxReady
  /-- `process_rx_pkt` gets the frame. -/
  | process
  /-- `esp_vhci_host_send_packet`. -/
  | toController (packet : List UInt8)
  | giveBack
  deriving DecidableEq

/-- A frame is looked at and returned. -/
def Effect.Silent : Effect → Prop
  | .read _ | .giveBack => True
  | _ => False

def powerSave (onStop : List Effect) (m : Memory) : List Effect :=
  if flagsOf m &&& flagPowerSaveStarted ≠ 0 then [.powerSave true]
  else if flagsOf m &&& flagPowerSaveStopped ≠ 0 then onStop ++ [.powerSave false]
  else []

/-- `process_priv_pkt`, with the event that `host_to_slave_reconfig` walks. -/
def processPrivPkt (m : Memory) : List Effect :=
  if lenOf m = 0 then []
  else
    .read ⟨offsetOf m, 1⟩ ::
      if m (offsetOf m) = espPrivEventInit then
        [.read ⟨offsetOf m + 1, 1⟩, .read ⟨offsetOf m + 2, (m (offsetOf m + 1)).toNat⟩]
      else []

/-- `process_hci_rx_pkt`: the packet starts one byte before the payload. -/
def processHciRxPkt (m : Memory) : List Effect :=
  let payloadLen := (lenOf m + 1) % 65536
  [.read ⟨offsetOf m - 1, payloadLen⟩, .toController (bytesAt m (offsetOf m - 1) payloadLen)]

def processRxPkt (m : Memory) : List Effect :=
  [.process, .read ⟨0, headerSize⟩] ++
    (if ifTypeOf m = espPrivIf then processPrivPkt m
    else if ifTypeOf m = espHciIf then processHciRxPkt m
    else [.read ⟨offsetOf m, lenOf m⟩]) ++ [.giveBack]

/-- What the SDIO, SPI and SPI-HD paths have in common. -/
def receive (dropsEmpty : Bool) (bound : Nat) (onStop : List Effect) (m : Memory) : List Effect :=
  .read ⟨0, headerSize⟩ :: powerSave onStop m ++
    if dropsEmpty = true ∧ lenOf m = 0 then [.giveBack]
    else if bound < lenOf m + offsetOf m then [.giveBack]
    else .read ⟨0, lenOf m + offsetOf m⟩ ::
      if ChecksumOk m then processRxPkt m else [.giveBack]

/-- `sdio_rx_task`; the length of what was received has 16 bits. -/
def sdioRxTask (m : Memory) (received : Nat) : List Effect :=
  receive true (received % 65536) [] m

/-- `process_spi_rx` does not know how much was received. -/
def processSpiRx (m : Memory) : List Effect := receive true spiBufferSize [] m

def spiHdRxTask (m : Memory) (received : Nat) : List Effect :=
  if received = 0 then [.giveBack]
  else receive false (received % 65536) [.resetTxReady] m

/-- What the two calls of `uart_read_bytes` have left in `uart_scratch_buf`, and their results. They
give at most what is asked for, and -1 on an error. -/
structure UartRead where
  scratch : Memory
  header : Int
  payload : Int
  header_le : header ≤ headerSize
  payload_le : payload ≤ lenOf scratch

/-- One round of `uart_rx_task`. The result of the first read is compared as an unsigned number. -/
def uartRxTask (r : UartRead) : List Effect :=
  if 0 ≤ r.header ∧ r.header < headerSize then []
  else
    .read ⟨0, headerSize⟩ ::
      if offsetOf r.scratch ≠ headerSize then []
      else if spiBufferSize < lenOf r.scratch + headerSize then []
      else if lenOf r.scratch ≠ 0 ∧ r.payload < lenOf r.scratch then []
      else powerSave [] r.scratch ++ .read ⟨0, lenOf r.scratch + headerSize⟩ ::
        if ChecksumOk r.scratch then processRxPkt r.scratch else []

/-! ## A frame of any transport -/

inductive Frame
  | sdio (m : Memory) (received : Nat)
  | spi (m : Memory) (received : Nat)
  | spiHd (m : Memory) (received : Nat)
  | uart (r : UartRead)

def Frame.effects : Frame → List Effect
  | .sdio m received => sdioRxTask m received
  | .spi m _ => processSpiRx m
  | .spiHd m received => spiHdRxTask m received
  | .uart r => uartRxTask r

def Frame.memory : Frame → Memory
  | .sdio m _ | .spi m _ | .spiHd m _ => m
  | .uart r => r.scratch

/-- How many bytes were received, from the start of the header on. -/
def UartRead.received (r : UartRead) : Nat :=
  if r.header < headerSize then r.header.toNat else headerSize + r.payload.toNat

def Frame.received : Frame → Nat
  | .sdio _ received | .spi _ received | .spiHd _ received => received
  | .uart r => r.received

/-- A frame that passes all checks that one could make. -/
def Intact (m : Memory) (received : Nat) : Prop :=
  headerSize ≤ offsetOf m ∧ lenOf m + offsetOf m ≤ received ∧ ChecksumOk m

/-- Nothing is read that was not received, a frame that is passed on has its payload behind the
header and within what was received, and a frame that is not has no effect unless it is intact and
empty. -/
structure Validated (m : Memory) (received : Nat) (effects : List Effect) : Prop where
  inside : ∀ r, .read r ∈ effects → r.Inside received
  processed : .process ∈ effects → headerSize ≤ offsetOf m ∧ lenOf m + offsetOf m ≤ received
  quiet : .process ∉ effects → ¬ (lenOf m = 0 ∧ Intact m received) → ∀ e ∈ effects, e.Silent

/-- The event of an init packet was received as long as it says. -/
def EventInside (m : Memory) (received : Nat) : Prop :=
  ifTypeOf m = espPrivIf → lenOf m ≠ 0 → m (offsetOf m) = espPrivEventInit →
    offsetOf m + 2 + (m (offsetOf m + 1)).toNat ≤ received

/-- The frame gets as far as the checksum. -/
def Measured (dropsEmpty : Bool) (bound : Nat) (m : Memory) : Prop :=
  ¬ (dropsEmpty = true ∧ lenOf m = 0) ∧ lenOf m + offsetOf m ≤ bound

/-- There is a whole header, the lengths that the checksum is computed over were received, a frame
that signals is passed on or intact and empty, and one that is passed on has its payload behind
the header and its event within what was received. -/
structure Sound (dropsEmpty : Bool) (bound : Nat) (m : Memory) (received : Nat) : Prop where
  header : headerSize ≤ received
  measured : Measured dropsEmpty bound m → lenOf m + offsetOf m ≤ received
  signals : Signals m →
    (Measured dropsEmpty bound m ∧ ChecksumOk m) ∨ (lenOf m = 0 ∧ Intact m received)
  passed : Measured dropsEmpty bound m → ChecksumOk m →
    headerSize ≤ offsetOf m ∧ EventInside m received

/-- The UART reads the header without an error, what signals has its checksum, and what is passed
on its event. -/
def UartSound (r : UartRead) : Prop :=
  0 ≤ r.header ∧ (r.header = headerSize → offsetOf r.scratch = headerSize →
    lenOf r.scratch + headerSize ≤ spiBufferSize →
    (lenOf r.scratch ≠ 0 → r.payload = lenOf r.scratch) →
    (Signals r.scratch → ChecksumOk r.scratch) ∧
    (ChecksumOk r.scratch → EventInside r.scratch r.received))

def Frame.Sound : Frame → Prop
  | .sdio m received => Receive.Sound true (received % 65536) m received
  | .spi m received => Receive.Sound true spiBufferSize m received
  | .spiHd m received => received = 0 ∨ Receive.Sound false (received % 65536) m received
  | .uart r => UartSound r

/-! ## Lists of effects -/

section Effects

variable {m : Memory} {received : Nat} {effects : List Effect}

theorem inside_zero {start count : Nat} (hCount : count ≠ 0) :
    Range.Inside received ⟨start, count⟩ ↔ start + count ≤ received :=
  ⟨fun h => h hCount, fun h _ => h⟩

theorem measured_inside : Range.Inside received ⟨0, lenOf m + offsetOf m⟩ ↔
    lenOf m + offsetOf m ≤ received := by
  simp only [Range.Inside, Nat.zero_add]
  omega

theorem validated_read (r : Range) :
    Validated m received (.read r :: effects) ↔
      r.Inside received ∧ Validated m received effects := by
  have hProcess : Effect.process ∈ .read r :: effects ↔ .process ∈ effects := by
    rw [List.mem_cons]
    exact or_iff_right Effect.noConfusion
  constructor
  · rintro ⟨hInside, hProcessed, hQuiet⟩
    refine ⟨hInside r List.mem_cons_self, fun r' hr' => hInside r' (List.mem_cons_of_mem _ hr'),
      fun h => hProcessed (hProcess.mpr h), fun hNot hEmpty => ?_⟩
    exact (List.forall_mem_cons.mp (hQuiet (hProcess.not.mpr hNot) hEmpty)).2
  · rintro ⟨hRead, hInside, hProcessed, hQuiet⟩
    refine ⟨fun r' hr' => ?_, fun h => hProcessed (hProcess.mp h), fun hNot hEmpty => ?_⟩
    · rcases List.mem_cons.mp hr' with hEq | hMem
      · injection hEq with hEq
        exact hEq ▸ hRead
      · exact hInside r' hMem
    · exact List.forall_mem_cons.mpr ⟨trivial, hQuiet (hProcess.not.mp hNot) hEmpty⟩

theorem validated_nil : Validated m received [] :=
  ⟨fun _ h => (List.not_mem_nil h).elim, fun h => (List.not_mem_nil h).elim,
    fun _ _ _ h => (List.not_mem_nil h).elim⟩

theorem validated_giveBack : Validated m received [.giveBack] := by
  refine ⟨fun r h => ?_, fun h => ?_, fun _ _ => List.forall_mem_singleton.mpr trivial⟩
  · cases List.mem_singleton.mp h
  · cases List.mem_singleton.mp h

/-- Without a signal nothing is told, and what is told is no read and passes nothing on. -/
theorem powerSave_spec {onStop : List Effect} (hStop : ∀ e ∈ onStop, e = .resetTxReady) :
    (¬ Signals m → powerSave onStop m = []) ∧
      (Signals m → ∃ on, .powerSave on ∈ powerSave onStop m) ∧
      ∀ e ∈ powerSave onStop m, e = .resetTxReady ∨ ∃ on, e = .powerSave on := by
  unfold powerSave Signals
  by_cases hStart : flagsOf m &&& flagPowerSaveStarted = 0
  · rw [if_neg (not_not.mpr hStart)]
    by_cases hStopped : flagsOf m &&& flagPowerSaveStopped = 0
    · rw [if_neg (not_not.mpr hStopped)]
      have hSilent : ¬ (flagsOf m &&& flagPowerSaveStarted ≠ 0 ∨
          flagsOf m &&& flagPowerSaveStopped ≠ 0) :=
        not_or.mpr ⟨not_not.mpr hStart, not_not.mpr hStopped⟩
      exact ⟨fun _ => rfl, fun h => absurd h hSilent,
        fun _ h => (List.not_mem_nil h).elim⟩
    · rw [if_pos hStopped]
      refine ⟨fun h => absurd (.inr hStopped) h,
        fun _ => ⟨false, List.mem_append_right _ (List.mem_singleton_self _)⟩, fun e he => ?_⟩
      rcases List.mem_append.mp he with hMem | hMem
      · exact .inl (hStop e hMem)
      · exact .inr ⟨false, List.mem_singleton.mp hMem⟩
  · rw [if_pos hStart]
    exact ⟨fun h => absurd (.inl hStart) h, fun _ => ⟨true, List.mem_singleton_self _⟩,
      fun e he => .inr ⟨true, List.mem_singleton.mp he⟩⟩

/-- What the power management is told must come from a frame that is passed on, or is intact and
empty. -/
theorem validated_powerSave {onStop : List Effect} (hStop : ∀ e ∈ onStop, e = .resetTxReady) :
    Validated m received (powerSave onStop m ++ effects) ↔
      Validated m received effects ∧
        (Signals m → .process ∈ effects ∨ (lenOf m = 0 ∧ Intact m received)) := by
  obtain ⟨hNone, hSome, hTold⟩ := powerSave_spec (m := m) hStop
  have hProcess : Effect.process ∈ powerSave onStop m ++ effects ↔ .process ∈ effects := by
    refine ⟨fun h => ?_, List.mem_append_right _⟩
    rcases List.mem_append.mp h with hMem | hMem
    · rcases hTold _ hMem with hEq | ⟨_, hEq⟩ <;> cases hEq
    · exact hMem
  constructor
  · rintro ⟨hInside, hProcessed, hQuiet⟩
    refine ⟨⟨fun r hr => hInside r (List.mem_append_right _ hr),
      fun h => hProcessed (hProcess.mpr h), fun hNot hEmpty e he => ?_⟩, fun hSignals => ?_⟩
    · exact hQuiet (hProcess.not.mpr hNot) hEmpty e (List.mem_append_right _ he)
    · obtain ⟨on, hOn⟩ := hSome hSignals
      by_contra hNot
      rw [not_or] at hNot
      exact hQuiet (hProcess.not.mpr hNot.1) hNot.2 _ (List.mem_append_left _ hOn)
  · rintro ⟨⟨hInside, hProcessed, hQuiet⟩, hSignals⟩
    refine ⟨fun r hr => ?_, fun h => hProcessed (hProcess.mp h), fun hNot hEmpty e he => ?_⟩
    · rcases List.mem_append.mp hr with hMem | hMem
      · rcases hTold _ hMem with hEq | ⟨_, hEq⟩ <;> cases hEq
      · exact hInside r hMem
    · rcases List.mem_append.mp he with hMem | hMem
      · have hSilent : ¬ Signals m := fun h =>
          (hSignals h).elim (hProcess.not.mp hNot) hEmpty
        rw [hNone hSilent] at hMem
        exact (List.not_mem_nil hMem).elim
      · exact hQuiet (hProcess.not.mp hNot) hEmpty e hMem

/-- A frame that is passed on is read within what was received if it has its payload behind the
header and within, and its event too. -/
theorem validated_processRxPkt :
    Validated m received (processRxPkt m) ↔ headerSize ≤ received ∧ headerSize ≤ offsetOf m ∧
      lenOf m + offsetOf m ≤ received ∧ EventInside m received := by
  have hProcess : Effect.process ∈ processRxPkt m := by simp [processRxPkt]
  have hByte : lenOf m < 2 ^ 16 := le16_lt _ _
  constructor
  · rintro ⟨hInside, hProcessed, -⟩
    refine ⟨?_, (hProcessed hProcess).1, (hProcessed hProcess).2, fun hPriv hLen hInit => ?_⟩
    · exact hInside ⟨0, headerSize⟩ (by simp [processRxPkt]) (by decide)
    · have hMem : ∀ r, .read r ∈ processPrivPkt m → r.Inside received := fun r hr =>
        hInside r (by simp [processRxPkt, if_pos hPriv, hr])
      have hLength := hMem ⟨offsetOf m + 1, 1⟩ (by simp [processPrivPkt, hLen, hInit])
        Nat.one_ne_zero
      have hData := hMem ⟨offsetOf m + 2, (m (offsetOf m + 1)).toNat⟩
        (by simp [processPrivPkt, hLen, hInit])
      simp only [Range.Inside] at hLength hData
      omega
  · rintro ⟨hHeader, hOffset, hFits, hEvent⟩
    refine ⟨fun r hr => ?_, fun _ => ⟨hOffset, hFits⟩, fun hNot => absurd hProcess hNot⟩
    have hTwelve : headerSize = 12 := rfl
    simp only [processRxPkt, List.mem_append, List.mem_cons, reduceCtorEq, Effect.read.injEq,
      List.not_mem_nil, or_false, false_or] at hr
    rcases hr with rfl | hr
    · exact (inside_zero (by decide)).mpr (by omega)
    · by_cases hPriv : ifTypeOf m = espPrivIf
      · rw [if_pos hPriv, processPrivPkt] at hr
        by_cases hLen : lenOf m = 0
        · rw [if_pos hLen] at hr
          exact (List.not_mem_nil hr).elim
        · rw [if_neg hLen] at hr
          by_cases hInit : m (offsetOf m) = espPrivEventInit
          · have hWithin := hEvent hPriv hLen hInit
            rw [if_pos hInit] at hr
            simp only [List.mem_cons, Effect.read.injEq, List.not_mem_nil, or_false] at hr
            rcases hr with rfl | rfl | rfl <;> exact fun _ => by simp only; omega
          · rw [if_neg hInit] at hr
            simp only [List.mem_cons, Effect.read.injEq, List.not_mem_nil, or_false] at hr
            subst hr
            exact fun _ => by simp only; omega
      · rw [if_neg hPriv] at hr
        by_cases hHci : ifTypeOf m = espHciIf
        · rw [if_pos hHci] at hr
          simp only [processHciRxPkt, List.mem_cons, reduceCtorEq, Effect.read.injEq,
            List.not_mem_nil, or_false] at hr
          subst hr
          exact fun _ => by simp only; omega
        · rw [if_neg hHci] at hr
          simp only [List.mem_cons, Effect.read.injEq, List.not_mem_nil, or_false] at hr
          subst hr
          exact fun _ => by simp only; omega

/-- What happens behind the flags. -/
theorem validated_checked (dropsEmpty : Bool) (bound : Nat) (hHeader : headerSize ≤ received) :
    (Validated m received
      (if dropsEmpty = true ∧ lenOf m = 0 then [.giveBack]
        else if bound < lenOf m + offsetOf m then [.giveBack]
        else .read ⟨0, lenOf m + offsetOf m⟩ ::
          if ChecksumOk m then processRxPkt m else [.giveBack])) ↔
      (Measured dropsEmpty bound m → lenOf m + offsetOf m ≤ received) ∧
      (Measured dropsEmpty bound m → ChecksumOk m →
        headerSize ≤ offsetOf m ∧ EventInside m received) := by
  unfold Measured
  by_cases hEmpty : dropsEmpty = true ∧ lenOf m = 0
  · rw [if_pos hEmpty]
    exact iff_of_true validated_giveBack
      ⟨fun h => absurd hEmpty h.1, fun h => absurd hEmpty h.1⟩
  · rw [if_neg hEmpty]
    by_cases hBound : bound < lenOf m + offsetOf m
    · rw [if_pos hBound]
      exact iff_of_true validated_giveBack
        ⟨fun h => absurd h.2 (Nat.not_le.mpr hBound), fun h => absurd h.2 (Nat.not_le.mpr hBound)⟩
    · rw [if_neg hBound, validated_read, measured_inside]
      have hMeasured : ¬ (dropsEmpty = true ∧ lenOf m = 0) ∧ lenOf m + offsetOf m ≤ bound :=
        ⟨hEmpty, Nat.not_lt.mp hBound⟩
      simp only [hMeasured, not_false_eq_true, true_and, true_implies]
      refine and_congr_right fun hFits => ?_
      by_cases hSum : ChecksumOk m
      · rw [if_pos hSum, validated_processRxPkt]
        exact ⟨fun h _ => ⟨h.2.1, h.2.2.2⟩, fun h => ⟨hHeader, (h hSum).1, hFits, (h hSum).2⟩⟩
      · rw [if_neg hSum]
        exact iff_of_true validated_giveBack fun h => absurd h hSum

theorem process_checked (dropsEmpty : Bool) (bound : Nat) :
    .process ∈ (if dropsEmpty = true ∧ lenOf m = 0 then [.giveBack]
        else if bound < lenOf m + offsetOf m then [.giveBack]
        else .read ⟨0, lenOf m + offsetOf m⟩ ::
          if ChecksumOk m then processRxPkt m else [.giveBack] : List Effect) ↔
      Measured dropsEmpty bound m ∧ ChecksumOk m := by
  unfold Measured
  by_cases hEmpty : dropsEmpty = true ∧ lenOf m = 0
  · simp [hEmpty]
  · by_cases hBound : bound < lenOf m + offsetOf m
    · simp only [hEmpty, hBound, if_true, if_false, List.mem_singleton, reduceCtorEq, false_iff]
      exact fun h => Nat.not_lt.mpr h.1.2 hBound
    · by_cases hSum : ChecksumOk m
      · simp [hEmpty, hBound, hSum, processRxPkt, Nat.not_lt.mp hBound]
      · simp [hEmpty, hBound, hSum]

/-- When the SDIO, SPI and SPI-HD paths validate a frame. -/
theorem receive_validated_iff (dropsEmpty : Bool) (bound : Nat) {onStop : List Effect}
    (hStop : ∀ e ∈ onStop, e = .resetTxReady) :
    Validated m received (receive dropsEmpty bound onStop m) ↔
      Sound dropsEmpty bound m received := by
  have hHeader : Range.Inside received ⟨0, headerSize⟩ ↔ headerSize ≤ received := by
    rw [inside_zero (by decide), Nat.zero_add]
  rw [receive, List.cons_append, validated_read, hHeader, validated_powerSave hStop]
  constructor
  · rintro ⟨hLong, hValidated, hSignals⟩
    obtain ⟨hMeasured, hPassed⟩ := (validated_checked dropsEmpty bound hLong).mp hValidated
    exact ⟨hLong, hMeasured, fun h =>
      (hSignals h).imp_left (process_checked dropsEmpty bound).mp, hPassed⟩
  · rintro ⟨hLong, hMeasured, hSignals, hPassed⟩
    exact ⟨hLong, (validated_checked dropsEmpty bound hLong).mpr ⟨hMeasured, hPassed⟩, fun h =>
      (hSignals h).imp_left (process_checked dropsEmpty bound).mpr⟩

end Effects

/-! ## The transports -/

/-- The UART reads a header that was not received only after an error, and compares the lengths
before it looks at the flags. -/
theorem uartRxTask_validated_iff (r : UartRead) :
    Validated r.scratch r.received (uartRxTask r) ↔ UartSound r := by
  have hTwelve : (headerSize : Int) = 12 := rfl
  have hHeaderLe := r.header_le
  have hPayloadLe := r.payload_le
  unfold uartRxTask UartSound
  by_cases hShort : 0 ≤ r.header ∧ r.header < headerSize
  · rw [if_pos hShort]
    exact iff_of_true validated_nil ⟨hShort.1, fun h => absurd hShort.2 (by omega)⟩
  · rw [if_neg hShort, validated_read, inside_zero (by decide), Nat.zero_add]
    by_cases hError : r.header < 0
    · refine iff_of_false (fun h => ?_) fun h => absurd h.1 (Int.not_le.mpr hError)
      have hNone : r.received = 0 := by
        rw [UartRead.received, if_pos (by omega)]
        omega
      exact absurd h.1 (by rw [hNone]; decide)
    · have hAll : r.header = headerSize := by omega
      have hReceived : r.received = headerSize + r.payload.toNat := by
        rw [UartRead.received, if_neg (by omega)]
      rw [and_iff_right (by rw [hReceived]; exact Nat.le_add_right _ _)]
      simp only [hAll, true_implies]
      rw [and_iff_right (Int.natCast_nonneg _)]
      by_cases hOffset : offsetOf r.scratch = headerSize
      · rw [if_neg (not_not.mpr hOffset)]
        simp only [hOffset, true_implies]
        by_cases hMax : lenOf r.scratch + headerSize ≤ spiBufferSize
        · rw [if_neg (Nat.not_lt.mpr hMax)]
          simp only [hMax, true_implies]
          by_cases hRest : lenOf r.scratch ≠ 0 → r.payload = lenOf r.scratch
          · have hLong : ¬ (lenOf r.scratch ≠ 0 ∧ r.payload < lenOf r.scratch) := fun h =>
              absurd (hRest h.1) (by omega)
            have hExact : lenOf r.scratch + headerSize = r.received := by
              by_cases hLen : lenOf r.scratch = 0
              · omega
              · have hEq := hRest hLen
                omega
            rw [if_neg hLong, validated_powerSave (fun _ h => (List.not_mem_nil h).elim),
              validated_read, inside_zero (by simp [headerSize]), Nat.zero_add]
            rw [and_iff_right (Nat.le_of_eq hExact), forall_prop_of_true hRest]
            by_cases hSum : ChecksumOk r.scratch
            · have hProcess : Effect.process ∈ Effect.read ⟨0, lenOf r.scratch + headerSize⟩ ::
                  processRxPkt r.scratch := by simp [processRxPkt]
              rw [if_pos hSum, validated_processRxPkt]
              exact ⟨fun h => ⟨fun _ => hSum, fun _ => h.1.2.2.2⟩, fun h => ⟨⟨by omega, by omega,
                by omega, h.2 hSum⟩, fun _ => .inl hProcess⟩⟩
            · rw [if_neg hSum]
              refine ⟨fun h => ⟨fun hSignals => ?_, fun hNot => absurd hNot hSum⟩,
                fun h => ⟨validated_nil, fun hSignals => absurd (h.1 hSignals) hSum⟩⟩
              rcases h.2 hSignals with hProcess | hIntact
              · exact absurd (List.mem_singleton.mp hProcess) Effect.noConfusion
              · exact hIntact.2.2.2
          · have hStop : lenOf r.scratch ≠ 0 ∧ r.payload < lenOf r.scratch := by omega
            rw [if_pos hStop]
            exact iff_of_true validated_nil fun h => absurd h hRest
        · rw [if_pos (Nat.not_le.mp hMax)]
          exact iff_of_true validated_nil fun h => absurd h hMax
      · rw [if_pos hOffset]
        exact iff_of_true validated_nil fun h => absurd h hOffset

/-- The transports validate what they receive where a frame is sound. -/
theorem validated_iff (f : Frame) : Validated f.memory f.received f.effects ↔ f.Sound := by
  have hNil : ∀ e ∈ ([] : List Effect), e = .resetTxReady := fun _ h => (List.not_mem_nil h).elim
  cases f with
  | sdio m received => exact receive_validated_iff _ _ hNil
  | spi m received => exact receive_validated_iff _ _ hNil
  | spiHd m received =>
    by_cases hNone : received = 0
    · refine iff_of_true ?_ (.inl hNone)
      rw [Frame.effects, spiHdRxTask, if_pos hNone]
      exact validated_giveBack
    · rw [Frame.effects, spiHdRxTask, if_neg hNone]
      refine (receive_validated_iff _ _ ?_).trans (or_iff_right hNone).symm
      exact fun e he => List.mem_singleton.mp he
  | uart r => exact uartRxTask_validated_iff r

/-- A frame of 13 bytes that says that power saving starts, without a checksum. -/
def starting : Memory := fun i => [1, 4, 1, 0, 12, 0].getD i 0

/-- The power management is told what the flags of a frame say whose checksum is wrong. -/
theorem signal_unchecked : ¬ ∀ f : Frame, Validated f.memory f.received f.effects := by
  intro h
  have hLen : lenOf starting ≠ 0 := by decide
  exact (h (.sdio starting 13)).quiet (by decide) (fun hEmpty => hLen hEmpty.1) (.powerSave true)
    (by decide)

end EspHosted.Coprocessor.Receive
